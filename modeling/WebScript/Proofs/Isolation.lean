import WebScript.Proofs.Calls

/-!
# Tiers are isolated

* `Run.callHttp_ends`, `Validator.call_ends`: no object reports that a method is missing but for
  one that it does not list.
* `tier_isolation`: **what an object does not list is refused and has no effect**, in any state;
  no run below the full tier reaches the transport, and no run of a widget changes its response.
-/

namespace WebScript

open Result Failure

/-- Nothing has changed between two states but the log. -/
structure Run.Untouched (s s' : Run) : Prop where
  context : s'.context = s.context
  response : s'.exchange.response = s.exchange.response
  broken : s'.exchange.broken = s.exchange.broken
  sentRequests : s'.exchange.sentRequests = s.exchange.sentRequests

namespace Run

variable {h : Host} {s : Run}

theorem Untouched.refl (s : Run) : s.Untouched s := ⟨rfl, rfl, rfl, rfl⟩

theorem Untouched.trans {s s' s'' : Run} (h : s.Untouched s') (h' : s'.Untouched s'') :
    s.Untouched s'' where
  context := h'.context.trans h.context
  response := h'.response.trans h.response
  broken := h'.broken.trans h.broken
  sentRequests := h'.sentRequests.trans h.sentRequests

theorem untouched_log (s : Run) (line : LogLine) : s.Untouched (s.mapExchange (·.log line)) where
  context := rfl
  response := rfl
  broken := rfl
  sentRequests := (Exchange.evolves_log (P := fun _ => False) line s.exchange).sentRequests
    fun _ hf => hf.elim

end Run

/-! ## Which failures operations end with -/

namespace OutboundRequest

theorem ofGet_ends (url : String) : Ends (·.isMissing = false) (fun _ => True) (ofGet url) := by
  unfold ofGet readTarget
  split
  · exact .ok trivial
  · exact .error rfl

theorem ofForm_ends (url : String) (data : Option Table) :
    Ends (·.isMissing = false) (fun _ => True) (ofForm url data) := by
  unfold ofForm
  split
  · unfold readTarget
    split
    · exact .ok trivial
    · exact .error rfl
  · exact .error rfl

theorem ofConfig_ends (config : Table) :
    Ends (·.isMissing = false) (fun _ => True) (ofConfig config) := by
  have hstring (v : Value) (what : String) :
      Ends (·.isMissing = false) (fun _ => True) (ClientConfig.readString v what) := by
    unfold ClientConfig.readString
    split
    · exact .ok trivial
    · exact .error rfl
  have htimeout (v : Value) :
      Ends (·.isMissing = false) (fun _ => True) (ClientConfig.readTimeout v) := by
    unfold ClientConfig.readTimeout
    split
    · split
      · exact .ok trivial
      · exact .error rfl
    · exact .ok trivial
  have hrequest (c : ClientConfig) : Ends (·.isMissing = false) (fun _ => True) c.toRequest := by
    unfold ClientConfig.toRequest
    split
    · exact .error rfl
    · split
      · exact .ok trivial
      · exact .error rfl
  have htable : Ends (·.isMissing = false) (fun _ => True) (ClientConfig.ofTable config) :=
    (htimeout _).bind fun _ _ => (hstring _ _).bind fun _ _ => (hstring _ _).bind
      fun _ _ => .ok trivial
  exact htable.bind fun c _ => hrequest c

end OutboundRequest

namespace Run

variable {h : Host}

theorem sendIf_ends (ht : ∀ r m t, h.transport r ≠ .error (.missingCapability m t)) (s : Run)
    {request : Result OutboundRequest} (hr : Ends (·.isMissing = false) (fun _ => True) request)
    (answer : OutboundResponse → List Value) :
    Ends (·.isMissing = false) (fun _ => True) (s.sendIf h request answer).1 := by
  rcases sendIf_cases h s request answer with ⟨_, r, e⟩ | ⟨f, hf, e⟩ <;> rw [e]
  · refine Ends.map (Q := fun _ => True) ?_ fun _ _ => trivial
    cases ha : h.transport r with
    | ok _ => exact .ok trivial
    | error f =>
      cases f with
      | missingCapability m t => exact absurd ha (ht r m t)
      | _ => exact .error rfl
  · rw [hf] at hr
    exact .error hr.of_error

theorem writeBody_ends (s : Run) (doing : String) (bytes : Bytes) :
    Ends (·.isMissing = false) (fun _ => True) (s.writeBody doing bytes).1 := by
  rcases writeBody_cases s doing bytes with ⟨_, e⟩ | ⟨_, _, _, e⟩ <;> rw [e]
  · exact .ok trivial
  · exact .error rfl

/-- **No operation reports a missing method**, if the transport does not. -/
theorem perform_ends (ht : ∀ r m t, h.transport r ≠ .error (.missingCapability m t)) (s : Run)
    (op : Operation) : Ends (·.isMissing = false) (fun _ => True) (s.perform h op).1 := by
  cases op <;> rw [perform]
  case getCookie | getHeader | setHeader | redirect | relativeUrl => exact .ok trivial
  case getFile => exact .ok trivial
  case setCookie name value expires =>
    rcases setCookie_cases h s name value expires with ⟨_, e⟩ | ⟨_, e⟩ <;> rw [e]
    · exact .ok trivial
    · exact .error rfl
  case parseForm maxMemory =>
    rcases parseForm_cases h s maxMemory with ⟨c, hc, e⟩ | ⟨_, e⟩ <;> rw [e]
    · exact .ok trivial
    · exact .error rfl
  case write => exact writeBody_ends _ _ _
  case render template args =>
    rcases render_cases h s template args with ⟨_, e⟩ | ⟨_, e⟩ <;> rw [e]
    · exact .ok trivial
    · exact .error rfl
  case serveFile path =>
    rcases serveFile_cases h s path with ⟨bytes, e⟩ | ⟨_, e⟩ <;> rw [e]
    · exact writeBody_ends _ _ _
    · exact .error rfl
  case remoteAddress =>
    refine Ends.map (Q := fun _ => True) ?_ fun _ _ => trivial
    unfold Http.splitHostPort
    split
    · exact .ok trivial
    · exact .error rfl
  case get url => exact sendIf_ends ht s (OutboundRequest.ofGet_ends url) _
  case postForm url data => exact sendIf_ends ht s (OutboundRequest.ofForm_ends url data) _
  case request config => exact sendIf_ends ht s (OutboundRequest.ofConfig_ends config) _

/-- A method that is not listed is refused, and nothing but the log tells of it. -/
theorem callHttp_of_not_mem (h : Host) (s : Run) {method : String}
    (hm : method ∉ (Operation.methods s.context.tier).names) (args : List Value) :
    (s.callHttp h method args).1 = .error (.missingCapability method s.context.tier) ∧
      s.Untouched (s.callHttp h method args).2 := by
  rcases callHttp_cases h s method args with ⟨ht, e⟩ | ⟨_, _, e⟩ | ⟨hm', _⟩ | ⟨hm', _⟩
  · rw [e, ht]
    exact ⟨rfl, untouched_log s _⟩
  · rw [e]
    exact ⟨rfl, .refl s⟩
  · exact absurd hm' hm
  · exact absurd hm' hm

/-- A method that is listed is never reported missing. -/
theorem callHttp_of_mem (ht : ∀ r m t, h.transport r ≠ .error (.missingCapability m t)) (s : Run)
    {method : String} (hm : method ∈ (Operation.methods s.context.tier).names)
    (args : List Value) :
    Ends (·.isMissing = false) (fun _ => True) (s.callHttp h method args).1 := by
  rcases callHttp_cases h s method args with ⟨hw, _⟩ | ⟨_, hm', _⟩ | ⟨_, f, hf, e⟩ | ⟨_, op, _, e⟩
  · rw [hw] at hm
    cases hm
  · exact absurd hm hm'
  · rw [e]
    exact .error hf.isMissing_eq_false
  · rw [e]
    exact perform_ends ht s op

end Run

namespace Validator

theorem answer_ends (v : Validator) (q : Question) :
    Ends (·.isMissing = false) (fun _ => True) (v.answer q) := by
  cases q <;> rw [answer]
  case passes =>
    split
    · exact .ok trivial
    · exact .error rfl
  case confirms code secret =>
    refine Ends.map (Q := fun _ => True) ?_ fun _ _ => trivial
    unfold confirms
    split
    · exact .error rfl
    · split
      · exact .ok trivial
      · exact .ok trivial
      · exact .error rfl
  case withoutListed | escaped | vocation | town | gender | guildName | guildRank | username =>
    exact .ok trivial

theorem call_of_not_mem (v : Validator) {method : String} (hm : method ∉ Question.methods.names)
    (args : List Value) : v.call method args = .error (.missingCapability method v.tier) := by
  rw [call, Methods.read_of_not_mem hm]
  rfl

theorem call_of_mem (v : Validator) {method : String} (hm : method ∈ Question.methods.names)
    (args : List Value) : Ends (·.isMissing = false) (fun _ => True) (v.call method args) := by
  have hread := Methods.read_ends hm v.tier fun _ hr => Question.methods_ends hr args
  exact (hread.mono (fun _ hf => hf.isMissing_eq_false) fun _ hq => hq).bind fun q _ =>
    (answer_ends v q).bind fun _ _ => .ok trivial

end Validator

/-! ## Which runs depend on the transport -/

namespace Run

variable {h : Host} {s : Run}

/-- An operation that is not outbound is the same over any transport. -/
theorem perform_transport {op : Operation} (hop : op.isOutbound = false) (h : Host) (s : Run)
    (t : Transport) :
    s.perform { h with transport := t } op = s.perform h op := by
  cases op with
  | get _ | postForm _ _ | request _ => cases hop
  | parseForm maxMemory =>
    -- the memory allowed comes from the settings, which both hosts share
    have hm : Host.memoryFor { h with transport := t } maxMemory = h.memoryFor maxMemory := rfl
    unfold perform parseForm
    dsimp only
    rw [hm]
  | _ => rfl

theorem callHttp_transport (ht : s.context.tier ≠ .full) (h : Host) (t : Transport)
    (method : String) (args : List Value) :
    s.callHttp { h with transport := t } method args = s.callHttp h method args := by
  by_cases hw : s.context.tier = .widget
  · rw [callHttp_widget hw, callHttp_widget hw]
  by_cases hm : method ∈ (Operation.methods s.context.tier).names
  · have he := Operation.read_ends hm args
    cases hr : (Operation.methods s.context.tier).read s.context.tier method args with
    | error f => rw [callHttp_of_error hw hr, callHttp_of_error hw hr]
    | ok op =>
      rw [hr] at he
      have hop : op.isOutbound = false := Operation.isOutbound_of_mem ht (he.of_ok ▸ hm)
      rw [callHttp_of_ok hw hr, callHttp_of_ok hw hr, perform_transport hop h s t]
  · have hr := Methods.read_of_not_mem hm s.context.tier args
    rw [callHttp_of_error hw hr, callHttp_of_error hw hr]

/-- **Below the full tier a run is the same over any transport.** -/
theorem after_transport (ht : s.context.tier ≠ .full) (h : Host) (t : Transport)
    (calls : List Call) :
    s.after { h with transport := t } calls = s.after h calls := by
  induction calls generalizing s with
  | nil => rw [after_nil, after_nil]
  | cons c calls ih =>
    have hcall : (s.call { h with transport := t } c.target c.method c.args).2 =
        (s.call h c.target c.method c.args).2 := by
      rw [call_state, call_state, callHttp_transport ht h t]
    -- the tier is part of the binding, so the induction goes on from the state after the call
    have htier := Context.tier_eq_of_binding (call_binding h s c.target c.method c.args)
    rw [after_cons, after_cons, hcall, ih (htier ▸ ht)]

/-- A widget does nothing to its response. -/
theorem after_widget (ht : s.context.tier = .widget) (h : Host) (calls : List Call) :
    s.Untouched (s.after h calls) := by
  refine (after_induction (I := fun t => t.context.tier = .widget ∧ s.Untouched t) ?_
    ⟨ht, .refl s⟩ calls).2
  rintro t target method args ⟨hw, hu⟩
  refine ⟨(Context.tier_eq_of_binding (call_binding h t target method args)).trans hw, ?_⟩
  rw [call_state]
  split
  · rw [callHttp_widget hw]
    exact hu.trans (untouched_log t _)
  · exact hu

end Run

/-! ## Isolation -/

/-- **Tiers are isolated.** What an object lists is what it can read. In every state it refuses the
methods that it does not list, and only these, and a refusal has no effect but on the log. So no
run below the full tier hands a request to the transport or depends on it, and no run of a widget
changes the response. -/
theorem tier_isolation {h : Host} (hc : h.Confined)
    (ht : ∀ r m t, h.transport r ≠ .error (.missingCapability m t)) :
    ((∀ tier, (Operation.methods tier).names = tier.listed) ∧
      Question.methods.names = Validator.listed) ∧
    (∀ (s : Run) (method : String) (args : List Value),
      ((∃ m t, (s.callHttp h method args).1 = .error (.missingCapability m t)) ↔
        method ∉ s.context.tier.listed) ∧
      (method ∉ s.context.tier.listed →
        (s.callHttp h method args).1 = .error (.missingCapability method s.context.tier) ∧
          s.Untouched (s.callHttp h method args).2)) ∧
    (∀ (v : Validator) (method : String) (args : List Value),
      ((∃ m t, v.call method args = .error (.missingCapability m t)) ↔
        method ∉ Validator.listed) ∧
      (method ∉ Validator.listed →
        v.call method args = .error (.missingCapability method v.tier))) ∧
    (∀ (s : Run) (method : String) (args : List Value), (s.call h "validator" method args).2 = s) ∧
    (∀ (x : Exchange) (tier : Tier) (r : Request) (session : Session) (calls : List Call),
      tier ≠ .full →
        ((x.bind tier r session).after h calls).exchange.sentRequests = x.sentRequests ∧
        ∀ t : Transport, (x.bind tier r session).after { h with transport := t } calls =
          (x.bind tier r session).after h calls) ∧
    (∀ (x : Exchange) (r : Request) (session : Session) (calls : List Call),
      ((x.bind .widget r session).after h calls).exchange.response = x.response) := by
  -- the tables, then the calls that change nothing, then whole runs
  refine ⟨⟨Operation.names_methods, Question.names_methods⟩, fun s method args => ?_,
    fun v method args => ?_, fun s method args => ?_,
    fun x tier r session calls htier => ⟨?_, fun t => ?_⟩, fun x r session calls => ?_⟩
  · rw [← Operation.names_methods]
    refine ⟨⟨?_, fun hm => ⟨_, _, (Run.callHttp_of_not_mem h s hm args).1⟩⟩,
      fun hm => Run.callHttp_of_not_mem h s hm args⟩
    rintro ⟨m, t, e⟩ hm
    have he := Run.callHttp_of_mem ht s hm args
    rw [e] at he
    cases he.of_error
  · rw [← Question.names_methods]
    refine ⟨⟨?_, fun hm => ⟨_, _, v.call_of_not_mem hm args⟩⟩, fun hm => v.call_of_not_mem hm args⟩
    rintro ⟨m, t, e⟩ hm
    have he := v.call_of_mem hm args
    rw [e] at he
    cases he.of_error
  · rw [Run.call_state, if_neg (by decide)]
  · have he := Run.after_evolves hc (x.bind tier r session) calls
    rw [he.sentRequests fun e hs => Bool.eq_false_iff.2 fun hsent => htier (hs hsent)]
    exact (Run.untouched_log ⟨Context.ofRequest tier r session, x⟩ _).sentRequests
  · exact Run.after_transport htier h t calls
  · exact (Run.after_widget rfl h calls).response

/-- On a plain host a regular script asks for a page of another host in vain. -/
theorem tier_isolation_plain :
    Host.plain.Confined ∧
    ((((Exchange.start none).bind .regular (.new "1" "GET" "/") .anonymous).callHttp .plain "get"
      [.string "http://internal/"]).1 = .error (.missingCapability "get" .regular)) ∧
    (((Exchange.start none).bind .regular (.new "1" "GET" "/") .anonymous).after .plain
      [⟨"http", "get", [.string "http://internal/"]⟩]).exchange.sentRequests = [] := by
  obtain ⟨-, hcall, -, -, hrun, -⟩ := tier_isolation Host.plain_confined fun r m t e => by cases e
  have hget : "get" ∉ Tier.regular.listed := by decide
  exact ⟨Host.plain_confined, ((hcall _ _ _).2 hget).1, (hrun _ _ _ _ _ (by decide)).1⟩

end WebScript
