import WebScript.Proofs.Observation

/-!
# A regular script is a full one without outbound calls

Two states are alike if they differ in their tiers and in what has been noted on the way.

* `Host.Unaware`: renderer and compiler do not know what has been noted.
* `Run.perform_alike`: **an operation does the same in states that are alike**.
* `Run.Mirrors.call`: what one call does to a full and to a regular script.
* `full_refines_regular`: **but for outbound calls, which are refused, a regular script does what a
  full one does**, after any calls.
-/

namespace WebScript

/-- Two exchanges are the same to a response writer. -/
structure Exchange.Alike (x y : Exchange) : Prop where
  response : y.response = x.response
  broken : y.broken = x.broken

/-- **Renderer and compiler are unaware** of what has been noted in an exchange: they are handed a
response writer, and a writer does not show the log. -/
structure Host.Unaware (h : Host) : Prop where
  renderer : ∀ r template args (x y : Exchange), x.Alike y →
    (h.renderer r template args y).1 = (h.renderer r template args x).1 ∧
      (h.renderer r template args x).2.Alike (h.renderer r template args y).2
  compiler : ∀ r session (x y : Exchange), x.Alike y →
    (h.compiler r session y).1 = (h.compiler r session x).1 ∧
      (h.compiler r session x).2.Alike (h.compiler r session y).2

namespace Exchange

variable {x y z : Exchange}

theorem Alike.trans (hxy : x.Alike y) (hyz : y.Alike z) : x.Alike z :=
  ⟨hyz.response.trans hxy.response, hyz.broken.trans hxy.broken⟩

theorem Alike.write (hxy : x.Alike y) (bytes : Bytes) :
    (y.write bytes).1 = (x.write bytes).1 ∧ (x.write bytes).2.Alike (y.write bytes).2 := by
  obtain ⟨response, broken, events⟩ := x
  obtain ⟨response', broken', events'⟩ := y
  obtain ⟨rfl, rfl⟩ := hxy
  cases broken' with
  | none => exact ⟨rfl, rfl, rfl⟩
  | some reason => exact ⟨rfl, rfl, rfl⟩

end Exchange

/-- The context with another tier. -/
def Context.atTier (c : Context) (tier : Tier) : Context := { c with tier := tier }

namespace Context

variable (c : Context) (tier : Tier)

/-- Page and event hook read the same fields. -/
theorem field_atTier (hc : c.tier ≠ .widget) (ht : tier ≠ .widget) (name : String) :
    (c.atTier tier).field name = c.field name := by
  have hleft : (c.atTier tier).field name = _ := if_neg ht
  have hright : c.field name = _ := if_neg hc
  rw [hleft, hright]
  rfl

end Context

/-- Two states are alike: at tiers of their own, but with the same in all else that matters to
scripts. -/
structure Run.Alike (s s' : Run) : Prop where
  context : ∃ tier, s'.context = s.context.atTier tier
  exchange : s.exchange.Alike s'.exchange

/-- Two outcomes agree: the answers are the same and the states are alike. -/
structure Run.Agree (o o' : Result (List Value) × Run) : Prop where
  answer : o'.1 = o.1
  state : o.2.Alike o'.2

/-! ## One operation -/

/-- **An observer without a log**, who sees no event and no tier. -/
def Observer.unlogged : Observer where
  event _ := none
  tier _ _ := True
  session := Eq
  line _ _ _ _ := rfl

namespace Observer

variable {h : Host} {x y : Exchange} {s s' : Run}

theorem unlogged_sameExchange_iff : unlogged.SameExchange x y ↔ x.Alike y := by
  have hnone (es : List Event) : es.filterMap unlogged.event = [] :=
    List.filterMap_eq_nil_iff.2 fun _ _ => rfl
  refine ⟨fun hxy => ⟨hxy.response, hxy.broken⟩, fun hxy => ⟨hxy.response, hxy.broken, ?_⟩⟩
  rw [hnone, hnone]

theorem unlogged_sameRun_iff : unlogged.SameRun s s' ↔ s.Alike s' := by
  constructor
  · rintro ⟨⟨-, hsession, hrest⟩, hexchange⟩
    have hsession : s.context.session = s'.context.session := hsession
    refine ⟨⟨s'.context.tier, ?_⟩, unlogged_sameExchange_iff.1 hexchange⟩
    rw [← hsession] at hrest
    exact hrest
  · rintro ⟨⟨tier, hcontext⟩, hexchange⟩
    refine ⟨?_, unlogged_sameExchange_iff.2 hexchange⟩
    rw [hcontext]
    exact ⟨trivial, rfl, rfl⟩

/-- Without a log there is nothing to know about renderer and compiler. -/
theorem unlogged_suffices (hu : h.Unaware) : unlogged.Suffices h where
  renderer r template args x y hxy := by
    rw [unlogged_sameExchange_iff] at hxy ⊢
    exact hu.renderer r template args x y hxy
  compiler r session session' x y hsession hxy := by
    have hsession : session = session' := hsession
    rw [unlogged_sameExchange_iff] at hxy ⊢
    rw [← hsession]
    exact hu.compiler r session x y hxy

end Observer

namespace Run

variable {h : Host} {s s' : Run}

/-- **An operation does the same in states that are alike.** -/
theorem perform_alike (hu : h.Unaware) (hs : s.Alike s') (op : Operation) :
    Agree (s.perform h op) (s'.perform h op) := by
  obtain ⟨hanswer, hstate⟩ :=
    Observer.perform (Observer.unlogged_suffices hu) (Observer.unlogged_sameRun_iff.2 hs) op
  exact ⟨hanswer, Observer.unlogged_sameRun_iff.1 hstate⟩

/-- A request for another host leaves nothing in the state but what is noted. -/
theorem perform_outbound (h : Host) (s : Run) {op : Operation} (hop : op.isOutbound = true) :
    (s.perform h op).2.context = s.context ∧
      (s.perform h op).2.exchange.Alike s.exchange := by
  have hsend (request : Result OutboundRequest) (answer : OutboundResponse → List Value) :
      (s.sendIf h request answer).2.context = s.context ∧
        (s.sendIf h request answer).2.exchange.Alike s.exchange := by
    rcases sendIf_cases h s request answer with ⟨_, _, e⟩ | ⟨_, _, e⟩ <;> rw [e]
    · exact ⟨rfl, rfl, rfl⟩
    · exact ⟨rfl, rfl, rfl⟩
  cases op with
  | get url =>
    rw [perform]
    exact hsend _ _
  | postForm url data =>
    rw [perform]
    exact hsend _ _
  | request config =>
    rw [perform]
    exact hsend _ _
  | _ => cases hop

end Run

/-! ## One call -/

/-- **Results of a full and of a regular script correspond**: they are equal, but for the tier at
which a method is reported missing. -/
inductive Result.Corresponds {α : Type} : Result α → Result α → Prop
  | same (r : Result α) : Corresponds r r
  | missing (method : String) :
    Corresponds (.error (.missingCapability method .full))
      (.error (.missingCapability method .regular))

/-- The methods that reach other hosts. -/
def Operation.outboundNames : List String := ["get", "postForm", "request"]

namespace Operation

theorem isOutbound_of_method_mem {op : Operation} (h : op.method ∈ outboundNames) :
    op.isOutbound = true := by
  cases op with
  | get _ | postForm _ _ | request _ => rfl
  | _ => simp [method, outboundNames] at h

/-- A method that reaches no other host is read alike at both tiers, or at none. -/
theorem read_full_cases {method : String} (hm : method ∉ outboundNames) (args : List Value) :
    (methods .full).read .full method args = (methods .regular).read .regular method args ∨
      ((methods .full).read .full method args = .error (.missingCapability method .full) ∧
        (methods .regular).read .regular method args =
          .error (.missingCapability method .regular)) := by
  by_cases hshared : method ∈ sharedMethods.names
  · left
    obtain ⟨reader, hl⟩ := Methods.exists_lookup hshared
    rw [read_shared (by decide) method hl, read_shared (by decide) method hl]
  · right
    have hfull : method ∉ (methods .full).names := by
      rw [names_methods]
      intro hmem
      have hcases : method ∈ Tier.regular.listed ++ outboundNames := hmem
      rcases List.mem_append.1 hcases with hmem | hmem
      · exact hshared hmem
      · exact hm hmem
    exact ⟨Methods.read_of_not_mem hfull _ _, Methods.read_of_not_mem hshared _ _⟩

end Operation

/-- **A full and a regular script that mirror each other**: but for their tiers, and what has been
noted, they are in the same state. -/
structure Run.Mirrors (s s' : Run) : Prop where
  full : s.context.tier = .full
  context : s'.context = s.context.atTier .regular
  exchange : s.exchange.Alike s'.exchange

namespace Run.Mirrors

variable {h : Host} {s s' : Run}

theorem regular (hm : s.Mirrors s') : s'.context.tier = .regular := by
  rw [hm.context]
  rfl

theorem alike (hm : s.Mirrors s') : s.Alike s' := ⟨⟨.regular, hm.context⟩, hm.exchange⟩

/-- Mirrored states that stay alike and keep their tiers are mirrored states again. -/
theorem of_alike {t t' : Run} (hm : s.Mirrors s') (ht : t.context.binding = s.context.binding)
    (ht' : t'.context.binding = s'.context.binding) (halike : t.Alike t') : t.Mirrors t' := by
  have hfull : t.context.tier = .full := (Context.tier_eq_of_binding ht).trans hm.full
  have hregular : t'.context.tier = .regular := (Context.tier_eq_of_binding ht').trans hm.regular
  refine ⟨hfull, ?_, halike.exchange⟩
  obtain ⟨tier, hcontext⟩ := halike.context
  have htier : tier = .regular := by
    rw [hcontext] at hregular
    exact hregular
  rw [hcontext, htier]

/-- A full and a regular script of one request mirror each other when they are bound. -/
theorem bind (x : Exchange) (r : Request) (session : Session) :
    (x.bind .full r session).Mirrors (x.bind .regular r session) :=
  ⟨rfl, rfl, rfl, rfl⟩

theorem callHttp (hu : h.Unaware) (hm : s.Mirrors s') {method : String}
    (hmethod : method ∉ Operation.outboundNames) (args : List Value) :
    Result.Corresponds (s.callHttp h method args).1 (s'.callHttp h method args).1 ∧
      (s.callHttp h method args).2.Alike (s'.callHttp h method args).2 := by
  have ht : s.context.tier ≠ .widget := by simp [hm.full]
  have ht' : s'.context.tier ≠ .widget := by simp [hm.regular]
  rw [callHttp_eq ht, callHttp_eq ht', hm.full, hm.regular]
  rcases Operation.read_full_cases hmethod args with hread | ⟨hread, hread'⟩
  · rw [hread]
    cases (Operation.methods .regular).read .regular method args with
    | error f => exact ⟨.same _, hm.alike⟩
    | ok op =>
      obtain ⟨hanswer, hleft⟩ := perform_alike hu hm.alike op
      refine ⟨?_, hleft⟩
      dsimp only
      rw [hanswer]
      exact .same _
  · rw [hread, hread']
    exact ⟨.missing method, hm.alike⟩

/-- Validators of both tiers answer alike. -/
theorem validator (h : Host) (method : String) (args : List Value) :
    Result.Corresponds ((h.validator .full).call method args)
      ((h.validator .regular).call method args) := by
  by_cases hm : method ∈ Question.methods.names
  · obtain ⟨reader, hl⟩ := Methods.exists_lookup hm
    have hread (tier : Tier) : Question.methods.read tier method args = reader args := by
      rw [Methods.read, hl]
    have hcall : (h.validator .full).call method args =
        (h.validator .regular).call method args := by
      unfold Validator.call
      rw [hread, hread]
      rfl
    rw [hcall]
    exact .same _
  · have hmissing (tier : Tier) :
        (h.validator tier).call method args = .error (.missingCapability method tier) := by
      unfold Validator.call
      rw [Methods.read_of_not_mem hm]
      rfl
    rw [hmissing, hmissing]
    exact .missing method

/-- A regular script is refused what reaches other hosts, and nothing happens. -/
theorem refused (hm : s.Mirrors s') (h : Host) {method : String}
    (hmethod : method ∈ Operation.outboundNames) (args : List Value) :
    s'.callHttp h method args = (.error (.missingCapability method .regular), s') := by
  have ht' : s'.context.tier ≠ .widget := by simp [hm.regular]
  have hmissing : method ∉ (Operation.methods .regular).names := by
    simp only [Operation.outboundNames, List.mem_cons, List.not_mem_nil, or_false] at hmethod
    rcases hmethod with rfl | rfl | rfl <;> decide
  have hread : (Operation.methods s'.context.tier).read s'.context.tier method args =
      .error (.missingCapability method .regular) := by
    rw [hm.regular]
    exact Methods.read_of_not_mem hmissing _ _
  exact callHttp_of_error ht' hread

/-- What a full script asks of another host leaves it in the state that a regular script, which is
refused, stays in. -/
theorem outbound (hm : s.Mirrors s') (h : Host) {method : String}
    (hmethod : method ∈ Operation.outboundNames) (args : List Value) :
    (s.callHttp h method args).2.Mirrors s' := by
  have ht : s.context.tier ≠ .widget := by simp [hm.full]
  rw [callHttp_eq ht]
  cases hread : (Operation.methods s.context.tier).read s.context.tier method args with
  | error f => exact hm
  | ok op =>
    have hop : op.isOutbound = true := by
      apply Operation.isOutbound_of_method_mem
      rw [Operation.method_of_read hread]
      exact hmethod
    obtain ⟨hcontext, hexchange⟩ := perform_outbound h s hop
    refine ⟨?_, ?_, hexchange.trans hm.exchange⟩
    · rw [hcontext, hm.full]
    · rw [hcontext, hm.context]

/-- **A call leaves mirrored states mirrored**, whatever it is. -/
theorem call (hu : h.Unaware) (hm : s.Mirrors s') (target method : String) (args : List Value) :
    (s.call h target method args).2.Mirrors (s'.call h target method args).2 := by
  rw [call_state, call_state]
  by_cases htarget : target = "http"
  · rw [if_pos htarget, if_pos htarget]
    by_cases hmethod : method ∈ Operation.outboundNames
    · rw [hm.refused h hmethod]
      exact hm.outbound h hmethod args
    · have halike := (hm.callHttp hu hmethod args).2
      exact hm.of_alike (callHttp_binding h s method args) (callHttp_binding h s' method args)
        halike
  · rw [if_neg htarget, if_neg htarget]
    exact hm

/-- **Calls leave mirrored states mirrored.** -/
theorem after (hu : h.Unaware) (hm : s.Mirrors s') (calls : List Call) :
    (s.after h calls).Mirrors (s'.after h calls) := by
  induction calls generalizing s s' with
  | nil => exact hm
  | cons c calls ih =>
    rw [after_cons, after_cons]
    exact ih (hm.call hu c.target c.method c.args)

/-- The answer to a call that reaches no other host is the same for both scripts, but for the tier
in the report of a missing method. -/
theorem corresponds (hu : h.Unaware) (hm : s.Mirrors s') {target method : String}
    (hcall : ¬ (target = "http" ∧ method ∈ Operation.outboundNames)) (args : List Value) :
    Result.Corresponds (s.call h target method args).1 (s'.call h target method args).1 := by
  by_cases htarget : target = "http"
  · have hmethod : method ∉ Operation.outboundNames := fun hmem => hcall ⟨htarget, hmem⟩
    rw [htarget, call_http, call_http]
    exact (hm.callHttp hu hmethod args).1
  · have hnone {t : Run} (ht : t.context.tier ≠ .widget) :
        t.validator? h = some (h.validator t.context.tier) := if_neg ht
    unfold Run.call
    rw [if_neg htarget, if_neg htarget, hnone (by simp [hm.full]), hnone (by simp [hm.regular]),
      hm.full, hm.regular]
    split
    · exact validator h method args
    · exact .same _

end Run.Mirrors

/-- **Full refines regular.** A full and a regular script that are bound to one request with equal
exchanges mirror each other, and whatever is called of both, in whatever states that mirror each
other, they go on doing so: fields, values and form are equal, and so is the response. A call of
`http` by one of the names `get`, `postForm` and `request` is refused to the regular script and
leaves it as it is; any other call has equal answers, but for the tier at which a method is reported
missing. -/
theorem full_refines_regular {h : Host} (hu : h.Unaware) :
    (∀ x r session, (Exchange.bind x .full r session).Mirrors (x.bind .regular r session)) ∧
    ∀ s s' : Run, s.Mirrors s' → ∀ calls : List Call,
      let t := s.after h calls
      let t' := s'.after h calls
      ((∀ name, t'.context.field name = t.context.field name) ∧
        t'.context.values = t.context.values ∧ t'.context.form = t.context.form ∧
        t'.exchange.response = t.exchange.response) ∧
      ∀ target method args,
        (¬ (target = "http" ∧ method ∈ ["get", "postForm", "request"]) →
          Result.Corresponds (t.call h target method args).1 (t'.call h target method args).1) ∧
        (target = "http" ∧ method ∈ ["get", "postForm", "request"] →
          t'.call h target method args = (.error (.missingCapability method .regular), t')) := by
  refine ⟨Run.Mirrors.bind, ?_⟩
  intro s s' hm calls t t'
  have ht : t.Mirrors t' := hm.after hu calls
  refine ⟨⟨?_, ?_, ?_, ht.exchange.response⟩, ?_⟩
  · intro name
    rw [ht.context]
    exact Context.field_atTier _ _ (by simp [ht.full]) (by decide) name
  · rw [ht.context]
    rfl
  · rw [ht.context]
    rfl
  · intro target method args
    refine ⟨fun hcall => ht.corresponds hu hcall args, ?_⟩
    rintro ⟨rfl, hmethod⟩
    rw [Run.call_http]
    exact ht.refused h hmethod args

theorem Host.plain_unaware : plain.Unaware where
  renderer _ template _ _ _ hxy := by
    obtain ⟨-, hleft⟩ := hxy.write (Bytes.ofText template)
    exact ⟨rfl, hleft⟩
  compiler _ _ _ _ hxy := ⟨rfl, hxy⟩

/-- An event hook is refused what a page asks of another host, and both go on alike. -/
theorem full_refines_regular_plain :
    let page := (Exchange.start none).bind .full (.new "1" "GET" "/") .anonymous
    let hook := (Exchange.start none).bind .regular (.new "1" "GET" "/") .anonymous
    let calls : List Call :=
      [⟨"http", "get", [.string "http://other/"]⟩, ⟨"http", "write", [.string "a"]⟩]
    Host.plain.Unaware ∧ page.Mirrors hook ∧
      (hook.call .plain "http" "get" [.string "http://other/"]).1 =
        .error (.missingCapability "get" .regular) ∧
      (hook.after .plain calls).exchange.response =
        (page.after .plain calls).exchange.response := by
  intro page hook calls
  obtain ⟨hbind, hrun⟩ := full_refines_regular Host.plain_unaware
  have hm : page.Mirrors hook := hbind _ _ _
  obtain ⟨-, hcall⟩ := hrun page hook hm []
  have hrefused := (hcall "http" "get" [.string "http://other/"]).2 (by decide)
  obtain ⟨⟨-, -, -, hresponse⟩, -⟩ := hrun page hook hm calls
  refine ⟨Host.plain_unaware, hm, ?_, hresponse⟩
  exact congrArg Prod.fst hrefused

end WebScript
