import Mathlib.Tactic.ByContra
import WebScript.Proofs.Exchange
import WebScript.Proofs.Methods
import WebScript.Script

/-!
# What a call does

One call of a script, and any list of them.

* `Run.call_binding`: a call changes nothing of what a script is bound to but the form.
* `Run.call_evolves`: a call acts on the exchange by the operations of a response writer, and
  hands a request to the transport at the full tier only.
* `Run.call_cases`: a call performs the operation that it is read as, or next to nothing.
* `Run.after`: the state after a list of calls; `Script.run_state`: **a script comes to the state
  that its calls come to**.
-/

namespace WebScript

open Result Failure

/-- What a context is bound to, without what it holds of a form. -/
def Context.binding (c : Context) : Context := { c with values := .empty, form := none }

theorem Context.tier_eq_of_binding {c c' : Context} (h : c'.binding = c.binding) :
    c'.tier = c.tier := by
  have := congrArg Context.tier h
  exact this

theorem Context.binding_parseForm {c c' : Context} {maxMemory : Nat}
    (h : c.parseForm maxMemory = .ok c') : c'.binding = c.binding := by
  unfold parseForm at h
  split at h
  · cases h
    rfl
  · cases h

theorem Context.binding_withForm (c : Context) (maxMemory : Nat) :
    (c.withForm maxMemory).binding = c.binding := by
  unfold withForm
  split
  · rfl
  · split
    · rename_i h
      exact binding_parseForm h
    · rfl

namespace Run

variable {h : Host} {s : Run}

/-! ## One operation -/

theorem setCookie_cases (h : Host) (s : Run) (name value : String) (expires : Int) :
    (∃ header, s.setCookie h name value expires =
        (.ok [], s.mapExchange (·.mapHeaders (·.add "Set-Cookie" header)))) ∨
      ∃ m, s.setCookie h name value expires = (.error (.host m), s) := by
  unfold setCookie
  split
  · exact .inl ⟨_, rfl⟩
  · rename_i f hf
    unfold Http.SetCookie.headerValue at hf
    split at hf
    · cases hf
      exact .inr ⟨_, rfl⟩
    · split at hf <;> cases hf
      exact .inr ⟨_, rfl⟩

theorem parseForm_cases (h : Host) (s : Run) (maxMemory : Int) :
    (∃ c, s.context.parseForm (h.memoryFor maxMemory) = .ok c ∧
        s.parseForm h maxMemory = (.ok [], { s with context := c })) ∨
      ∃ m, s.parseForm h maxMemory = (.error (.host m), s) := by
  unfold parseForm
  split
  · rename_i c hc
    exact .inl ⟨c, hc, rfl⟩
  · exact .inr ⟨_, rfl⟩

/-- Bytes of the body are sent, or the client cannot be reached and nothing changes. -/
theorem writeBody_cases (s : Run) (doing : String) (bytes : Bytes) :
    (s.exchange.broken = none ∧ s.writeBody doing bytes =
        (.ok [], s.mapExchange fun x => { x with response := x.response.write bytes })) ∨
      ∃ reason m, s.exchange.broken = some reason ∧
        s.writeBody doing bytes = (.error (.host m), s) := by
  obtain ⟨c, response, broken, events⟩ := s
  cases broken with
  | none => exact .inl ⟨rfl, rfl⟩
  | some reason => exact .inr ⟨reason, _, rfl, rfl⟩

theorem render_cases (h : Host) (s : Run) (template : String) (args : Option Table) :
    (∃ members, s.render h template args = (.ok [], s.renderWith h template members)) ∨
      ∃ m, s.render h template args = (.error (.ambiguousTable m), s) := by
  unfold render
  split
  · exact .inl ⟨_, rfl⟩
  · exact .inr ⟨_, rfl⟩

theorem serveFile_cases (h : Host) (s : Run) (path : String) :
    (∃ bytes, s.serveFile h path =
        (s.mapExchange (·.writeStatus 200)).writeBody "Cannot serve file" bytes) ∨
      ∃ m, s.serveFile h path = (.error (.host m), s.mapExchange (·.writeStatus 200)) := by
  unfold serveFile
  dsimp only
  split
  · exact .inl ⟨_, rfl⟩
  · exact .inr ⟨_, rfl⟩

/-- A request is handed to the transport, whose answer counts, or cannot be made. -/
theorem sendIf_cases (h : Host) (s : Run) (request : Result OutboundRequest)
    (answer : OutboundResponse → List Value) :
    (∃ line r, s.sendIf h request answer =
        (answer <$> h.transport r, s.mapExchange fun x => (x.log line).note (.sent r))) ∨
      ∃ f, request = .error f ∧ s.sendIf h request answer = (.error f, s) := by
  unfold sendIf
  split
  · exact .inl ⟨_, _, rfl⟩
  · exact .inr ⟨_, rfl, rfl⟩

/-! ### Rendering, step by step -/

/-- What the compiler gives and leaves. -/
def compiled (h : Host) (s : Run) : Compilation × Exchange :=
  h.compiler s.context.request s.context.session (s.exchange.note .compiled)

/-- The exchange with the widgets compiled; if some could not be, the log says so. -/
def afterCompiler (h : Host) (s : Run) : Exchange :=
  match (s.compiled h).1.failure with
  | some f => (s.compiled h).2.log
      (s.context.line .error ("Cannot compile widget list: " ++ f.display))
  | none => (s.compiled h).2

/-- What the compiler leaves to the renderer. -/
def beforeRenderer (h : Host) (s : Run) (template : String) (args : Members) : Exchange :=
  ((s.afterCompiler h).writeStatus 200).note
    (.rendered s.context.request.method template
      (args.insert widgetsName (.object (s.compiled h).1.widgets)))

/-- What the renderer gives and leaves, with the widgets among its arguments. -/
def rendered (h : Host) (s : Run) (template : String) (args : Members) : Result Unit × Exchange :=
  let args := args.insert widgetsName (.object (s.compiled h).1.widgets)
  h.renderer s.context.request template args
    (((s.afterCompiler h).writeStatus 200).note (.rendered s.context.request.method template args))

theorem renderWith_eq (h : Host) (s : Run) (template : String) (args : Members) :
    s.renderWith h template args =
      match s.rendered h template args with
      | (.ok (), x) => { s with exchange := x }
      | (.error f, x) =>
        let line :=
          s.context.line .error ("Cannot render template " ++ template ++ ": " ++ f.display)
        { s with exchange := x.log line } :=
  rfl

/-- The log is no part of the response. -/
theorem response_afterCompiler (h : Host) (s : Run) :
    (s.afterCompiler h).response = (s.compiled h).2.response := by
  unfold afterCompiler
  split <;> rfl

theorem response_beforeRenderer (h : Host) (s : Run) (template : String) (args : Members) :
    (s.beforeRenderer h template args).response =
      (s.compiled h).2.response.writeStatus 200 := by
  rw [← response_afterCompiler]
  exact Exchange.response_writeStatus _ _

theorem response_renderWith_eq (h : Host) (s : Run) (template : String) (args : Members) :
    (s.renderWith h template args).exchange.response =
      (s.rendered h template args).2.response := by
  rw [renderWith_eq]
  split <;> rename_i e <;> rw [e]
  rfl

/-! ### The context -/

theorem context_setCookie (h : Host) (s : Run) (name value : String) (expires : Int) :
    (s.setCookie h name value expires).2.context = s.context := by
  rcases setCookie_cases h s name value expires with ⟨_, e⟩ | ⟨_, e⟩ <;> rw [e]
  rfl

theorem context_getFile (h : Host) (s : Run) (field : String) :
    (s.getFile h field).2.context = s.context.withForm h.settings.maxMemory := rfl

theorem context_writeBody (s : Run) (doing : String) (bytes : Bytes) :
    (s.writeBody doing bytes).2.context = s.context := by
  rcases writeBody_cases s doing bytes with ⟨_, e⟩ | ⟨_, _, _, e⟩ <;> rw [e]
  rfl

theorem context_render (h : Host) (s : Run) (template : String) (args : Option Table) :
    (s.render h template args).2.context = s.context := by
  rcases render_cases h s template args with ⟨members, e⟩ | ⟨_, e⟩ <;> rw [e]
  rw [renderWith_eq]
  split <;> rfl

theorem context_serveFile (h : Host) (s : Run) (path : String) :
    (s.serveFile h path).2.context = s.context := by
  rcases serveFile_cases h s path with ⟨bytes, e⟩ | ⟨_, e⟩ <;> rw [e]
  · exact context_writeBody (s.mapExchange (·.writeStatus 200)) _ bytes
  · rfl

theorem context_sendIf (h : Host) (s : Run) (request : Result OutboundRequest)
    (answer : OutboundResponse → List Value) :
    (s.sendIf h request answer).2.context = s.context := by
  rcases sendIf_cases h s request answer with ⟨_, _, e⟩ | ⟨_, _, e⟩ <;> rw [e]
  rfl

/-- An operation changes nothing of what the script is bound to. -/
theorem perform_binding (h : Host) (s : Run) (op : Operation) :
    (s.perform h op).2.context.binding = s.context.binding := by
  cases op <;> rw [perform]
  case parseForm maxMemory =>
    rcases parseForm_cases h s maxMemory with ⟨c, hc, e⟩ | ⟨_, e⟩ <;> rw [e]
    exact Context.binding_parseForm hc
  case getFile field => rw [context_getFile, Context.binding_withForm]
  case setCookie name value expires => rw [context_setCookie]
  case write data => rw [context_writeBody]; rfl
  case render template args => rw [context_render]
  case serveFile path => rw [context_serveFile]
  case get | postForm | request => rw [context_sendIf]
  case redirect => rfl
  case setHeader => rfl

/-! ### The exchange -/

section Exchange

variable {P : Event → Prop}

theorem evolves_setCookie (h : Host) (s : Run) (name value : String) (expires : Int) :
    s.exchange.Evolves P (s.setCookie h name value expires).2.exchange := by
  rcases setCookie_cases h s name value expires with ⟨header, e⟩ | ⟨_, e⟩ <;> rw [e]
  · exact Exchange.evolves_mapHeaders (·.add "Set-Cookie" header) s.exchange
  · exact .refl _

theorem evolves_parseForm (h : Host) (s : Run) (maxMemory : Int) :
    s.exchange.Evolves P (s.parseForm h maxMemory).2.exchange := by
  rcases parseForm_cases h s maxMemory with ⟨_, _, e⟩ | ⟨_, e⟩ <;> rw [e] <;> exact .refl _

theorem evolves_writeBody (s : Run) (doing : String) (bytes : Bytes) :
    s.exchange.Evolves P (s.writeBody doing bytes).2.exchange := by
  unfold writeBody
  have hw := Exchange.evolves_write (P := P) bytes s.exchange
  split <;> rename_i e <;> rwa [e] at hw

/-- Rendering takes note of the compiler and of the renderer, and what these do to the exchange
is confined. -/
theorem evolves_renderWith (hc : h.Confined) (hP : ∀ e, e.isSent = false → P e) (s : Run)
    (template : String) (args : Members) :
    s.exchange.Evolves P (s.renderWith h template args).exchange := by
  have hmono {x y : Exchange} (he : x.Evolves (fun _ => False) y) : x.Evolves P y :=
    he.mono fun _ hf => hf.elim
  -- first the compiler, then the log if it failed, then status and renderer, then the log again
  have h1 : s.exchange.Evolves P (s.compiled h).2 :=
    (Exchange.evolves_note (.inr (hP .compiled rfl)) s.exchange).trans (hmono (hc.compiler _ _ _))
  have h2 : (s.compiled h).2.Evolves P (s.afterCompiler h) := by
    unfold afterCompiler
    split
    · exact Exchange.evolves_log _ _
    · exact .refl _
  have h3 : (s.afterCompiler h).Evolves P (s.rendered h template args).2 :=
    ((Exchange.evolves_writeStatus 200 _).trans (Exchange.evolves_note (.inr (hP _ rfl)) _)).trans
      (hmono (hc.renderer _ _ _ _))
  have h4 := (h1.trans h2).trans h3
  rw [renderWith_eq]
  split <;> rename_i e <;> rw [e] at h4
  · exact h4
  · exact h4.trans (Exchange.evolves_log _ _)

theorem evolves_render (hc : h.Confined) (hP : ∀ e, e.isSent = false → P e) (s : Run)
    (template : String) (args : Option Table) :
    s.exchange.Evolves P (s.render h template args).2.exchange := by
  rcases render_cases h s template args with ⟨members, e⟩ | ⟨_, e⟩ <;> rw [e]
  · exact evolves_renderWith hc hP s template members
  · exact .refl _

theorem evolves_redirect (s : Run) (destination : Option String) (status : Nat) :
    s.exchange.Evolves P (s.redirect destination status).exchange :=
  (Exchange.evolves_mapHeaders _ _).trans (Exchange.evolves_writeStatus _ _)

theorem evolves_serveFile (h : Host) (s : Run) (path : String) :
    s.exchange.Evolves P (s.serveFile h path).2.exchange := by
  have hs : s.exchange.Evolves P (s.mapExchange (·.writeStatus 200)).exchange :=
    Exchange.evolves_writeStatus 200 s.exchange
  rcases serveFile_cases h s path with ⟨bytes, e⟩ | ⟨_, e⟩ <;> rw [e]
  · exact hs.trans (evolves_writeBody _ _ _)
  · exact hs

theorem evolves_sendIf (hP : ∀ r, P (.sent r)) (h : Host) (s : Run)
    (request : Result OutboundRequest) (answer : OutboundResponse → List Value) :
    s.exchange.Evolves P (s.sendIf h request answer).2.exchange := by
  rcases sendIf_cases h s request answer with ⟨line, r, e⟩ | ⟨_, _, e⟩ <;> rw [e]
  · exact (Exchange.evolves_log line s.exchange).trans (Exchange.evolves_note (.inr (hP r)) _)
  · exact .refl _

/-- **An operation acts as a response writer does**, and only an outbound one hands a request to
the transport. -/
theorem perform_evolves (hc : h.Confined) (s : Run) (op : Operation) :
    s.exchange.Evolves (fun e => e.isSent → op.isOutbound) (s.perform h op).2.exchange := by
  have hP (op : Operation) (e : Event) (he : e.isSent = false) : e.isSent → op.isOutbound :=
    fun hs => by simp [he] at hs
  cases op <;> rw [perform]
  case setCookie => exact evolves_setCookie ..
  case parseForm => exact evolves_parseForm ..
  case getFile => exact .refl _
  case write =>
    exact (Exchange.evolves_writeStatus 200 s.exchange).trans
      (evolves_writeBody (s.mapExchange (·.writeStatus 200)) _ _)
  case render => exact evolves_render hc (hP _) ..
  case redirect => exact evolves_redirect ..
  case serveFile => exact evolves_serveFile ..
  case setHeader => exact Exchange.evolves_mapHeaders _ _
  case get | postForm | request => exact evolves_sendIf (fun _ _ => rfl) ..
  case getCookie | getHeader | remoteAddress | relativeUrl => exact .refl _

end Exchange

/-! ## One call -/

theorem callHttp_widget (ht : s.context.tier = .widget) (h : Host) (method : String)
    (args : List Value) :
    s.callHttp h method args =
      (.error (.missingCapability method .widget), s.mapExchange
        (·.log (s.context.line .warn ("widget script called '" ++ method ++ "'")))) := by
  have htier : (s.mapExchange (·.log (s.context.line .warn
      ("widget script called '" ++ method ++ "'")))).context.tier = .widget := ht
  unfold callHttp
  rw [if_pos ht]
  dsimp only
  rw [htier, Methods.read_of_not_mem (by simp [Operation.methods, Methods.names])]

/-- A call that cannot be read changes nothing. -/
theorem callHttp_of_error (ht : s.context.tier ≠ .widget) {method : String} {args : List Value}
    {f : Failure}
    (hr : (Operation.methods s.context.tier).read s.context.tier method args = .error f) :
    s.callHttp h method args = (.error f, s) := by
  unfold callHttp
  rw [if_neg ht]
  dsimp only
  rw [hr]

theorem callHttp_of_ok (ht : s.context.tier ≠ .widget) {method : String} {args : List Value}
    {op : Operation}
    (hr : (Operation.methods s.context.tier).read s.context.tier method args = .ok op) :
    s.callHttp h method args = s.perform h op := by
  unfold callHttp
  rw [if_neg ht]
  dsimp only
  rw [hr]

/-- A call is read, and what it is read as is performed. -/
theorem callHttp_eq (ht : s.context.tier ≠ .widget) (h : Host) (method : String)
    (args : List Value) :
    s.callHttp h method args =
      match (Operation.methods s.context.tier).read s.context.tier method args with
      | .ok op => s.perform h op
      | .error f => (.error f, s) := by
  split
  · rename_i op hr
    exact callHttp_of_ok ht hr
  · rename_i f hr
    exact callHttp_of_error ht hr

/-- **What a call of the request does.** A widget is refused with a line in the log; for any other
script nothing happens, or the operation that the method is named for is performed. -/
theorem callHttp_cases (h : Host) (s : Run) (method : String) (args : List Value) :
    (s.context.tier = .widget ∧ s.callHttp h method args =
      (.error (.missingCapability method .widget), s.mapExchange
        (·.log (s.context.line .warn ("widget script called '" ++ method ++ "'"))))) ∨
    (s.context.tier ≠ .widget ∧ method ∉ (Operation.methods s.context.tier).names ∧
      s.callHttp h method args = (.error (.missingCapability method s.context.tier), s)) ∨
    (method ∈ (Operation.methods s.context.tier).names ∧
      ∃ f : Failure, f.IsArgument ∧ s.callHttp h method args = (.error f, s)) ∨
    (method ∈ (Operation.methods s.context.tier).names ∧
      ∃ op : Operation, op.method = method ∧ s.callHttp h method args = s.perform h op) := by
  by_cases ht : s.context.tier = .widget
  · exact .inl ⟨ht, callHttp_widget ht h method args⟩
  refine .inr ?_
  by_cases hm : method ∈ (Operation.methods s.context.tier).names
  · have he := Operation.read_ends hm args
    cases hr : (Operation.methods s.context.tier).read s.context.tier method args with
    | error f =>
      rw [hr] at he
      exact .inr (.inl ⟨hm, f, he.of_error, callHttp_of_error ht hr⟩)
    | ok op =>
      rw [hr] at he
      exact .inr (.inr ⟨hm, op, he.of_ok, callHttp_of_ok ht hr⟩)
  · exact .inl ⟨ht, hm, callHttp_of_error ht (Methods.read_of_not_mem hm _ _)⟩

theorem callHttp_binding (h : Host) (s : Run) (method : String) (args : List Value) :
    (s.callHttp h method args).2.context.binding = s.context.binding := by
  rcases callHttp_cases h s method args with ⟨_, e⟩ | ⟨_, _, e⟩ | ⟨_, _, _, e⟩ | ⟨_, op, _, e⟩ <;>
    rw [e]
  · rfl
  · exact perform_binding h s op

theorem callHttp_evolves (hc : h.Confined) (s : Run) (method : String) (args : List Value) :
    s.exchange.Evolves (fun e => e.isSent → s.context.tier = .full)
      (s.callHttp h method args).2.exchange := by
  rcases callHttp_cases h s method args with ⟨_, e⟩ | ⟨_, _, e⟩ | ⟨_, _, _, e⟩ |
    ⟨hm, op, hop, e⟩ <;> rw [e]
  · exact Exchange.evolves_log _ _
  · exact .refl _
  · exact .refl _
  · -- below the full tier no listed method is named for an outbound operation
    refine (perform_evolves hc s op).mono fun e he hs => ?_
    by_contra ht
    have ho := he hs
    rw [Operation.isOutbound_of_mem ht (hop ▸ hm)] at ho
    cases ho

theorem call_http (h : Host) (s : Run) (method : String) (args : List Value) :
    s.call h "http" method args = s.callHttp h method args := if_pos rfl

/-- A call of another object changes nothing. -/
theorem call_state (h : Host) (s : Run) (target method : String) (args : List Value) :
    (s.call h target method args).2 =
      if target = "http" then (s.callHttp h method args).2 else s := by
  unfold call
  split
  · rfl
  · split
    · split <;> rfl
    · rfl

/-- **A call changes nothing of what the script is bound to** but the form. -/
theorem call_binding (h : Host) (s : Run) (target method : String) (args : List Value) :
    (s.call h target method args).2.context.binding = s.context.binding := by
  rw [call_state]
  split
  · exact callHttp_binding h s method args
  · rfl

/-- **A call acts as a response writer does**, and hands a request to the transport at the full
tier only. -/
theorem call_evolves (hc : h.Confined) (s : Run) (target method : String) (args : List Value) :
    s.exchange.Evolves (fun e => e.isSent → s.context.tier = .full)
      (s.call h target method args).2.exchange := by
  rw [call_state]
  split
  · exact callHttp_evolves hc s method args
  · exact .refl _

end Run

/-! ## Runs -/

/-- A call of an object by its name. -/
structure Call where
  target : String
  method : String
  args : List Value

namespace Run

variable {h : Host} {s : Run}

/-- The operation that a call is read as. The request has to be called, at a tier that has the
method, with arguments that fit. -/
def operation? (s : Run) (c : Call) : Option Operation :=
  if c.target = "http" then
    ((Operation.methods s.context.tier).read s.context.tier c.method c.args).toOption
  else none

theorem operation?_of_ok {method : String} {args : List Value} {op : Operation}
    (hr : (Operation.methods s.context.tier).read s.context.tier method args = .ok op) :
    s.operation? ⟨"http", method, args⟩ = some op := by
  rw [operation?, if_pos rfl]
  dsimp only
  rw [hr]
  rfl

theorem operation?_of_error {method : String} {args : List Value} {f : Failure}
    (hr : (Operation.methods s.context.tier).read s.context.tier method args = .error f) :
    s.operation? ⟨"http", method, args⟩ = none := by
  rw [operation?, if_pos rfl]
  dsimp only
  rw [hr]
  rfl

/-- A call is read as the operation that its method is named for. -/
theorem call_of_operation? {c : Call} {op : Operation} (hop : s.operation? c = some op) :
    c.target = "http" ∧ op.method = c.method := by
  unfold operation? at hop
  split at hop
  · rename_i htarget
    cases hr : (Operation.methods s.context.tier).read s.context.tier c.method c.args with
    | error f =>
      rw [hr] at hop
      cases hop
    | ok op' =>
      rw [hr] at hop
      cases hop
      exact ⟨htarget, Operation.method_of_read hr⟩
  · cases hop

/-- **A call performs the operation that it is read as.** If there is none, it leaves context and
response as they are. -/
theorem call_cases (h : Host) (s : Run) (c : Call) :
    (∃ op, s.operation? c = some op ∧
        s.call h c.target c.method c.args = s.perform h op) ∨
      (s.operation? c = none ∧
        (s.call h c.target c.method c.args).2.context = s.context ∧
        (s.call h c.target c.method c.args).2.exchange.response = s.exchange.response) := by
  obtain ⟨target, method, args⟩ := c
  by_cases htarget : target = "http"
  · subst htarget
    rw [call_http]
    by_cases ht : s.context.tier = .widget
    · -- a widget is refused with a line in the log
      have hmissing : (Operation.methods s.context.tier).read s.context.tier method args =
          .error (.missingCapability method s.context.tier) := by
        rw [ht]
        rfl
      rw [callHttp_widget ht]
      exact .inr ⟨operation?_of_error hmissing, rfl, rfl⟩
    · cases hr : (Operation.methods s.context.tier).read s.context.tier method args with
      | error f =>
        rw [callHttp_of_error ht hr]
        exact .inr ⟨operation?_of_error hr, rfl, rfl⟩
      | ok op =>
        rw [callHttp_of_ok ht hr]
        exact .inl ⟨op, operation?_of_ok hr, rfl⟩
  · rw [call_state, if_neg htarget]
    exact .inr ⟨if_neg htarget, rfl, rfl⟩

/-- The state after calls made in order. -/
def after (h : Host) (s : Run) (calls : List Call) : Run :=
  calls.foldl (fun s c => (s.call h c.target c.method c.args).2) s

theorem after_nil (h : Host) (s : Run) : s.after h [] = s := rfl

theorem after_cons (h : Host) (s : Run) (c : Call) (calls : List Call) :
    s.after h (c :: calls) = (s.call h c.target c.method c.args).2.after h calls := rfl

/-- What every call keeps holds after every list of calls. -/
theorem after_induction {I : Run → Prop}
    (hcall : ∀ s target method args, I s → I (s.call h target method args).2) (hs : I s)
    (calls : List Call) : I (s.after h calls) := by
  induction calls generalizing s with
  | nil =>
    rw [after_nil]
    exact hs
  | cons c calls ih =>
    rw [after_cons]
    exact ih (hcall s c.target c.method c.args hs)

/-- **A run changes nothing of what the script is bound to** but the form. -/
theorem after_binding (h : Host) (s : Run) (calls : List Call) :
    (s.after h calls).context.binding = s.context.binding :=
  after_induction (I := fun t => t.context.binding = s.context.binding)
    (fun t target method args ht => (call_binding h t target method args).trans ht) rfl calls

/-- **A run acts as a response writer does**, and hands requests to the transport at the full tier
only. -/
theorem after_evolves (hc : h.Confined) (s : Run) (calls : List Call) :
    s.exchange.Evolves (fun e => e.isSent → s.context.tier = .full)
      (s.after h calls).exchange := by
  -- the tier goes along, since what a call may do depends on the tier it is made at
  refine (after_induction (I := fun t => t.context.tier = s.context.tier ∧
    s.exchange.Evolves (fun e => e.isSent → s.context.tier = .full) t.exchange) ?_
    ⟨rfl, .refl _⟩ calls).2
  rintro t target method args ⟨ht, he⟩
  refine ⟨(Context.tier_eq_of_binding (call_binding h t target method args)).trans ht, ?_⟩
  have hstep := call_evolves hc t target method args
  rw [ht] at hstep
  exact he.trans hstep

end Run

/-! ## Scripts -/

/-- The calls that a script makes in its run from a state. -/
def Script.calls (h : Host) : Script → Run → List Call
  | .done, _ => []
  | .fail _, _ => []
  | .call target method args next, s =>
    let (answer, s') := s.call h target method args
    ⟨target, method, args⟩ :: (next answer).calls h s'
  | .field name next, s => (next (s.context.field name)).calls h s

/-- **A script comes to the state that its calls come to.** -/
theorem Script.run_state (h : Host) (script : Script) (s : Run) :
    (script.run h s).2 = s.after h (script.calls h s) := by
  induction script generalizing s with
  | done => rfl
  | fail f => rfl
  | call target method args next ih => exact ih _ _
  | field name next ih =>
    -- a field is read without a call
    exact ih _ s

/-- **A script is a list of calls**, whatever it makes of the answers: it leaves no other state. -/
theorem Script.run_eq_after (h : Host) (script : Script) (s : Run) :
    ∃ calls, (script.run h s).2 = s.after h calls :=
  ⟨script.calls h s, script.run_state h s⟩

end WebScript
