import Mathlib.Tactic.Choose
import WebScript.Proofs.Moments
import WebScript.Proofs.Visits

/-!
# Calls as operations of a response writer

What a call does to the response is a list of operations of a response writer, known from the state
it is made in and from how renderer and compiler conduct themselves. So are calls in order, visits,
and visits in order.

* `Host.Conduct`: the operations that renderer and compiler perform.
* `Run.response_perform`, `Run.response_call`, `Run.response_after`: the operations of an
  operation, of a call and of calls in order.
* `Visit.response_exchange`, `Host.response_visited`: the operations of a visit and of visits in
  order.
* `Host.response_stepsUpTo`: **the operations up to some call of some visit**, which are the first
  of all.
-/

namespace WebScript

open Response (Step)

/-- **How renderer and compiler conduct themselves**: the operations of a response writer that each
of them performs, by what it is handed. -/
structure Host.Conduct (h : Host) where
  compiler : Request → Session → Exchange → List Step
  renderer : Request → String → Members → Exchange → List Step
  response_compiler : ∀ r session (x : Exchange),
    (h.compiler r session x).2.response = x.response.steps (compiler r session x)
  response_renderer : ∀ r template args (x : Exchange),
    (h.renderer r template args x).2.response = x.response.steps (renderer r template args x)

/-- Confined collaborators conduct themselves in some way. -/
theorem Host.Confined.nonempty_conduct {h : Host} (hc : h.Confined) : Nonempty h.Conduct := by
  have hcompiler (r : Request) (session : Session) (x : Exchange) :
      ∃ ops, (h.compiler r session x).2.response = x.response.steps ops :=
    (hc.compiler r session x).response.exists_steps
  have hrenderer (r : Request) (template : String) (args : Members) (x : Exchange) :
      ∃ ops, (h.renderer r template args x).2.response = x.response.steps ops :=
    (hc.renderer r template args x).response.exists_steps
  choose compiler hcompiler using hcompiler
  choose renderer hrenderer using hrenderer
  exact ⟨⟨compiler, renderer, hcompiler, hrenderer⟩⟩

/-- The operation that sends bytes of the body; there is none where that is impossible. -/
def Exchange.bodySteps (x : Exchange) (bytes : Bytes) : List Step :=
  match x.broken with
  | none => [.write bytes]
  | some _ => []

theorem Exchange.response_write (x : Exchange) (bytes : Bytes) :
    (x.write bytes).2.response = x.response.steps (x.bodySteps bytes) := by
  unfold write bodySteps
  cases x.broken with
  | none => rfl
  | some reason => rfl

/-- Status 200 and then bytes. -/
def Exchange.pageSteps (x : Exchange) (bytes : Bytes) : List Step :=
  .writeStatus 200 :: x.bodySteps bytes

namespace Operation

/-- The operation is meant to send something. -/
def sends : Operation → Bool
  | .write _ | .render _ _ | .redirect _ _ | .serveFile _ => true
  | _ => false

/-- The methods that ask for something to be sent. -/
def sendingMethods : List String := ["write", "render", "redirect", "serveFile"]

theorem sends_of_method_not_mem {op : Operation} (h : op.method ∉ sendingMethods) :
    op.sends = false := by
  cases op with
  | write _ | render _ _ | redirect _ _ | serveFile _ => simp [method, sendingMethods] at h
  | _ => rfl

end Operation

namespace Run

variable {h : Host} {s : Run}

/-! ## Operations of a call -/

/-- Adding a cookie is one change of the headers, if there is a header for it. -/
def cookieSteps (h : Host) (name value : String) (expires : Int) : List Step :=
  match (Http.SetCookie.scripted name value expires h.settings.tls.enabled).headerValue with
  | .ok header => [.mapHeaders (·.add "Set-Cookie" header)]
  | .error _ => []

/-- Rendering is what the compiler does, status 200, and what the renderer does. -/
def renderWithSteps (c : h.Conduct) (s : Run) (template : String) (args : Members) : List Step :=
  c.compiler s.context.request s.context.session (s.exchange.note .compiled) ++
    .writeStatus 200 ::
      c.renderer s.context.request template
        (args.insert widgetsName (.object (s.compiled h).1.widgets))
        (s.beforeRenderer h template args)

/-- Nothing is rendered without a reading of the arguments. -/
def renderSteps (c : h.Conduct) (s : Run) (template : String) (args : Option Table) : List Step :=
  match (args.getD .empty).toJsonMembers with
  | .ok members => s.renderWithSteps c template ⟨members⟩
  | .error _ => []

/-- A redirection is the header that says where, and then the status. -/
def redirectSteps (s : Run) (destination : Option String) (status : Nat) : List Step :=
  match destination with
  | none => [.mapHeaders (·.set "Location" s.context.subtopic), .writeStatus 302]
  | some d =>
    [.mapHeaders (·.set "Location" (s.context.request.resolve d)),
      .writeStatus (if status = 0 then 302 else status)]

/-- Serving a file is status 200, and then the file if there is one. -/
def fileSteps (h : Host) (s : Run) (path : String) : List Step :=
  match h.files path with
  | .ok bytes => s.exchange.pageSteps bytes
  | .error _ => [.writeStatus 200]

/-- **The operations of a response writer that an operation comes to**, in order. -/
def steps (c : h.Conduct) (s : Run) : Operation → List Step
  | .setCookie name value expires => cookieSteps h name value expires
  | .write data => s.exchange.pageSteps (Bytes.ofText data)
  | .render template args => s.renderSteps c template args
  | .redirect destination status => s.redirectSteps destination status
  | .serveFile path => s.fileSteps h path
  | .setHeader name value => [.mapHeaders (·.set name value)]
  | .getCookie _ | .parseForm _ | .getFile _ | .getHeader _ | .remoteAddress | .relativeUrl => []
  | .get _ | .postForm _ _ | .request _ => []

theorem response_setCookie (h : Host) (s : Run) (name value : String) (expires : Int) :
    (s.setCookie h name value expires).2.exchange.response =
      s.exchange.response.steps (cookieSteps h name value expires) := by
  unfold setCookie cookieSteps
  cases (Http.SetCookie.scripted name value expires h.settings.tls.enabled).headerValue with
  | ok header => rfl
  | error f => rfl

theorem exchange_writeBody (s : Run) (doing : String) (bytes : Bytes) :
    (s.writeBody doing bytes).2.exchange = (s.exchange.write bytes).2 := by
  unfold writeBody
  split <;> rename_i e <;> rw [e]

/-- A page is status 200 and the body. -/
theorem response_page (s : Run) (doing : String) (bytes : Bytes) :
    ((s.mapExchange (·.writeStatus 200)).writeBody doing bytes).2.exchange.response =
      s.exchange.response.steps (s.exchange.pageSteps bytes) := by
  have hbody : (s.exchange.writeStatus 200).bodySteps bytes = s.exchange.bodySteps bytes := by
    unfold Exchange.bodySteps
    rw [Exchange.broken_writeStatus]
  have hwrite : ((s.mapExchange (·.writeStatus 200)).writeBody doing bytes).2.exchange.response =
      (s.exchange.writeStatus 200).response.steps
        ((s.exchange.writeStatus 200).bodySteps bytes) := by
    rw [exchange_writeBody]
    exact Exchange.response_write (s.exchange.writeStatus 200) bytes
  rw [hwrite, hbody, Exchange.response_writeStatus]
  rfl

theorem response_renderWith (c : h.Conduct) (s : Run) (template : String) (args : Members) :
    (s.renderWith h template args).exchange.response =
      s.exchange.response.steps (s.renderWithSteps c template args) := by
  have hcompiled : (s.compiled h).2.response =
      s.exchange.response.steps
        (c.compiler s.context.request s.context.session (s.exchange.note .compiled)) :=
    c.response_compiler _ _ _
  have hrendered : (s.rendered h template args).2.response =
      (s.beforeRenderer h template args).response.steps
        (c.renderer s.context.request template
          (args.insert widgetsName (.object (s.compiled h).1.widgets))
          (s.beforeRenderer h template args)) :=
    c.response_renderer _ _ _ _
  -- the log changes no response, so compiler, status and renderer are all there is
  rw [response_renderWith_eq, hrendered, response_beforeRenderer, hcompiled, renderWithSteps,
    Response.steps_append, Response.steps_cons]
  rfl

theorem response_render (c : h.Conduct) (s : Run) (template : String) (args : Option Table) :
    (s.render h template args).2.exchange.response =
      s.exchange.response.steps (s.renderSteps c template args) := by
  unfold render renderSteps
  cases (args.getD .empty).toJsonMembers with
  | ok members => exact response_renderWith c s template ⟨members⟩
  | error f => rfl

theorem response_redirect (s : Run) (destination : Option String) (status : Nat) :
    (s.redirect destination status).exchange.response =
      s.exchange.response.steps (s.redirectSteps destination status) := by
  cases destination with
  | none => exact Exchange.response_writeStatus _ _
  | some d => exact Exchange.response_writeStatus _ _

theorem response_serveFile (h : Host) (s : Run) (path : String) :
    (s.serveFile h path).2.exchange.response =
      s.exchange.response.steps (s.fileSteps h path) := by
  unfold serveFile fileSteps
  dsimp only
  cases h.files path with
  | ok bytes => exact response_page s _ bytes
  | error f => exact Exchange.response_writeStatus _ _

theorem response_sendIf (h : Host) (s : Run) (request : Result OutboundRequest)
    (answer : OutboundResponse → List Value) :
    (s.sendIf h request answer).2.exchange.response = s.exchange.response := by
  rcases sendIf_cases h s request answer with ⟨_, _, e⟩ | ⟨_, _, e⟩
  · rw [e]
    rfl
  · rw [e]

/-- **An operation is a list of operations of a response writer.** -/
theorem response_perform (c : h.Conduct) (s : Run) (op : Operation) :
    (s.perform h op).2.exchange.response = s.exchange.response.steps (s.steps c op) := by
  cases op <;> rw [perform, steps]
  case getCookie | getHeader | remoteAddress | relativeUrl => rfl
  case getFile | setHeader => rfl
  case setCookie => exact response_setCookie ..
  case parseForm maxMemory =>
    rcases parseForm_cases h s maxMemory with ⟨_, _, e⟩ | ⟨_, e⟩ <;> rw [e] <;> rfl
  case write => exact response_page ..
  case render => exact response_render ..
  case redirect => exact response_redirect ..
  case serveFile => exact response_serveFile ..
  case get | postForm | request => exact response_sendIf ..

/-- An operation that is not meant to send anything has to do with headers only. -/
theorem steps_of_not_sends (c : h.Conduct) (s : Run) {op : Operation} (hop : op.sends = false) :
    ∀ step ∈ s.steps c op, ∃ f, step = .mapHeaders f := by
  cases op with
  | write _ | render _ _ | redirect _ _ | serveFile _ => cases hop
  | setCookie name value expires =>
    rw [steps, cookieSteps]
    split <;> simp
  | _ => simp [steps]

/-- The operations of a call; one that is read as no operation has none. -/
def callSteps (c : h.Conduct) (s : Run) (call : Call) : List Step :=
  match s.operation? call with
  | some op => s.steps c op
  | none => []

/-- **A call is a list of operations of a response writer.** -/
theorem response_call (c : h.Conduct) (s : Run) (call : Call) :
    (s.call h call.target call.method call.args).2.exchange.response =
      s.exchange.response.steps (s.callSteps c call) := by
  unfold callSteps
  rcases call_cases h s call with ⟨op, hop, hcall⟩ | ⟨hop, -, hresponse⟩
  · rw [hcall, hop]
    exact response_perform c s op
  · rw [hresponse, hop]
    rfl

/-- The operations of calls made in order. -/
def afterSteps (c : h.Conduct) : Run → List Call → List Step
  | _, [] => []
  | s, call :: calls =>
    s.callSteps c call ++ afterSteps c (s.call h call.target call.method call.args).2 calls

theorem response_after (c : h.Conduct) (s : Run) (calls : List Call) :
    (s.after h calls).exchange.response = s.exchange.response.steps (s.afterSteps c calls) := by
  induction calls generalizing s with
  | nil => rfl
  | cons call calls ih => rw [after_cons, ih, response_call c, afterSteps, Response.steps_append]

/-- Further calls come to further operations. -/
theorem afterSteps_prefix (c : h.Conduct) (s : Run) {calls calls' : List Call}
    (hcalls : calls <+: calls') : s.afterSteps c calls <+: s.afterSteps c calls' := by
  obtain ⟨rest, rfl⟩ := hcalls
  induction calls generalizing s with
  | nil => exact List.nil_prefix
  | cons call calls ih =>
    rw [List.cons_append, afterSteps, afterSteps]
    exact (List.prefix_append_right_inj _).2 (ih _)

end Run

/-! ## Operations of a visit -/

/-- An error page is the content type, the status and the page. -/
def Exchange.concludeSteps (x : Exchange) : Result Unit → List Step
  | .ok () => []
  | .error f =>
    match x.response.status with
    | some _ => []
    | none =>
      .mapHeaders (·.set "Content-Type" "text/plain; charset=utf-8") ::
        .writeStatus f.status :: x.bodySteps errorPage

theorem Exchange.response_conclude (x : Exchange) (tier : Tier) (r : Request)
    (result : Result Unit) :
    (x.conclude tier r result).response = x.response.steps (x.concludeSteps result) := by
  obtain ⟨⟨headers, status, sent, body⟩, broken, events⟩ := x
  cases result with
  | ok _ => rfl
  | error f =>
    cases status with
    | some _ => rfl
    | none =>
      cases broken with
      | none => rfl
      | some _ => rfl

namespace Visit

variable {h : Host}

/-- The operations with which a visit ends, behind those of its calls. -/
def endSteps (h : Host) (v : Visit) (r : Request) (x : Exchange) : List Step :=
  match v with
  | .bind _ _ _ => []
  | .execute tier session script =>
    (v.left h r x).exchange.concludeSteps (script.run h (x.bind tier r session)).1

/-- The operations of a visit. -/
def steps (c : h.Conduct) (v : Visit) (r : Request) (x : Exchange) : List Step :=
  (v.bound r x).afterSteps c (v.made h r x) ++ v.endSteps h r x

/-- **A visit is a list of operations of a response writer.** -/
theorem response_exchange (c : h.Conduct) (v : Visit) (r : Request) (x : Exchange) :
    (v.exchange h r x).response = x.response.steps (v.steps c r x) := by
  -- binding a request does nothing to the response
  have hleft : (v.left h r x).exchange.response =
      x.response.steps ((v.bound r x).afterSteps c (v.made h r x)) :=
    Run.response_after c (v.bound r x) (v.made h r x)
  rw [steps, Response.steps_append, ← hleft]
  cases v with
  | bind tier session calls => rfl
  | execute tier session script =>
    rw [exchange_execute]
    exact Exchange.response_conclude _ _ _ _

end Visit

namespace Host

variable {h : Host}

/-- What becomes of an exchange by visits, each of a request of its own or of one that has been
visited before. -/
def visited (h : Host) (x : Exchange) (visits : List (Request × Visit)) : Exchange :=
  visits.foldl (fun x v => v.2.exchange h v.1 x) x

/-- The operations of visits in order. -/
def visitedSteps (c : h.Conduct) : Exchange → List (Request × Visit) → List Step
  | _, [] => []
  | x, (r, v) :: visits => v.steps c r x ++ visitedSteps c (v.exchange h r x) visits

theorem response_visited (c : h.Conduct) (x : Exchange) (visits : List (Request × Visit)) :
    (h.visited x visits).response = x.response.steps (visitedSteps c x visits) := by
  induction visits generalizing x with
  | nil => rfl
  | cons visit visits ih =>
    obtain ⟨r, v⟩ := visit
    have htail : (h.visited x ((r, v) :: visits)).response =
        (v.exchange h r x).response.steps (visitedSteps c (v.exchange h r x) visits) :=
      ih (v.exchange h r x)
    rw [htail, v.response_exchange c, visitedSteps, Response.steps_append]

theorem visitedSteps_append (c : h.Conduct) (x : Exchange) (front back : List (Request × Visit)) :
    visitedSteps c x (front ++ back) =
      visitedSteps c x front ++ visitedSteps c (h.visited x front) back := by
  induction front generalizing x with
  | nil => rfl
  | cons visit front ih =>
    obtain ⟨r, v⟩ := visit
    rw [List.cons_append, visitedSteps, visitedSteps, ih (v.exchange h r x), List.append_assoc]
    rfl

/-- The operations up to some call of some visit. -/
def stepsUpTo (c : h.Conduct) (x : Exchange) (front : List (Request × Visit)) (r : Request)
    (v : Visit) (calls : List Call) : List Step :=
  visitedSteps c x front ++ (v.bound r (h.visited x front)).afterSteps c calls

/-- The operations up to some call are the first of all. -/
theorem stepsUpTo_prefix (c : h.Conduct) (x : Exchange) (front back : List (Request × Visit))
    (r : Request) (v : Visit) {calls : List Call}
    (hcalls : calls <+: v.made h r (h.visited x front)) :
    stepsUpTo c x front r v calls <+: visitedSteps c x (front ++ (r, v) :: back) := by
  have hv : (v.bound r (h.visited x front)).afterSteps c calls <+:
      v.steps c r (h.visited x front) :=
    (Run.afterSteps_prefix c _ hcalls).trans (List.prefix_append _ _)
  rw [visitedSteps_append, stepsUpTo, visitedSteps]
  exact (List.prefix_append_right_inj _).2 (hv.trans (List.prefix_append _ _))

theorem response_stepsUpTo (c : h.Conduct) (x : Exchange) (front : List (Request × Visit))
    (r : Request) (v : Visit) (calls : List Call) :
    ((v.bound r (h.visited x front)).after h calls).exchange.response =
      x.response.steps (stepsUpTo c x front r v calls) := by
  have hbound : (v.bound r (h.visited x front)).exchange.response =
      x.response.steps (visitedSteps c x front) :=
    response_visited c x front
  rw [Run.response_after c, hbound, stepsUpTo, Response.steps_append]

end Host

end WebScript
