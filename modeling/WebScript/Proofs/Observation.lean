import WebScript.Proofs.Calls

/-!
# What an observer sees

Two runs may differ in their tiers, in their sessions and in what has been noted on the way, and
an observer may not be able to tell them apart.

* `Observer`: what is seen of an event, and which tiers and which sessions look the same.
* `Observer.SameExchange`, `Observer.SameRun`, `Observer.SameOutcome`: what looks the same.
* `Observer.Suffices`: renderer and compiler do nothing by what is not seen.
* `Observer.perform`: **an operation does the same in states that look the same.**
* `Observer.call`: so does a call, at equal tiers.
-/

namespace WebScript

/-- **An observer** sees something of an event or nothing, and cannot tell some tiers and some
sessions from others. The lines that a script leaves in the log do not tell these tiers apart. -/
structure Observer where
  event : Event → Option Event
  tier : Tier → Tier → Prop
  session : Session → Session → Prop
  line : ∀ {c c' : Context}, tier c.tier c'.tier → c'.request = c.request →
    ∀ level message, event (.logged (c'.line level message)) = event (.logged (c.line level message))

/-- The context at another tier and with another session. -/
def Context.rebound (c : Context) (tier : Tier) (session : Session) : Context :=
  { c with tier := tier, session := session }

namespace Context

variable (c : Context) (tier : Tier) (session : Session)

/-- Whether the body can be read as a form depends on neither tier nor session. -/
theorem parseForm_rebound (maxMemory : Nat) :
    (c.rebound tier session).parseForm maxMemory =
      (c.parseForm maxMemory).map (·.rebound tier session) := by
  unfold parseForm
  cases hp : Multipart.parse c.request.contentType c.body maxMemory with
  | ok form => simp only [rebound, hp]; rfl
  | error f => simp only [rebound, hp]; rfl

theorem withForm_rebound (maxMemory : Nat) :
    (c.rebound tier session).withForm maxMemory =
      (c.withForm maxMemory).rebound tier session := by
  have hform : (c.rebound tier session).form = c.form := rfl
  unfold withForm
  rw [parseForm_rebound, hform]
  cases c.form with
  | some form => rfl
  | none =>
    cases c.parseForm maxMemory with
    | ok c' => rfl
    | error f => rfl

end Context

namespace Observer

/-- Two exchanges look the same: responses are equal, and so is what is seen of the events. -/
structure SameExchange (o : Observer) (x y : Exchange) : Prop where
  response : y.response = x.response
  broken : y.broken = x.broken
  events : y.events.filterMap o.event = x.events.filterMap o.event

/-- Two contexts look the same: they differ at most in tiers and sessions that look the same. -/
structure SameContext (o : Observer) (c c' : Context) : Prop where
  tier : o.tier c.tier c'.tier
  session : o.session c.session c'.session
  rest : c' = c.rebound c'.tier c'.session

/-- Two states look the same. -/
structure SameRun (o : Observer) (s s' : Run) : Prop where
  context : o.SameContext s.context s'.context
  exchange : o.SameExchange s.exchange s'.exchange

/-- Two outcomes look the same: the answers are equal and the states look the same. -/
structure SameOutcome (o : Observer) (p p' : Result (List Value) × Run) : Prop where
  answer : p'.1 = p.1
  state : o.SameRun p.2 p'.2

/-- **What is seen suffices** to tell what renderer and compiler give and, as far as it is seen,
what they leave. -/
structure Suffices (o : Observer) (h : Host) : Prop where
  renderer : ∀ r template args (x y : Exchange), o.SameExchange x y →
    (h.renderer r template args y).1 = (h.renderer r template args x).1 ∧
      o.SameExchange (h.renderer r template args x).2 (h.renderer r template args y).2
  compiler : ∀ r session session' (x y : Exchange), o.session session session' →
    o.SameExchange x y → (h.compiler r session' y).1 = (h.compiler r session x).1 ∧
      o.SameExchange (h.compiler r session x).2 (h.compiler r session' y).2

variable {o : Observer} {h : Host} {s s' : Run}

/-! ## Exchanges -/

namespace SameExchange

variable {x y : Exchange}

theorem note (hxy : o.SameExchange x y) {e e' : Event} (he : o.event e' = o.event e) :
    o.SameExchange (x.note e) (y.note e') := by
  refine ⟨hxy.response, hxy.broken, ?_⟩
  rw [Exchange.note, Exchange.note, List.filterMap_append, List.filterMap_append, hxy.events,
    List.filterMap_cons, List.filterMap_cons, he]

theorem mapHeaders (hxy : o.SameExchange x y) (f : Headers → Headers) :
    o.SameExchange (x.mapHeaders f) (y.mapHeaders f) := by
  refine ⟨?_, hxy.broken, hxy.events⟩
  rw [Exchange.mapHeaders, Exchange.mapHeaders, hxy.response]

theorem writeStatus (hxy : o.SameExchange x y) (status : Nat) :
    o.SameExchange (x.writeStatus status) (y.writeStatus status) := by
  unfold Exchange.writeStatus
  rw [hxy.response]
  split
  · exact hxy.note rfl
  · exact ⟨rfl, hxy.broken, hxy.events⟩

theorem write (hxy : o.SameExchange x y) (bytes : Bytes) :
    (y.write bytes).1 = (x.write bytes).1 ∧
      o.SameExchange (x.write bytes).2 (y.write bytes).2 := by
  obtain ⟨response, broken, events⟩ := x
  obtain ⟨response', broken', events'⟩ := y
  obtain ⟨rfl, rfl, hevents⟩ := hxy
  cases broken' with
  | some reason => exact ⟨rfl, rfl, rfl, hevents⟩
  | none => exact ⟨rfl, rfl, rfl, hevents⟩

end SameExchange

/-! ## One operation -/

namespace SameRun

theorem request (hs : o.SameRun s s') : s'.context.request = s.context.request := by
  rw [hs.context.rest]
  rfl

/-- Lines that the scripts leave in the log look the same. -/
theorem line (hs : o.SameRun s s') (level : LogLevel) (message : String) :
    o.event (.logged (s'.context.line level message)) =
      o.event (.logged (s.context.line level message)) :=
  o.line hs.context.tier hs.request level message

theorem mapExchange (hs : o.SameRun s s') {f g : Exchange → Exchange}
    (hfg : o.SameExchange (f s.exchange) (g s'.exchange)) :
    o.SameRun (s.mapExchange f) (s'.mapExchange g) := ⟨hs.context, hfg⟩

end SameRun

/-- A context that stays what it was but for its form goes on looking the same. -/
theorem SameContext.of_binding {c c' : Context} (hc : o.SameContext c c') {d : Context}
    (hd : d.binding = c.binding) : o.SameContext d (d.rebound c'.tier c'.session) := by
  have htier : d.tier = c.tier := Context.tier_eq_of_binding hd
  have hsession : d.session = c.session := by
    have := congrArg Context.session hd
    exact this
  refine ⟨?_, ?_, rfl⟩
  · rw [htier]
    exact hc.tier
  · rw [hsession]
    exact hc.session

theorem setCookie (hs : o.SameRun s s') (h : Host) (name value : String) (expires : Int) :
    o.SameOutcome (s.setCookie h name value expires) (s'.setCookie h name value expires) := by
  unfold Run.setCookie
  split
  · exact ⟨rfl, hs.context, hs.exchange.mapHeaders _⟩
  · exact ⟨rfl, hs⟩

theorem parseForm (hs : o.SameRun s s') (h : Host) (maxMemory : Int) :
    o.SameOutcome (s.parseForm h maxMemory) (s'.parseForm h maxMemory) := by
  have hform : s'.context.parseForm (h.memoryFor maxMemory) =
      (s.context.parseForm (h.memoryFor maxMemory)).map
        (·.rebound s'.context.tier s'.context.session) := by
    rw [hs.context.rest]
    exact Context.parseForm_rebound _ _ _ _
  unfold Run.parseForm
  rw [hform]
  cases hc : s.context.parseForm (h.memoryFor maxMemory) with
  | ok c => exact ⟨rfl, hs.context.of_binding (Context.binding_parseForm hc), hs.exchange⟩
  | error f => exact ⟨rfl, hs⟩

theorem getFile (hs : o.SameRun s s') (h : Host) (field : String) :
    o.SameOutcome (s.getFile h field) (s'.getFile h field) := by
  have hform : s'.context.withForm h.settings.maxMemory =
      (s.context.withForm h.settings.maxMemory).rebound s'.context.tier s'.context.session := by
    rw [hs.context.rest]
    exact Context.withForm_rebound _ _ _ _
  have hbinding := Context.binding_withForm s.context h.settings.maxMemory
  unfold Run.getFile
  rw [hform]
  generalize s.context.withForm h.settings.maxMemory = c at hbinding
  exact ⟨rfl, hs.context.of_binding hbinding, hs.exchange⟩

theorem writeBody (hs : o.SameRun s s') (doing : String) (bytes : Bytes) :
    o.SameOutcome (s.writeBody doing bytes) (s'.writeBody doing bytes) := by
  obtain ⟨hanswer, hleft⟩ := hs.exchange.write bytes
  unfold Run.writeBody
  cases hx : s.exchange.write bytes with
  | mk result x =>
    cases hy : s'.exchange.write bytes with
    | mk result' y =>
      rw [hx, hy] at hanswer hleft
      dsimp only at hanswer hleft
      subst hanswer
      cases result' with
      | ok _ => exact ⟨rfl, hs.context, hleft⟩
      | error reason => exact ⟨rfl, hs.context, hleft⟩

/-- Status 200 and a body. -/
theorem page (hs : o.SameRun s s') (doing : String) (bytes : Bytes) :
    o.SameOutcome ((s.mapExchange (·.writeStatus 200)).writeBody doing bytes)
      ((s'.mapExchange (·.writeStatus 200)).writeBody doing bytes) :=
  writeBody (hs.mapExchange (hs.exchange.writeStatus 200)) doing bytes

theorem compiled (ho : o.Suffices h) (hs : o.SameRun s s') :
    (s'.compiled h).1 = (s.compiled h).1 ∧
      o.SameExchange (s.compiled h).2 (s'.compiled h).2 := by
  unfold Run.compiled
  rw [hs.request]
  exact ho.compiler _ _ _ _ _ hs.context.session (hs.exchange.note rfl)

theorem afterCompiler (ho : o.Suffices h) (hs : o.SameRun s s') :
    o.SameExchange (s.afterCompiler h) (s'.afterCompiler h) := by
  obtain ⟨hgiven, hleft⟩ := compiled ho hs
  unfold Run.afterCompiler
  rw [hgiven]
  split
  · exact hleft.note (hs.line _ _)
  · exact hleft

theorem rendered (ho : o.Suffices h) (hs : o.SameRun s s') (template : String)
    (args : Members) :
    (s'.rendered h template args).1 = (s.rendered h template args).1 ∧
      o.SameExchange (s.rendered h template args).2 (s'.rendered h template args).2 := by
  have hgiven : (s'.compiled h).1 = (s.compiled h).1 := (compiled ho hs).1
  unfold Run.rendered
  rw [hs.request, hgiven]
  exact ho.renderer _ _ _ _ _ (((afterCompiler ho hs).writeStatus 200).note rfl)

theorem renderWith (ho : o.Suffices h) (hs : o.SameRun s s') (template : String)
    (args : Members) : o.SameRun (s.renderWith h template args) (s'.renderWith h template args) := by
  obtain ⟨hanswer, hleft⟩ := rendered ho hs template args
  rw [Run.renderWith_eq, Run.renderWith_eq]
  cases hx : s.rendered h template args with
  | mk result x =>
    cases hy : s'.rendered h template args with
    | mk result' y =>
      rw [hx, hy] at hanswer hleft
      dsimp only at hanswer hleft
      subst hanswer
      cases result' with
      | ok _ => exact ⟨hs.context, hleft⟩
      | error f => exact ⟨hs.context, hleft.note (hs.line _ _)⟩

theorem render (ho : o.Suffices h) (hs : o.SameRun s s') (template : String)
    (args : Option Table) :
    o.SameOutcome (s.render h template args) (s'.render h template args) := by
  unfold Run.render
  split
  · exact ⟨rfl, renderWith ho hs template _⟩
  · exact ⟨rfl, hs⟩

theorem redirect (hs : o.SameRun s s') (destination : Option String) (status : Nat) :
    o.SameRun (s.redirect destination status) (s'.redirect destination status) := by
  have hsubtopic : s'.context.subtopic = s.context.subtopic := congrArg Request.uri hs.request
  unfold Run.redirect
  rw [hs.request, hsubtopic]
  exact hs.mapExchange ((hs.exchange.mapHeaders _).writeStatus _)

theorem serveFile (hs : o.SameRun s s') (h : Host) (path : String) :
    o.SameOutcome (s.serveFile h path) (s'.serveFile h path) := by
  unfold Run.serveFile
  dsimp only
  split
  · exact page hs _ _
  · exact ⟨rfl, hs.context, hs.exchange.writeStatus 200⟩

/-- One request may be sent for another if transport and observer take them for the same, and so
does the line in the log. -/
theorem send (hs : o.SameRun s s') {q q' : OutboundRequest}
    (hmethod : (q'.withUserAgent h.settings.userAgent).method =
      (q.withUserAgent h.settings.userAgent).method)
    (hurl : (q'.withUserAgent h.settings.userAgent).url =
      (q.withUserAgent h.settings.userAgent).url)
    (hevent : o.event (.sent (q'.withUserAgent h.settings.userAgent)) =
      o.event (.sent (q.withUserAgent h.settings.userAgent)))
    (htransport : h.transport (q'.withUserAgent h.settings.userAgent) =
      h.transport (q.withUserAgent h.settings.userAgent))
    (answer : OutboundResponse → List Value) :
    o.SameOutcome (s.send h q answer) (s'.send h q' answer) := by
  refine ⟨congrArg (answer <$> ·) htransport, hs.context, ?_⟩
  unfold Run.send
  dsimp only
  rw [hmethod, hurl]
  exact (hs.exchange.note rfl).note hevent

theorem sendIf (hs : o.SameRun s s') (h : Host) (request : Result OutboundRequest)
    (answer : OutboundResponse → List Value) :
    o.SameOutcome (s.sendIf h request answer) (s'.sendIf h request answer) := by
  unfold Run.sendIf
  split
  · exact send hs rfl rfl rfl rfl answer
  · exact ⟨rfl, hs⟩

/-- **An operation does the same in states that look the same.** -/
theorem perform (ho : o.Suffices h) (hs : o.SameRun s s') (op : Operation) :
    o.SameOutcome (s.perform h op) (s'.perform h op) := by
  cases op <;> rw [Run.perform, Run.perform]
  case getCookie | remoteAddress | relativeUrl => exact ⟨by rw [hs.request], hs⟩
  case getHeader => exact ⟨by rw [hs.exchange.response], hs⟩
  case setCookie => exact setCookie hs ..
  case parseForm => exact parseForm hs ..
  case getFile => exact getFile hs ..
  case write => exact page hs ..
  case render => exact render ho hs ..
  case redirect => exact ⟨rfl, redirect hs ..⟩
  case serveFile => exact serveFile hs ..
  case setHeader => exact ⟨rfl, hs.context, hs.exchange.mapHeaders _⟩
  case get | postForm | request => exact sendIf hs ..

/-! ## One call -/

/-- **A call does the same in states of one tier that look the same.** -/
theorem callHttp (ho : o.Suffices h) (hs : o.SameRun s s')
    (ht : s'.context.tier = s.context.tier) (method : String) (args : List Value) :
    o.SameOutcome (s.callHttp h method args) (s'.callHttp h method args) := by
  by_cases hw : s.context.tier = .widget
  · -- a widget is refused with a line in the log
    rw [Run.callHttp_widget hw, Run.callHttp_widget (ht.trans hw)]
    exact ⟨rfl, hs.context, hs.exchange.note (hs.line _ _)⟩
  · rw [Run.callHttp_eq hw, Run.callHttp_eq (ht ▸ hw), ht]
    cases (Operation.methods s.context.tier).read s.context.tier method args with
    | ok op => exact perform ho hs op
    | error f => exact ⟨rfl, hs⟩

theorem call (ho : o.Suffices h) (hs : o.SameRun s s')
    (ht : s'.context.tier = s.context.tier) (target method : String) (args : List Value) :
    o.SameOutcome (s.call h target method args) (s'.call h target method args) := by
  have hv : s'.validator? h = s.validator? h := by
    unfold Run.validator?
    rw [ht]
  unfold Run.call
  rw [hv]
  split
  · exact callHttp ho hs ht method args
  · split
    · split <;> exact ⟨rfl, hs⟩
    · exact ⟨rfl, hs⟩

/-! ## The end of a script -/

theorem sendErrorPage {x y : Exchange} (hxy : o.SameExchange x y) (r : Request) (f : Failure) :
    o.SameExchange (x.sendErrorPage r f) (y.sendErrorPage r f) := by
  have hheaded := hxy.mapHeaders (·.set "Content-Type" "text/plain; charset=utf-8")
  obtain ⟨hwritten, hleft⟩ := (hheaded.writeStatus f.status).write Exchange.errorPage
  unfold Exchange.sendErrorPage
  rw [hxy.response]
  split
  · exact hxy
  · dsimp only
    cases hx : ((x.mapHeaders (·.set "Content-Type" "text/plain; charset=utf-8")).writeStatus
        f.status).write Exchange.errorPage with
    | mk result x' =>
      cases hy : ((y.mapHeaders (·.set "Content-Type" "text/plain; charset=utf-8")).writeStatus
          f.status).write Exchange.errorPage with
      | mk result' y' =>
        rw [hx, hy] at hwritten hleft
        dsimp only at hwritten hleft
        subst hwritten
        cases result' with
        | ok _ => exact hleft
        | error reason => exact hleft.note rfl

/-- An error page looks the same, and so does the line about the failure. -/
theorem conclude {x y : Exchange} (hxy : o.SameExchange x y) (tier : Tier) (r : Request)
    (result : Result Unit) :
    o.SameExchange (x.conclude tier r result) (y.conclude tier r result) := by
  cases result with
  | ok _ => exact hxy
  | error f => exact sendErrorPage (hxy.note rfl) r f

end Observer

end WebScript
