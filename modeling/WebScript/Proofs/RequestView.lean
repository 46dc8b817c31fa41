import WebScript.Proofs.Visits

/-!
# What scripts see of a request

* `Run.view_eq`: what a script sees of its request is what there is to see of it, whatever has
  been called before.
* `Host.Passes.body`: the body goes to the first visit.
* `frozen_request_view`: **all scripts that are bound to a request see the same of it at all
  times**, but for the body.
-/

namespace WebScript

/-- What scripts read and ask about their request, the body apart: fields, and answers to calls by
their arguments. -/
structure View where
  method : Value
  getValues : Value
  subtopic : Value
  getCookie : List Value → Result (List Value)
  getRemoteAddress : List Value → Result (List Value)
  getRelativeUrl : List Value → Result (List Value)

/-- What a script sees in a state. -/
def Run.view (h : Host) (s : Run) : View where
  method := s.context.field "method"
  getValues := s.context.field "getValues"
  subtopic := s.context.field "subtopic"
  getCookie args := (s.call h "http" "getCookie" args).1
  getRemoteAddress args := (s.call h "http" "getRemoteAddress" args).1
  getRelativeUrl args := (s.call h "http" "getRelativeURL" args).1

/-- What there is to see of a request. -/
def Request.view (r : Request) : View where
  method := .string r.method
  getValues := .table (Table.ofFields r.query)
  subtopic := .string r.uri
  getCookie args := (fun name => [.ofString? (r.cookie? name)]) <$>
    Arguments.string args 1 "Invalid cookie name. Expected string"
  getRemoteAddress _ := (fun host => [.string host]) <$> Http.splitHostPort r.remoteAddress
  getRelativeUrl _ := .ok [.string r.relativeUrl]

/-- The body is no part of the view. -/
theorem Request.view_withoutBody (r : Request) : r.withoutBody.view = r.view := rfl

namespace Run

variable {h : Host} {s : Run}

/-- **A script sees what there is to see of its request**, in any state. -/
theorem view_eq (h : Host) (ht : s.context.tier ≠ .widget) :
    s.view h = s.context.request.view := by
  have hfield (name : String) : s.context.field name = _ := if_neg ht
  have hcookie (args : List Value) : (s.call h "http" "getCookie" args).1 =
      s.context.request.view.getCookie args := by
    rw [call_http, callHttp_eq ht, Operation.read_shared ht "getCookie" rfl]
    cases hname : Arguments.string args 1 "Invalid cookie name. Expected string" with
    | error f => simp only [Request.view, hname]; rfl
    | ok name => simp only [Request.view, hname]; rfl
  have hremote (args : List Value) : (s.call h "http" "getRemoteAddress" args).1 =
      s.context.request.view.getRemoteAddress args := by
    rw [call_http, callHttp_eq ht, Operation.read_shared ht "getRemoteAddress" rfl]
    rfl
  have hrelative (args : List Value) : (s.call h "http" "getRelativeURL" args).1 =
      s.context.request.view.getRelativeUrl args := by
    rw [call_http, callHttp_eq ht, Operation.read_shared ht "getRelativeURL" rfl]
    rfl
  unfold view
  rw [hfield, hfield, hfield, funext hcookie, funext hremote, funext hrelative]
  rfl

end Run

namespace Host.Passes

variable {h : Host} {r : Request} {visits : List (Exchange × Visit)} {n : Nat} {s : Run}

/-- Every visit is bound to the same request. -/
theorem request (hs : h.Passes r visits n s) : s.context.request = r.withoutBody := by
  induction hs with
  | @here r x v visits calls _ =>
    exact congrArg Context.request (Run.after_binding h (v.bound r x) calls)
  | @later r x v visits n s _ ih =>
    rw [ih, Visit.request_eq]
    rfl

/-- **The body goes to the first visit**, and stays there. -/
theorem body (hs : h.Passes r visits n s) :
    s.context.body = if n = 0 then r.body else [] := by
  induction hs with
  | @here r x v visits calls _ =>
    exact congrArg Context.body (Run.after_binding h (v.bound r x) calls)
  | @later r x v visits n s _ ih =>
    have hempty : (v.request h r x).body = [] := by
      rw [Visit.request_eq]
      rfl
    rw [ih, hempty, ite_self, if_neg (Nat.succ_ne_zero n)]

theorem view (hs : h.Passes r visits n s) (ht : s.context.tier ≠ .widget) :
    s.view h = r.view := by
  rw [Run.view_eq h ht, hs.request, Request.view_withoutBody]

theorem field_body (hs : h.Passes r visits n s) (ht : s.context.tier ≠ .widget) :
    s.context.field "body" = .string (if n = 0 then r.body else []).toText := by
  rw [← hs.body]
  exact if_neg ht

end Host.Passes

/-- **A request is frozen for its scripts.** Whatever visits it has, for whatever exchanges, and
whatever is called in them: the first visit has the whole body and every later one an empty body;
any two scripts that may ask see the same of the request at any two moments, and within one visit
the same body, namely what there is to see of it. -/
theorem frozen_request_view (h : Host) (r : Request) (visits : List (Exchange × Visit)) :
    (∀ n s, h.Passes r visits n s → s.context.body = if n = 0 then r.body else []) ∧
    (∀ n s n' s', h.Passes r visits n s → h.Passes r visits n' s' →
      s.context.tier ≠ .widget → s'.context.tier ≠ .widget →
        s'.view h = s.view h ∧
          (n' = n → s'.context.field "body" = s.context.field "body")) ∧
    (∀ n s, h.Passes r visits n s → s.context.tier ≠ .widget →
      s.view h = r.view ∧
        s.context.field "body" = .string (if n = 0 then r.body else []).toText) := by
  refine ⟨fun n s hs => hs.body, ?_, fun n s hs ht => ⟨hs.view ht, hs.field_body ht⟩⟩
  intro n s n' s' hs hs' ht ht'
  refine ⟨?_, ?_⟩
  · rw [hs.view ht, hs'.view ht']
  · rintro rfl
    rw [hs.field_body ht, hs'.field_body ht']

/-- A page that is bound behind a widget finds no body, and sees of the request what came in. -/
theorem frozen_request_view_plain :
    let r : Request := ⟨"1", "POST", "/a?b=c", .empty, "", [120]⟩
    let start : Exchange := .start none
    let widget : Visit := .execute .widget .anonymous .done
    let page : Visit :=
      .bind .full .anonymous [⟨"http", "setHeader", [.string "Cookie", .string "d=e"]⟩]
    let next : Exchange := widget.exchange .plain r start
    let s := page.left .plain (widget.request .plain r start) next
    Host.plain.Passes r [(start, widget), (next, page)] 1 s ∧ s.context.tier ≠ .widget ∧
      s.context.body = [] ∧ s.view .plain = r.view := by
  intro r start widget page next s
  have hpass : Host.plain.Passes r [(start, widget), (next, page)] 1 s :=
    .later (.here (List.prefix_refl _))
  have htier : s.context.tier ≠ .widget := by
    rw [Visit.tier_left]
    decide
  obtain ⟨hbody, -, hview⟩ := frozen_request_view .plain r [(start, widget), (next, page)]
  exact ⟨hpass, htier, hbody 1 s hpass, (hview 1 s hpass htier).1⟩

end WebScript
