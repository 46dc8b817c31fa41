import WebScript.Proofs.Conduct

/-!
# What has been sent stays sent

* `Run.call_of_not_sending`: a call that is not meant to send anything changes headers at most.
* `response_monotone`: **nothing that has been sent is ever taken back**, from the creation of a
  response to the end of the last visit.
-/

namespace WebScript

open Response (Step)

/-- **A call that is not meant to send anything** leaves status, sent headers and body as they
are. -/
theorem Run.call_of_not_sending {h : Host} (c : h.Conduct) (s : Run) (call : Call)
    (hcall : call.target ≠ "http" ∨ call.method ∉ Operation.sendingMethods) :
    let left := (s.call h call.target call.method call.args).2.exchange.response
    left.status = s.exchange.response.status ∧ left.sent = s.exchange.response.sent ∧
      left.body = s.exchange.response.body := by
  intro left
  have hsteps : ∀ step ∈ s.callSteps c call, ∃ f, step = .mapHeaders f := by
    unfold Run.callSteps
    cases hop : s.operation? call with
    | none =>
      intro step hstep
      cases hstep
    | some op =>
      obtain ⟨htarget, hname⟩ := call_of_operation? hop
      have hmethod : op.method ∉ Operation.sendingMethods := by
        rw [hname]
        exact hcall.resolve_left fun hne => hne htarget
      exact steps_of_not_sends c s (Operation.sends_of_method_not_mem hmethod)
  have hleft : left = s.exchange.response.steps (s.callSteps c call) := response_call c s call
  rw [hleft]
  exact Response.steps_of_mapHeaders hsteps

/-- **Responses are monotone.** A response has been created and written to by some operations, and
then requests are visited in any number, at any tiers and with any calls, by a host whose renderer
and compiler are confined. However these conduct themselves, the response has a history, with a
moment after each operation of a response writer, and is monotone in it; after any calls of any
visit it is at a moment of this history, later after more calls. Calls other than `write`, `render`,
`redirect` and `serveFile` leave status, sent headers and body as they are, in any state. -/
theorem response_monotone {h : Host} (hc : h.Confined) {x : Exchange} {before : List Step}
    (hx : x.response = Response.empty.steps before) (visits : List (Request × Visit)) :
    (∀ (s : Run) (target method : String) (args : List Value),
      ¬ (target = "http" ∧ method ∈ ["write", "render", "redirect", "serveFile"]) →
        let left := (s.call h target method args).2.exchange.response
        left.status = s.exchange.response.status ∧ left.sent = s.exchange.response.sent ∧
          left.body = s.exchange.response.body) ∧
    Nonempty h.Conduct ∧ ∀ c : h.Conduct,
      let history := before ++ Host.visitedSteps c x visits
      let w := Response.empty.moment history
      Response.Monotone w ∧
      (h.visited x visits).response = w history.length ∧
      (∀ front r v back calls, visits = front ++ (r, v) :: back →
        calls <+: v.made h r (h.visited x front) →
          before ++ Host.stepsUpTo c x front r v calls <+: history ∧
          ((v.bound r (h.visited x front)).after h calls).exchange.response =
            w (before ++ Host.stepsUpTo c x front r v calls).length) := by
  have hconduct : Nonempty h.Conduct := hc.nonempty_conduct
  refine ⟨?_, hconduct, fun c => ?_⟩
  · intro s target method args hnot
    obtain ⟨c⟩ := hconduct
    have hcall : target ≠ "http" ∨ method ∉ Operation.sendingMethods := not_and_or.1 hnot
    exact Run.call_of_not_sending c s ⟨target, method, args⟩ hcall
  intro history w
  have hend : w history.length = Response.empty.steps history := Response.moment_length _ _
  refine ⟨Response.monotone_moment history, ?_, ?_⟩
  · rw [hend, Host.response_visited c, hx, Response.steps_append]
  · rintro front r v back calls rfl hcalls
    have hfirst : before ++ Host.stepsUpTo c x front r v calls <+: history :=
      (List.prefix_append_right_inj _).2 (Host.stepsUpTo_prefix c x front back r v hcalls)
    refine ⟨hfirst, ?_⟩
    have hmoment : w (before ++ Host.stepsUpTo c x front r v calls).length =
        Response.empty.steps (before ++ Host.stepsUpTo c x front r v calls) :=
      Response.moment_of_prefix hfirst
    rw [hmoment, Host.response_stepsUpTo c, hx, Response.steps_append]

/-- A header that is set after the page has been begun is not sent, nor is the error page of a
second script. -/
theorem response_monotone_plain :
    let visits : List (Request × Visit) :=
      [(.new "1" "GET" "/", .bind .regular .anonymous
          [⟨"http", "setHeader", [.string "Page", .string "1"]⟩, ⟨"http", "write", [.string "a"]⟩]),
        (.new "2" "GET" "/", .execute .full .anonymous
          (.call "http" "setHeader" [.string "Page", .string "2"] fun _ => .fail (.host "gone")))]
    Host.plain.Confined ∧ (Exchange.start none).response = Response.empty.steps [] ∧
      (Host.plain.visited (.start none) visits).response.sent =
        some (Headers.empty.set "Page" "1") := by
  intro visits
  have hx : (Exchange.start none).response = Response.empty.steps [] := rfl
  obtain ⟨-, ⟨c⟩, hall⟩ := response_monotone Host.plain_confined hx visits
  obtain ⟨hmono, hend, -⟩ := hall c
  refine ⟨Host.plain_confined, hx, ?_⟩
  -- four operations: a header, the status, the body, a header that comes too late
  have hlength : ([] ++ Host.visitedSteps c (.start none) visits).length = 4 := rfl
  rw [hend, hlength]
  exact hmono.sent 1 4 (by decide) rfl (Option.some_ne_none 200)

end WebScript
