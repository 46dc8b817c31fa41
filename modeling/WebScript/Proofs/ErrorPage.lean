import WebScript.Proofs.Calls
import WebScript.Proofs.Headers

/-!
# Error pages

* `Script.run_evolves`: a script acts as a response writer does.
* `Exchange.response_sendErrorPage`: where no status has been sent, the error page is all of the
  response.
* `single_error_response`: **a request is answered once**, by the script or by the error page.
-/

namespace WebScript

/-- The error page in place of a response of which nothing has been sent: its headers stay, but
for the content type. -/
def Response.errorPage (w : Response) : Response where
  headers := w.headers.set "Content-Type" "text/plain; charset=utf-8"
  status := some 500
  sent := some (w.headers.set "Content-Type" "text/plain; charset=utf-8")
  body := Bytes.ofText "Internal Server Error"

theorem Response.getAll_errorPage (w : Response) (name : String) :
    w.errorPage.sentHeaders.getAll name =
      if Headers.canonicalName name = "Content-Type" then ["text/plain; charset=utf-8"]
      else w.headers.getAll name := by
  have hg := w.headers.getAll_set "Content-Type" name "text/plain; charset=utf-8"
  rw [Headers.canonicalName_contentType] at hg
  exact hg

namespace Exchange

variable {x : Exchange}

/-- After a status nothing is added to the response. -/
theorem sendErrorPage_of_status (hs : x.response.status ≠ none) (r : Request) (f : Failure) :
    x.sendErrorPage r f = x := by
  unfold sendErrorPage
  split
  · rfl
  · rename_i hnone
    exact absurd hnone hs

/-- Before a status the error page is all of the response. -/
theorem response_sendErrorPage (hb : x.broken = none) (hs : x.response.status = none)
    (ho : x.response.InOrder) (r : Request) (f : Failure) :
    (x.sendErrorPage r f).response = x.response.errorPage := by
  -- with the fields apart, all that remains of the page is what is written
  obtain ⟨⟨headers, status, sent, body⟩, broken, events⟩ := x
  have hbody : body = [] := (ho hs).2
  subst hbody
  cases hb
  cases hs
  rfl

/-- A script that ends well, or after it has sent a status, has answered the request. -/
theorem response_conclude_of_answered {result : Result Unit}
    (ha : result = .ok () ∨ x.response.status ≠ none) (tier : Tier) (r : Request) :
    (x.conclude tier r result).response = x.response := by
  cases result with
  | ok _ => rfl
  | error f =>
    have hs : x.response.status ≠ none := ha.resolve_left (by simp)
    rw [conclude, sendErrorPage_of_status]
    · rfl
    · exact hs

/-- A script that fails before it has sent a status leaves the answer to the error page. -/
theorem response_conclude_of_unanswered {result : Result Unit}
    (ha : ¬ (result = .ok () ∨ x.response.status ≠ none)) (hb : x.broken = none)
    (ho : x.response.InOrder) (tier : Tier) (r : Request) :
    (x.conclude tier r result).response = x.response.errorPage := by
  obtain ⟨hf, hs⟩ := not_or.1 ha
  have hnone : x.response.status = none := not_not.1 hs
  cases result with
  | ok _ => exact absurd rfl hf
  | error f =>
    rw [conclude, response_sendErrorPage]
    · rfl
    · exact hb
    · exact hnone
    · exact ho

end Exchange

/-- **A script acts as a response writer does.** -/
theorem Script.run_evolves {h : Host} (hc : h.Confined) (script : Script) (s : Run) :
    s.exchange.Evolves (fun e => e.isSent → s.context.tier = .full)
      (script.run h s).2.exchange := by
  obtain ⟨calls, e⟩ := script.run_eq_after h s
  rw [e]
  exact Run.after_evolves hc s calls

/-- **A request is answered once.** The result of the script is given on unchanged. If the script
ends well, or fails with a status sent, the response stays as the script left it. If it fails with
no status sent, it has sent no byte either, and the response is the error page. So whatever fails
ends with a status, and the error page is never added to a page that has been begun. -/
theorem single_error_response {h : Host} (hc : h.Confined) {x : Exchange} (hb : x.broken = none)
    (hx : Response.empty.Writes x.response) (tier : Tier) (r : Request) (session : Session)
    (script : Script) :
    let left := script.run h (x.bind tier r session)
    let w := left.2.exchange.response
    let done := h.execute tier r session script x
    done.1 = left.1 ∧
    ((left.1 = .ok () ∨ w.status ≠ none) → done.2.response = w) ∧
    (¬ (left.1 = .ok () ∨ w.status ≠ none) → w.body = [] ∧ done.2.response = w.errorPage ∧
      ∀ name, done.2.response.sentHeaders.getAll name =
        if Headers.canonicalName name = "Content-Type" then ["text/plain; charset=utf-8"]
        else w.headers.getAll name) ∧
    (left.1 ≠ .ok () → done.2.response.status ≠ none) := by
  intro left w done
  have he := script.run_evolves hc (x.bind tier r session)
  -- from the first header to the failure one chain of writes, so no byte without a status
  have horder : w.InOrder := (hx.trans he.response).inOrder Response.inOrder_empty
  have hbroken : left.2.exchange.broken = none := he.broken.trans hb
  have hpage (ha : ¬ (left.1 = .ok () ∨ w.status ≠ none)) : done.2.response = w.errorPage :=
    Exchange.response_conclude_of_unanswered ha hbroken horder tier r
  refine ⟨rfl, fun ha => Exchange.response_conclude_of_answered ha tier r,
    fun ha => ⟨(horder (not_not.1 (not_or.1 ha).2)).2, hpage ha, fun name => ?_⟩, fun hf => ?_⟩
  · rw [hpage ha, Response.getAll_errorPage]
  · by_cases hs : w.status = none
    · rw [hpage (by simp [hf, hs])]
      simp [Response.errorPage]
    · have hkept : done.2.response = w := Exchange.response_conclude_of_answered (.inr hs) tier r
      rw [hkept]
      exact hs

/-- A script that fails after it has set a header leaves the error page, with its header. -/
theorem single_error_response_plain :
    Host.plain.Confined ∧ (Exchange.start none).broken = none ∧
    Response.empty.Writes (Exchange.start none).response ∧
    (Host.plain.execute .full (.new "1" "GET" "/") .anonymous
      (.call "http" "setHeader" [.string "Page", .string "1"] fun _ => .fail (.host "gone"))
      (.start none)).2.response = (Response.empty.setHeader "Page" "1").errorPage := by
  have hx : Response.empty.Writes (Exchange.start none).response := .refl
  obtain ⟨-, -, hpage, -⟩ := single_error_response Host.plain_confined (x := .start none) rfl hx
    .full (.new "1" "GET" "/") .anonymous
    (.call "http" "setHeader" [.string "Page", .string "1"] fun _ => .fail (.host "gone"))
  refine ⟨Host.plain_confined, rfl, hx, (hpage ?_).2.1⟩
  rintro (hok | hs)
  · cases hok
  · exact hs rfl

end WebScript
