import WebScript.Proofs.Calls

/-!
# Failed calls leave no trace

* `Run.perform_atomic`: an operation that fails leaves context and response as they were; serving
  a file may have sent status 200.
* `error_atomicity`: **the same of every call by name**, in any state.
-/

namespace WebScript

namespace Run

variable {h : Host} {s : Run} {f : Failure}

/-- The response of a state has at most been given status 200, with the headers as they stood. -/
def StatusOnly (s s' : Run) : Prop :=
  s.exchange.response.status = none ∧ s'.exchange.response =
    { s.exchange.response with status := some 200, sent := some s.exchange.response.headers }

theorem response_writeStatus_cases (s : Run) :
    (s.mapExchange (·.writeStatus 200)).exchange.response = s.exchange.response ∨
      s.StatusOnly (s.mapExchange (·.writeStatus 200)) := by
  have hr : (s.mapExchange (·.writeStatus 200)).exchange.response =
      s.exchange.response.writeStatus 200 := Exchange.response_writeStatus s.exchange 200
  cases hs : s.exchange.response.status with
  | some existing =>
    left
    rw [hr, Response.writeStatus_of_some hs]
  | none =>
    right
    refine ⟨hs, ?_⟩
    rw [hr, Response.writeStatus_of_none hs]

/-- Where the client can be reached, bytes of the body are sent. -/
theorem writeBody_of_reachable (hb : s.exchange.broken = none) (doing : String) (bytes : Bytes) :
    (s.writeBody doing bytes).1 ≠ .error f := by
  intro hf
  rcases writeBody_cases s doing bytes with ⟨_, e⟩ | ⟨reason, _, hr, _⟩
  · rw [e] at hf
    cases hf
  · rw [hb] at hr
    cases hr

theorem broken_writeStatus (hb : s.exchange.broken = none) (status : Nat) :
    (s.mapExchange (·.writeStatus status)).exchange.broken = none := by
  have hstatus : (s.exchange.writeStatus status).broken = s.exchange.broken :=
    Exchange.broken_writeStatus s.exchange status
  exact hstatus.trans hb

/-- **An operation that fails** leaves context and response as they were. Only the service of a
file sends its status before it looks for the file. -/
theorem perform_atomic (hb : s.exchange.broken = none) {op : Operation}
    (hf : (s.perform h op).1 = .error f) :
    (s.perform h op).2.context = s.context ∧
      ((s.perform h op).2.exchange.response = s.exchange.response ∨
        op.method = "serveFile" ∧ s.StatusOnly (s.perform h op).2) := by
  cases op <;> rw [perform] at hf ⊢
  case getCookie | getHeader | setHeader | redirect | relativeUrl => cases hf
  case getFile => cases hf
  case remoteAddress => exact ⟨rfl, .inl rfl⟩
  case setCookie name value expires =>
    rcases setCookie_cases h s name value expires with ⟨_, e⟩ | ⟨_, e⟩ <;> rw [e] at hf ⊢
    · cases hf
    · exact ⟨rfl, .inl rfl⟩
  case parseForm maxMemory =>
    rcases parseForm_cases h s maxMemory with ⟨_, _, e⟩ | ⟨_, e⟩ <;> rw [e] at hf ⊢
    · cases hf
    · exact ⟨rfl, .inl rfl⟩
  -- the status is sent first, but the write behind it cannot fail
  case write => exact absurd hf (writeBody_of_reachable (broken_writeStatus hb 200) _ _)
  case render template args =>
    rcases render_cases h s template args with ⟨_, e⟩ | ⟨_, e⟩ <;> rw [e] at hf ⊢
    · cases hf
    · exact ⟨rfl, .inl rfl⟩
  case serveFile path =>
    rcases serveFile_cases h s path with ⟨bytes, e⟩ | ⟨_, e⟩ <;> rw [e] at hf ⊢
    · exact absurd hf (writeBody_of_reachable (broken_writeStatus hb 200) _ _)
    · exact ⟨rfl, (response_writeStatus_cases s).imp_right fun hs => ⟨rfl, hs⟩⟩
  -- whether the request cannot be made or its answer is a failure, all it leaves is events
  case get | postForm | request =>
    refine ⟨context_sendIf .., .inl ?_⟩
    rcases sendIf_cases h s _ _ with ⟨_, _, e⟩ | ⟨_, _, e⟩
    · rw [e]
      rfl
    · rw [e]

theorem callHttp_atomic (hb : s.exchange.broken = none) {method : String} {args : List Value}
    (hf : (s.callHttp h method args).1 = .error f) :
    (s.callHttp h method args).2.context = s.context ∧
      ((s.callHttp h method args).2.exchange.response = s.exchange.response ∨
        method = "serveFile" ∧ s.StatusOnly (s.callHttp h method args).2) := by
  rcases callHttp_cases h s method args with ⟨_, e⟩ | ⟨_, _, e⟩ | ⟨_, _, _, e⟩ | ⟨_, op, hop, e⟩ <;>
    rw [e] at hf ⊢
  · exact ⟨rfl, .inl rfl⟩
  · exact ⟨rfl, .inl rfl⟩
  · exact ⟨rfl, .inl rfl⟩
  · rw [← hop]
    exact perform_atomic hb hf

end Run

/-- **Errors are atomic.** Whenever a call fails, of any object, by any name, with any arguments and
in any state whose client can be reached, what the script is bound to is as it was before the
call, with the captured body, the values of the form and the form itself, and so is the response,
with its status, its headers, those sent and its body. Only `serveFile` may have sent status 200
before, where no status had been sent. -/
theorem error_atomicity {h : Host} {s : Run} (hb : s.exchange.broken = none)
    {target method : String} {args : List Value} {f : Failure}
    (hf : (s.call h target method args).1 = .error f) :
    (s.call h target method args).2.context = s.context ∧
      ((s.call h target method args).2.exchange.response = s.exchange.response ∨
        (target = "http" ∧ method = "serveFile" ∧ s.exchange.response.status = none ∧
          (s.call h target method args).2.exchange.response =
            { s.exchange.response with
              status := some 200, sent := some s.exchange.response.headers })) := by
  by_cases ht : target = "http"
  · have hcall : s.call h target method args = s.callHttp h method args := by
      rw [Run.call, if_pos ht]
    rw [hcall] at hf ⊢
    obtain ⟨hc, hr⟩ := Run.callHttp_atomic hb hf
    exact ⟨hc, hr.imp_right fun ⟨hm, hnone, hs⟩ => ⟨ht, hm, hnone, hs⟩⟩
  · rw [Run.call_state, if_neg ht]
    exact ⟨rfl, .inl rfl⟩

/-- A file that is not there is served with status 200 all the same, and with no body. -/
theorem error_atomicity_plain :
    (Exchange.start none).broken = none ∧
    ((((Exchange.start none).bind .regular (.new "1" "GET" "/") .anonymous).call .plain "http"
      "serveFile" [.string "lost.html"]).1 =
        .error (.during "Cannot serve file" FileFault.missing.message)) ∧
    (((Exchange.start none).bind .regular (.new "1" "GET" "/") .anonymous).call .plain "http"
      "serveFile" [.string "lost.html"]).2.exchange.response.body = [] := by
  have hf : (((Exchange.start none).bind .regular (.new "1" "GET" "/") .anonymous).call .plain
      "http" "serveFile" [.string "lost.html"]).1 =
        .error (.during "Cannot serve file" FileFault.missing.message) := by rfl
  obtain ⟨-, hr⟩ := error_atomicity rfl hf
  refine ⟨rfl, hf, ?_⟩
  rcases hr with hr | ⟨-, -, -, hr⟩ <;> rw [hr] <;> rfl

end WebScript
