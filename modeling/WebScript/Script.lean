import WebScript.Run

/-!
# Scripts

A script as what it does next, given the answers it has had, and its execution in one exchange.

* `Script`: the calls of a script and how it ends.
* `Script.run`: what it gives and leaves.
* `Host.execute`: runs a script and answers the request with an error page if the script fails
  before it has sent a status.
-/

namespace WebScript

/-- A script: it calls its objects, reads fields of its request, and ends well or with a failure,
its own or one it has met. -/
inductive Script where
  | done
  | fail (f : Failure)
  | call (target method : String) (args : List Value) (next : Result (List Value) → Script)
  | field (name : String) (next : Value → Script)

namespace Script

/-- What a script gives and leaves. -/
def run (h : Host) : Script → Run → Result Unit × Run
  | .done, s => (.ok (), s)
  | .fail f, s => (.error f, s)
  | .call target method args next, s =>
    let (answer, s) := s.call h target method args
    (next answer).run h s
  | .field name next, s => (next (s.context.field name)).run h s

end Script

namespace Exchange

/-- The body of an error page. -/
def errorPage : Bytes := Bytes.ofText "Internal Server Error"

/-- Answers with an error page, unless a status has been sent. -/
def sendErrorPage (x : Exchange) (r : Request) (f : Failure) : Exchange :=
  match x.response.status with
  | some _ => x
  | none =>
    let x := (x.mapHeaders (·.set "Content-Type" "text/plain; charset=utf-8")).writeStatus f.status
    match x.write errorPage with
    | (.ok (), x) => x
    | (.error reason, x) =>
      x.log ⟨.warn, "cannot write error response",
        [("request_id", .text r.id), ("error", .text reason)]⟩

/-- What becomes of an exchange when the script has ended. -/
def conclude (x : Exchange) (tier : Tier) (r : Request) : Result Unit → Exchange
  | .ok () => x
  | .error f =>
    (x.log ⟨.error, "script execution failed",
      [("request_id", .text r.id), ("tier", .text tier.name), ("error", .text f.display)]⟩)
      |>.sendErrorPage r f

end Exchange

/-- Executes a script for a request. What the script gives is given on unchanged. -/
def Host.execute (h : Host) (tier : Tier) (r : Request) (session : Session) (script : Script)
    (x : Exchange) : Result Unit × Exchange :=
  let (result, s) := script.run h (x.bind tier r session)
  (result, s.exchange.conclude tier r result)

end WebScript
