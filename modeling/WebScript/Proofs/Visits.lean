import WebScript.Proofs.Calls

/-!
# Visits

A request, and the exchange that answers it, may be bound to scripts more than once. Each time is
a visit.

* `Visit`: a request is bound and calls are made, or a script is executed.
* `Visit.exchange`, `Visit.request`: what is left of exchange and request when a visit is over.
* `Host.Passes`: the states that the visits of one request pass through.
-/

namespace WebScript

/-- What a host does with a request and an exchange. -/
inductive Visit where
  /-- The request is bound and calls are made. -/
  | bind (tier : Tier) (session : Session) (calls : List Call)
  /-- A script is executed, and answered for if it fails. -/
  | execute (tier : Tier) (session : Session) (script : Script)

namespace Visit

/-- The tier at which the request is bound. -/
def tier : Visit → Tier
  | .bind tier _ _ | .execute tier _ _ => tier

/-- The session with which the request is bound. -/
def session : Visit → Session
  | .bind _ session _ | .execute _ session _ => session

variable (h : Host) (v : Visit) (r : Request) (x : Exchange)

/-- The state in which the request has just been bound. -/
def bound : Run := x.bind v.tier r v.session

/-- The calls that are made. -/
def made : List Call :=
  match v with
  | .bind _ _ calls => calls
  | .execute _ _ script => script.calls h (v.bound r x)

/-- The state after all calls. -/
def left : Run := (v.bound r x).after h (v.made h r x)

/-- The exchange when the visit is over. -/
def exchange : Exchange :=
  match v with
  | .bind _ _ _ => (v.left h r x).exchange
  | .execute tier session script => (h.execute tier r session script x).2

/-- The request when the visit is over. -/
def request : Request := (v.left h r x).context.request

/-- An executed script leaves what its calls come to, with an error page if it is due. -/
theorem exchange_execute (tier : Tier) (session : Session) (script : Script) :
    (execute tier session script).exchange h r x =
      ((execute tier session script).left h r x).exchange.conclude tier r
        (script.run h (x.bind tier r session)).1 := by
  have hstate : ((execute tier session script).left h r x) =
      (script.run h (x.bind tier r session)).2 :=
    (script.run_state h (x.bind tier r session)).symm
  rw [hstate]
  rfl

/-- No call changes the tier. -/
theorem tier_left : (v.left h r x).context.tier = v.tier :=
  Context.tier_eq_of_binding (Run.after_binding h (v.bound r x) (v.made h r x))

/-- No call puts a body back into the request. -/
theorem request_eq : v.request h r x = r.withoutBody :=
  congrArg Context.request (Run.after_binding h (v.bound r x) (v.made h r x))

end Visit

/-- **The states that visits of a request pass through**, each between two calls: `n` visits are
over, and in the next one some calls have been made. Every visit has an exchange of its own or takes
up the one that another has left. -/
inductive Host.Passes (h : Host) : Request → List (Exchange × Visit) → Nat → Run → Prop
  | here {r : Request} {x : Exchange} {v : Visit} {visits : List (Exchange × Visit)}
      {calls : List Call} :
    calls <+: v.made h r x → Passes h r ((x, v) :: visits) 0 ((v.bound r x).after h calls)
  | later {r : Request} {x : Exchange} {v : Visit} {visits : List (Exchange × Visit)} {n : Nat}
      {s : Run} :
    Passes h (v.request h r x) visits n s → Passes h r ((x, v) :: visits) (n + 1) s

end WebScript
