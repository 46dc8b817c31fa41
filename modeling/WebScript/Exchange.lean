import WebScript.Event
import WebScript.Response

/-!
# Exchanges

The response to one request in the making, with the events on the way to it. The body may be
impossible to send, as when the client is gone; status and headers are not affected by that.

* `writeStatus`, `write`: sending; a status that comes too late leaves a warning.
-/

namespace WebScript

/-- A response in the making, why its body cannot be sent if it cannot, and what has happened. -/
structure Exchange where
  response : Response
  broken : Option String
  events : List Event

namespace Exchange

/-- An exchange before anything is done. -/
def start (broken : Option String) : Exchange := ⟨.empty, broken, []⟩

variable (x : Exchange)

/-- Takes note of an event. -/
def note (e : Event) : Exchange := { x with events := x.events ++ [e] }

/-- Adds a line to the log. -/
def log (line : LogLine) : Exchange := x.note (.logged line)

/-- Changes the headers. -/
def mapHeaders (f : Headers → Headers) : Exchange := { x with response := x.response.mapHeaders f }

/-- The warning that a status came too late. -/
def superfluous (existing ignored : Nat) : LogLine :=
  ⟨.warn, "superfluous write_header call",
    [("existing", .number existing), ("ignored", .number ignored)]⟩

/-- Sends a status, with the headers as they stand; a second one is ignored with a warning. -/
def writeStatus (status : Nat) : Exchange :=
  match x.response.status with
  | some existing => x.log (superfluous existing status)
  | none => { x with response := x.response.writeStatus status }

/-- Sends bytes of the body, after status 200 if there has been no other. Where that is
impossible nothing changes. -/
def write (bytes : Bytes) : Except String Unit × Exchange :=
  match x.broken with
  | some reason => (.error reason, x)
  | none => (.ok (), { x with response := x.response.write bytes })

end Exchange

end WebScript
