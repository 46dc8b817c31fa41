import WebScript.Headers
import WebScript.Text.Utf8

/-!
# Responses

A response in the making. The first status counts and freezes the headers that are sent with it;
headers may go on changing, to no effect.

* `Response.writeStatus`, `Response.write`: the operations that send something.
* `Response.setHeader` and the like: the operations that only prepare.
-/

namespace WebScript

/-- A response: headers as they stand, the status and the headers sent with it, and the body. -/
structure Response where
  headers : Headers
  status : Option Nat
  sent : Option Headers
  body : Bytes
  deriving DecidableEq

namespace Response

/-- The response before anything is done. -/
def empty : Response := ⟨.empty, none, none, []⟩

instance : Inhabited Response := ⟨empty⟩

/-- The headers as they were sent, or as they stand while nothing is sent. -/
def sentHeaders (r : Response) : Headers := r.sent.getD r.headers

/-- Sends the status, with the headers as they stand; a second status is ignored. -/
def writeStatus (r : Response) (status : Nat) : Response :=
  match r.status with
  | some _ => r
  | none => { r with status := some status, sent := some r.headers }

/-- Sends bytes of the body, after status 200 if there has been no other. -/
def write (r : Response) (bytes : Bytes) : Response :=
  let r := r.writeStatus 200
  { r with body := r.body ++ bytes }

/-- Changes the headers. -/
def mapHeaders (r : Response) (f : Headers → Headers) : Response :=
  { r with headers := f r.headers }

/-- Replaces a header. -/
def setHeader (r : Response) (name value : String) : Response := r.mapHeaders (·.set name value)

/-- Adds an occurrence of a header. -/
def addHeader (r : Response) (name value : String) : Response := r.mapHeaders (·.add name value)

/-- The body as text. -/
def bodyText (r : Response) : String := r.body.toText

end Response

end WebScript
