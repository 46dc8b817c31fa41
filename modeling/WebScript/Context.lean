import WebScript.Exchange
import WebScript.Form.Multipart
import WebScript.Tier
import WebScript.Value.Conversion

/-!
# Contexts

What a script is bound to: a request, whose body is taken out of it on that occasion, and the
form that the body holds. Only the form may change while the script runs.

* `Context.ofRequest`: binding.
* `Context.parseForm`: reading the body as a multipart form.
* `Context.field`: what scripts read of it by name.
-/

namespace WebScript

/-- What a script is bound to. The request has no body any more. -/
structure Context where
  tier : Tier
  request : Request
  session : Session
  body : Bytes
  /-- The values of the form, be it urlencoded or multipart. -/
  values : Fields
  /-- The multipart form, once it has been read. -/
  form : Option Multipart
  deriving DecidableEq

/-- The request posts an urlencoded form. -/
def Request.postsUrlencoded (r : Request) : Bool :=
  r.method == "POST" && Form.mediaType r.contentType == "application/x-www-form-urlencoded"

namespace Context

/-- Binds a request at a tier. An urlencoded form is read at once. -/
def ofRequest (tier : Tier) (r : Request) (session : Session) : Context where
  tier := tier
  request := r.withoutBody
  session := session
  body := r.body
  values := if r.postsUrlencoded then .ofUrlencoded r.body.toText else .empty
  form := none

variable (c : Context)

/-- The values of the query. -/
def queryValues : Fields := c.request.query

/-- The values of the form; only a request that posts has any. -/
def postValues? : Option Fields := if c.request.method = "POST" then some c.values else none

/-- The request as the page that a script belongs to. -/
def subtopic : String := c.request.uri

/-- Reads the body as a multipart form, whose values take the place of those before. -/
def parseForm (maxMemory : Nat) : Except Form.MultipartFault Context :=
  match Multipart.parse c.request.contentType c.body maxMemory with
  | .ok form => .ok { c with values := form.values, form := some form }
  | .error f => .error f

/-- The context with its form read, unless it has one or cannot be read. -/
def withForm (maxMemory : Nat) : Context :=
  match c.form with
  | some _ => c
  | none =>
    match c.parseForm maxMemory with
    | .ok c => c
    | .error _ => c

/-- The first file of a field of the form. -/
def file? (field : String) : Option Upload := c.form.bind (·.file? field)

/-- What scripts read by name; a widget reads nothing. -/
def field (name : String) : Value :=
  if c.tier = .widget then .nil
  else
    match name with
    | "method" => .string c.request.method
    | "body" => .string c.body.toText
    | "getValues" => .table (Table.ofFields c.queryValues)
    | "postValues" =>
      match c.postValues? with
      | some values => .table (Table.ofFields values)
      | none => .nil
    | "subtopic" => .string c.subtopic
    | "request" => .handle .request
    | "responseWriter" => .handle .responseWriter
    | "session" => .handle (.session c.session)
    | _ => .nil

/-- A line of the log that names the request and the tier. -/
def line (level : LogLevel) (message : String) : LogLine :=
  ⟨level, message, [("request_id", .text c.request.id), ("tier", .text c.tier.name)]⟩

end Context

end WebScript
