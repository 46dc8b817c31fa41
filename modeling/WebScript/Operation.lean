import WebScript.Methods
import WebScript.Value.Arguments

/-!
# Operations

What scripts can have done about their request, and the methods that ask for it.

* `Operation`: the operations.
* `Operation.methods`: the methods of each tier.
-/

namespace WebScript

/-- An operation with its arguments, read and checked. -/
inductive Operation where
  | getCookie (name : String)
  | setCookie (name value : String) (expires : Int)
  /-- Reads the body as a multipart form; a limit that is not positive is none. -/
  | parseForm (maxMemory : Int)
  | getFile (field : String)
  | write (data : String)
  | render (template : String) (args : Option Table)
  /-- Without a destination, back to the request itself; status zero leaves the choice. -/
  | redirect (destination : Option String) (status : Nat)
  | serveFile (path : String)
  | getHeader (name : String)
  | setHeader (name value : String)
  | remoteAddress
  | relativeUrl
  | get (url : String)
  | postForm (url : String) (data : Option Table)
  | request (config : Table)

namespace Operation

/-- A status that a script may choose: three digits, or zero. -/
def isStatus (n : Int) : Bool := n == 0 || (100 ≤ n && n ≤ 999)

/-- The status in the second argument; zero if there is none. -/
def statusArgument (args : List Value) : Result Nat := do
  let message := "Invalid status code. Expected number"
  let n := (← Arguments.integer? args 2 message).getD 0
  if isStatus n then return n.toNat else .error (.argument 2 "status code" message)

/-- The methods that pages and event hooks have in common. -/
def sharedMethods : Methods Operation :=
  [("getCookie", fun args =>
      .getCookie <$> Arguments.string args 1 "Invalid cookie name. Expected string"),
   ("setCookie", fun args => do
      let name ← Arguments.string args 1 "Invalid cookie name. Expected string"
      let value ← Arguments.string args 2 "Invalid cookie value. Expected string"
      return .setCookie name value
        (← Arguments.integer args 3 "Invalid cookie expiration. Expected number")),
   ("parseMultiPartForm", fun args =>
      (fun n => .parseForm (n.getD 0)) <$>
        Arguments.integer? args 1 "Invalid form size. Expected number"),
   ("getFormFile", fun args =>
      .getFile <$> Arguments.string args 1 "Invalid form field. Expected string"),
   ("write", fun args => .write <$> Arguments.string args 1 "Invalid data type. Expected string"),
   ("render", fun args => do
      let template ← Arguments.string args 1 "Invalid template name. Expected string"
      return .render template
        (← Arguments.table? args 2 "Invalid template arguments. Expected table")),
   ("redirect", fun args => do
      let destination ← Arguments.string? args 1 "Invalid destination. Expected string"
      return .redirect destination (← statusArgument args)),
   ("serveFile", fun args =>
      .serveFile <$> Arguments.string args 1 "Invalid path type. Expected string"),
   ("getHeader", fun args =>
      .getHeader <$> Arguments.string args 1 "Invalid key type. Expected string"),
   ("setHeader", fun args => do
      let name ← Arguments.string args 1 "Invalid key type. Expected string"
      return .setHeader name (← Arguments.string args 2 "Invalid value type. Expected string")),
   ("getRemoteAddress", fun _ => .ok .remoteAddress),
   ("getRelativeURL", fun _ => .ok .relativeUrl)]

/-- The methods that reach other hosts. -/
def outboundMethods : Methods Operation :=
  [("get", fun args => .get <$> Arguments.string args 1 "Invalid url type. Expected string"),
   ("postForm", fun args => do
      let url ← Arguments.string args 1 "Invalid url type. Expected string"
      return .postForm url (← Arguments.table? args 2 "Invalid form data. Expected table")),
   ("request", fun args =>
      .request <$> Arguments.table args 1 "Invalid request configuration. Expected table")]

/-- The methods of a tier. -/
def methods : Tier → Methods Operation
  | .full => sharedMethods ++ outboundMethods
  | .regular => sharedMethods
  | .widget => []

end Operation

end WebScript
