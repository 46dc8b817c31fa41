import WebScript.Form.Urlencoded
import WebScript.Http.Duration
import WebScript.Http.Token
import WebScript.Url.Parser
import WebScript.Value.Conversion

/-!
# Outbound requests

Requests that a script sends to other hosts, and the table of settings that describes one.

* `ClientConfig.ofTable`: reads and checks the table.
* `ClientConfig.toRequest`: the request it describes.
* `OutboundRequest.ofGet`, `ofForm`, `ofConfig`: the requests that the methods of a script make.
-/

namespace WebScript

/-- A user name with its password. -/
structure BasicAuth where
  username : String
  password : Secret
  deriving DecidableEq

/-- What credentials show of themselves. -/
def BasicAuth.shown (a : BasicAuth) : String :=
  "BasicAuth \x7b username: " ++ Text.Quoted.quote a.username ++ ", password: " ++
    a.password.shown ++ " \x7d"

/-- A request to another host. A timeout is in nanoseconds. -/
structure OutboundRequest where
  method : String
  url : Url
  headers : Headers
  body : Bytes
  auth : Option BasicAuth
  timeout : Option Nat
  deriving DecidableEq

/-- The answer of another host. -/
structure OutboundResponse where
  status : Nat
  headers : Headers
  body : Bytes
  deriving DecidableEq

/-- What is kept of a request that was sent: neither its body nor its credentials. -/
structure SentRecord where
  method : String
  url : String
  bodyLength : Nat
  authenticated : Bool
  deriving DecidableEq

namespace OutboundRequest

/-- A request with nothing but a method and a URL. -/
def bare (method : String) (url : Url) : OutboundRequest := ⟨method, url, .empty, [], none, none⟩

/-- A request that posts fields as a form. -/
def form (url : Url) (fields : Fields) : OutboundRequest :=
  { bare "POST" url with
    headers := Headers.empty.set "Content-Type" "application/x-www-form-urlencoded"
    body := fields.urlencodeBytes }

/-- The request with a user agent, unless it has one. -/
def withUserAgent (r : OutboundRequest) : Option String → OutboundRequest
  | some agent =>
    if r.headers.contains "User-Agent" then r
    else { r with headers := r.headers.set "User-Agent" agent }
  | none => r

/-- What is kept of the request. -/
def record (r : OutboundRequest) : SentRecord :=
  ⟨r.method, r.url.serialize, r.body.length, r.auth.isSome⟩

end OutboundRequest

/-- Answers requests to other hosts. -/
abbrev Transport := OutboundRequest → Result OutboundResponse

/-- The settings of one request, read and checked but for URL and method. -/
structure ClientConfig where
  timeout : Option Nat
  method : String
  url : String
  body : String
  headers : List (String × String)
  auth : Option BasicAuth
  deriving DecidableEq

namespace ClientConfig

/-- A timeout given as a string; zero is none, and so is anything but a string. -/
def readTimeout : Value → Result (Option Nat)
  | .string s =>
    match Http.readDuration s with
    | .ok n => .ok (if n = 0 then none else some n)
    | .error f => .error (.during "Cannot format timeout duration" f.message)
  | _ => .ok none

/-- A setting that has to be a string. -/
def readString (v : Value) (what : String) : Result String :=
  match v with
  | .string s => .ok s
  | _ => .error (.argument 1 "string" ("Invalid request " ++ what ++ " type. Expected string"))

/-- The body: fields for a table, of which a later entry replaces one of the same name, and a
string as it is. -/
def readBody : Value → String
  | .table t =>
    (t.entries.foldl (fun (f : Fields) e => f.set e.1.display e.2.display) .empty).urlencode
  | .string s => s
  | _ => ""

/-- The entries of a table that have a name and a string, in order. -/
def readHeaders : Value → List (String × String)
  | .table t => t.entries.filterMap fun
    | (.name k, .string v) => some (k, v)
    | _ => none
  | _ => []

/-- The credentials in a table. -/
def readAuth (v : Value) : Option BasicAuth :=
  v.table?.map fun t => ⟨(t.field "username").looseText, ⟨(t.field "password").looseText⟩⟩

/-- Reads a table of settings. -/
def ofTable (t : Table) : Result ClientConfig := do
  let timeout ← readTimeout (t.field "timeout")
  let method ← readString (t.field "method") "method"
  let url ← readString (t.field "url") "url"
  return ⟨timeout, method, url, readBody (t.field "data"), readHeaders (t.field "headers"),
    readAuth (t.field "authentication")⟩

/-- What was being done when a request could not be made. -/
def creating : String := "Cannot create http request"

/-- The request that settings describe. -/
def toRequest (c : ClientConfig) : Result OutboundRequest :=
  match Url.parse c.url with
  | .error f => .error (.during creating f.message)
  | .ok url =>
    if Http.isToken c.method then
      .ok { method := c.method, url := url
            headers := c.headers.foldl (fun h p => h.set p.1 p.2) .empty
            body := Bytes.ofText c.body, auth := c.auth, timeout := c.timeout }
    else .error (.during creating ("invalid method " ++ Text.Quoted.quote c.method))

end ClientConfig

/-- A URL that a request is to be sent to. -/
def readTarget (doing url : String) : Result Url :=
  match Url.parse url with
  | .ok url => .ok url
  | .error f => .error (.during doing f.message)

namespace OutboundRequest

/-- The request that gets a URL. -/
def ofGet (url : String) : Result OutboundRequest :=
  bare "GET" <$> readTarget "Cannot perform get request" url

/-- The request that posts a table as a form. -/
def ofForm (url : String) (data : Option Table) : Result OutboundRequest := do
  let fields ← match (data.getD .empty).toFields with
    | .ok fields => .ok fields
    | .error f => .error (Failure.ofTableFault f)
  return form (← readTarget "Cannot post form" url) fields

/-- The request that a table of settings describes. -/
def ofConfig (config : Table) : Result OutboundRequest :=
  ClientConfig.ofTable config >>= (·.toRequest)

end OutboundRequest

namespace OutboundResponse

/-- The body as a script gets it. -/
def bodyValue (r : OutboundResponse) : Value := .string r.body.toText

/-- Body, headers and status as a script gets them. -/
def allValues (r : OutboundResponse) : List Value :=
  [r.bodyValue, .table (Table.ofHeaders r.headers), .ofInt r.status]

end OutboundResponse

end WebScript
