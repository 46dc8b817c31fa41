import WebScript.Form.Urlencoded
import WebScript.Headers
import WebScript.Http.Cookie
import WebScript.Url.Parser

/-!
# Requests

A request as it came in, and what can be read off it.

* `Request.relativeUrl`: its path and query as they were received.
* `Request.url`: its URL, with a host of its own making where it names none.
* `Request.query`, `Request.cookie?`: the values of its query and its cookies.
-/

namespace WebScript

/-- A request. The method is in upper case, and an identifier tells the request apart. -/
structure Request where
  id : String
  method : String
  uri : String
  headers : Headers
  remoteAddress : String
  body : Bytes
  deriving DecidableEq

namespace Request

/-- A request without headers and body. -/
def new (id method uri : String) : Request :=
  ⟨id, Text.Case.upperAscii method, uri, .empty, "", []⟩

/-- The content type of the body; empty if there is none. -/
def contentType (r : Request) : String := r.headers.get "Content-Type"

/-- The URI without its fragment. -/
def beforeFragment (r : Request) : List Char := (Text.cut (· = '#') r.uri.toList).1

/-- Path and query as received. A scheme and a host in front of them are cut off. -/
def relativeUrl (r : Request) : String :=
  let uri := r.beforeFragment
  let path := match Text.after? "://".toList uri with
    | some rest => rest.dropWhile fun c => c != '/' && c != '?'
    | none => uri
  String.ofList (if path.head? = some '/' then path else '/' :: path)

/-- The values of the query. -/
def query (r : Request) : Fields :=
  match Text.cut (· = '?') r.beforeFragment with
  | (_, some q) => .ofUrlencoded (String.ofList q)
  | (_, none) => .empty

/-- The URL that a URI without a host is relative to. -/
def localBase : Url :=
  ⟨"http", some ⟨"", "", .domain "localhost", none⟩, .segments [""], none, none⟩

/-- The URL of the request. -/
def url (r : Request) : Except UrlFault Url := localBase.join r.uri

/-- The value of a cookie. -/
def cookie? (r : Request) (name : String) : Option String :=
  Http.findCookie? (r.headers.getAll "Cookie") name

/-- The request with an empty body. -/
def withoutBody (r : Request) : Request := { r with body := [] }

end Request

end WebScript
