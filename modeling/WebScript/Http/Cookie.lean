import WebScript.Failure
import WebScript.Http.Date
import WebScript.Http.Token
import WebScript.Text.Blank
import WebScript.Text.Cut

/-!
# Cookies

Cookies as they are set by a response and sent back by later requests.

* `SetCookie.headerValue`: the header that sets a cookie; characters that could end its value
  are left out.
* `SetCookie.requestPair`: the pair of name and value.
* `findCookie?`: the value of a cookie in the headers of a request.
-/

namespace WebScript.Http

/-- A cookie to be set. -/
structure SetCookie where
  name : String
  value : String
  path : String
  expires : Int
  secure : Bool
  httpOnly : Bool

namespace SetCookie

/-- A cookie set by a script: for the whole site and out of reach for pages. -/
def scripted (name value : String) (expires : Int) (secure : Bool) : SetCookie :=
  ⟨name, value, "/", expires, secure, true⟩

/-- A character that may stand in a cookie value: printable ASCII but for the double quote, the
semicolon and the backslash. -/
def isValueChar (c : Char) : Bool :=
  0x20 ≤ c.toNat && c.toNat < 0x7F && c != '"' && c != ';' && c != '\\'

/-- A value without the characters that may not stand in one. -/
def clean (value : String) : String := String.ofList (value.toList.filter isValueChar)

/-- A clean value as it is sent: between double quotes if it has a space or a comma. -/
def sent (value : String) : String :=
  let value := clean value
  if value.toList.contains ' ' || value.toList.contains ',' then "\"" ++ value ++ "\"" else value

/-- The header that sets the cookie. It fails if the name is no token or the expiry no date. -/
def headerValue (c : SetCookie) : Result String :=
  if ! isToken c.name then
    .error (.during "Cannot set HTTP cookie" ("invalid cookie name '" ++ c.name ++ "'"))
  else
    match httpDate? c.expires with
    | none => .error (.during "Cannot set HTTP cookie" "timestamp was not in range")
    | some date =>
      .ok (c.name ++ "=" ++ sent c.value ++ "; Path=" ++ c.path ++ "; Expires=" ++ date ++
        (if c.httpOnly then "; HttpOnly" else "") ++ if c.secure then "; Secure" else "")

/-- Name and value as they were given. -/
def requestPair (c : SetCookie) : String := c.name ++ "=" ++ c.value

end SetCookie

/-- A value without the double quotes around it; one alone is none. -/
def unquoted : List Char → List Char
  | '"' :: r => if r.getLast? = some '"' then r.dropLast else '"' :: r
  | cs => cs

/-- The value that one pair of a cookie header gives to a name. -/
def pairValue? (name : String) (pair : List Char) : Option String :=
  match Text.cut (· = '=') (Text.trim pair) with
  | (k, some v) =>
    if Text.trim k = name.toList then some (String.ofList (unquoted (Text.trim v))) else none
  | (_, none) => none

/-- The value that one cookie header gives to a name: that of the first pair with the name. -/
def lineValue? (name line : String) : Option String :=
  (line.toList.splitOn ';').findSome? (pairValue? name)

/-- The value of a cookie in the cookie headers of a request. Only a token names one. -/
def findCookie? (lines : List String) (name : String) : Option String :=
  if isToken name then lines.findSome? (lineValue? name) else none

end WebScript.Http
