import WebScript.Number.Reader

/-!
# URLs

The parts of an absolute URL and the text it is written as.

* `Url`: scheme, authority, path, query and fragment; parts that are text are kept as written.
* `Url.serialize`: the text of a URL.
-/

namespace WebScript

/-- The host of a URL. -/
inductive UrlHost where
  /-- A name; for schemes that are not special any text. It may be empty. -/
  | domain (name : String)
  | ipv4 (address : Nat)
  /-- Eight groups of 16 bits. -/
  | ipv6 (groups : List Nat)
  deriving DecidableEq

/-- What stands between the two slashes and the path. -/
structure Authority where
  username : String
  password : String
  host : UrlHost
  port : Option Nat
  deriving DecidableEq

/-- The path of a URL: segments behind slashes, or text that has no structure. -/
inductive UrlPath where
  | segments (names : List String)
  | unstructured (text : String)
  deriving DecidableEq

/-- An absolute URL. -/
structure Url where
  scheme : String
  authority : Option Authority
  path : UrlPath
  query : Option String
  fragment : Option String
  deriving DecidableEq

/-- Why a text is no URL. -/
inductive UrlFault where
  | emptyHost
  | domainName
  | port
  | ipv4
  | ipv6
  | hostCharacter
  | noBase
  | baseWithoutHierarchy
  deriving DecidableEq

/-- The reason in words. -/
def UrlFault.message : UrlFault → String
  | .emptyHost => "empty host"
  | .domainName => "invalid international domain name"
  | .port => "invalid port number"
  | .ipv4 => "invalid IPv4 address"
  | .ipv6 => "invalid IPv6 address"
  | .hostCharacter => "invalid domain character"
  | .noBase => "relative URL without a base"
  | .baseWithoutHierarchy => "relative URL with a cannot-be-a-base base"

namespace UrlHost

/-- The four parts of an address of 32 bits. -/
def ipv4Text (address : Nat) : String :=
  ".".intercalate ([24, 16, 8, 0].map fun bits => toString ((address >>> bits) % 256))

/-- Groups in hexadecimal, with colons between them. -/
def groupsText (groups : List Nat) : String :=
  ":".intercalate (groups.map fun g => String.ofList (Nat.toDigits 16 g))

/-- Where the longest run of at least two zero groups begins, and how long it is; the first of
several of one length counts. -/
def longestZeros (groups : List Nat) : Nat × Nat :=
  (List.range groups.length).foldl
    (fun best i =>
      let n := ((groups.drop i).takeWhile (· = 0)).length
      if best.2 < n then (i, n) else best)
    (0, 1)

/-- Eight groups, with the longest run of zeros left out. -/
def ipv6Text (groups : List Nat) : String :=
  let (start, length) := longestZeros groups
  if length < 2 then groupsText groups
  else groupsText (groups.take start) ++ "::" ++ groupsText (groups.drop (start + length))

/-- The text of a host. -/
def serialize : UrlHost → String
  | .domain name => name
  | .ipv4 address => ipv4Text address
  | .ipv6 groups => "[" ++ ipv6Text groups ++ "]"

end UrlHost

/-- User name and password, if there are any, host and port. -/
def Authority.serialize (a : Authority) : String :=
  (if a.username.isEmpty && a.password.isEmpty then ""
    else a.username ++ (if a.password.isEmpty then "" else ":" ++ a.password) ++ "@") ++
    a.host.serialize ++
    match a.port with
    | some p => ":" ++ toString p
    | none => ""

/-- The text of a path. -/
def UrlPath.serialize : UrlPath → String
  | .segments names => String.join (names.map ("/" ++ ·))
  | .unstructured text => text

namespace Url

/-- The part from the scheme to the end of the authority. A path that begins with an empty
segment and has no authority before it is set apart by a dot. -/
def origin (u : Url) : String :=
  u.scheme ++ ":" ++
    match u.authority, u.path with
    | some a, _ => "//" ++ a.serialize
    | none, .segments ("" :: _ :: _) => "/."
    | none, _ => ""

/-- A part of a URL behind its mark, if it is there. -/
def marked (mark : String) : Option String → String
  | some s => mark ++ s
  | none => ""

/-- The path and the query. -/
def pathAndQuery (u : Url) : String := u.path.serialize ++ marked "?" u.query

/-- The text of a URL. -/
def serialize (u : Url) : String := u.origin ++ u.pathAndQuery ++ marked "#" u.fragment

end Url

end WebScript
