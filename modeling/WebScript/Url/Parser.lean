import WebScript.Url.Host
import WebScript.Url.Path

/-!
# Reading URLs

From text to URLs, on its own or relative to a base. Spaces and controls around the text are
dropped, and so are tabs and line breaks inside it, which only the paths of files take notice of.
The schemes of the web are special: they always have a host and take a backslash for a slash.

* `Url.parse`: an absolute URL.
* `Url.join`: a URL relative to another.
-/

namespace WebScript.Url

open UrlPath (isAnySlash)

/-- How a scheme treats what follows it. -/
inductive SchemeKind where
  | file
  | special
  | other
  deriving DecidableEq

/-- The port that a scheme implies. -/
def defaultPort? (scheme : String) : Option Nat :=
  [("http", 80), ("https", 443), ("ws", 80), ("wss", 443), ("ftp", 21)].lookup scheme

/-- The kind of a scheme. -/
def schemeKind (scheme : String) : SchemeKind :=
  if scheme = "file" then .file
  else if (defaultPort? scheme).isSome then .special
  else .other

/-- A text with its query and its fragment set apart. -/
structure Parts where
  /-- What stands before them, with its tabs and line breaks. -/
  main : List Char
  query : Option (List Char)
  fragment : Option (List Char)

/-- Sets fragment and query apart. -/
def Parts.of (cs : List Char) : Parts :=
  let (front, fragment) := Text.cut (· = '#') cs
  let (main, query) := Text.cut (· = '?') front
  ⟨main, query.map UrlPath.dropBreaks, fragment.map UrlPath.dropBreaks⟩

/-- Drops spaces and controls at both ends. -/
def tidy (cs : List Char) : List Char :=
  let isOuter := fun (c : Char) => c.toNat ≤ 0x20
  ((cs.dropWhile isOuter).reverse.dropWhile isOuter).reverse

/-- A character that a scheme may have after its first letter. -/
def isSchemeChar (c : Char) : Bool := c.isAlphanum || c == '+' || c == '-' || c == '.'

/-- The scheme in front of a colon, in lower case, and what follows. -/
def splitScheme? (cs : List Char) : Option (String × List Char) :=
  match Text.cut (· = ':') cs with
  | (front, some r) =>
    let scheme := UrlPath.dropBreaks front
    if scheme.head?.any Char.isAlpha && scheme.all isSchemeChar then
      some (String.ofList (scheme.map Char.toLower), r)
    else none
  | (_, none) => none

/-- The slashes of a kind of scheme. -/
def isSlash (kind : SchemeKind) (c : Char) : Bool := c == '/' || (kind != .other && c == '\\')

/-- The query as it is written. -/
def writeQuery (kind : SchemeKind) (query : Option (List Char)) : Option String :=
  query.map fun q =>
    String.ofList (percentEncode (if kind = .other then isQueryChar else isSpecialQueryChar) q)

/-- The fragment as it is written. -/
def writeFragment (fragment : Option (List Char)) : Option String :=
  fragment.map fun f => String.ofList (percentEncode isFragmentChar f)

/-- A URL with the query and the fragment of a text. -/
def withParts (kind : SchemeKind) (p : Parts) (scheme : String) (authority : Option Authority)
    (path : UrlPath) : Url :=
  ⟨scheme, authority, path, writeQuery kind p.query, writeFragment p.fragment⟩

/-- User name and password in front of the last at sign, percent-encoded. -/
def readUserinfo (cs : List Char) : String × String :=
  let write := fun cs => String.ofList (percentEncode isUserinfoChar cs)
  match Text.cut (· = ':') cs with
  | (name, none) => (write name, "")
  | (name, some password) => (write name, write password)

/-- The host in front of a colon outside brackets, and what follows it. -/
def spanHost (inside : Bool) : List Char → List Char × List Char
  | [] => ([], [])
  | c :: r =>
    if c == ':' && ! inside then ([], c :: r)
    else
      let (host, rest) := spanHost (if c == '[' then true else if c == ']' then false else inside) r
      (c :: host, rest)

/-- The port behind a colon; the default port of the scheme is left out. Digits end at a slash of
either kind, and nothing else may follow them. -/
def readPort (scheme : String) (cs : List Char) : Except UrlFault (Option Nat × List Char) :=
  let digits := cs.takeWhile Char.isDigit
  let rest := cs.dropWhile Char.isDigit
  let port := Number.ofDigits digits
  if 65535 < port then .error .port
  else if rest.head?.any (! isAnySlash ·) then .error .port
  else .ok (if digits.isEmpty || defaultPort? scheme = some port then none else some port, rest)

/-- The host of a URL of a kind of scheme. -/
def readHost (kind : SchemeKind) (cs : List Char) : Except UrlFault UrlHost :=
  if kind = .other then UrlHost.parseOpaque cs
  else if cs.isEmpty then .error .emptyHost
  else UrlHost.parse cs

/-- The authority in a text without slashes but for what follows a port, and that. Only a scheme
that is not special may have an empty host, and then neither user nor port. -/
def readAuthority (kind : SchemeKind) (scheme : String) (userinfo : Option (List Char))
    (cs : List Char) : Except UrlFault (Authority × List Char) := do
  let (username, password) := readUserinfo (userinfo.getD [])
  let (hostText, rest) := spanHost false cs
  let host ← readHost kind hostText
  if host = .domain "" ∧ rest.head? = some ':' then .error .emptyHost
  else
    let (port, rest) ← match rest with
      | ':' :: r => readPort scheme r
      | r => .ok (none, r)
    if host = .domain "" ∧ ¬ (username.isEmpty ∧ password.isEmpty) then .error .emptyHost
    else .ok (⟨username, password, host, port⟩, rest)

/-- The path behind an authority. -/
def readAbsolutePath (kind : SchemeKind) (cs : List Char) : UrlPath :=
  match kind, cs with
  | .other, [] => .segments []
  | _, c :: r =>
    .segments (UrlPath.resolve (isSlash kind) [] (if isSlash kind c then r else c :: r))
  | _, [] => .segments [""]

/-- Reads what follows the two slashes before an authority. -/
def readAfterSlashes (kind : SchemeKind) (scheme : String) (p : Parts) (cs : List Char) :
    Except UrlFault Url := do
  let front := cs.takeWhile (! isSlash kind ·)
  let behind := cs.dropWhile (! isSlash kind ·)
  let (userinfo, hostPart) := match Text.cutLast (· = '@') front with
    | some (u, h) => (some u, h)
    | none => (none, front)
  let ended := hostPart.isEmpty && (! behind.isEmpty || p.query.isSome || p.fragment.isSome)
  if userinfo = some [] ∧ ended then .error .emptyHost
  else
    let (authority, rest) ← readAuthority kind scheme userinfo hostPart
    .ok (withParts kind p scheme (some authority) (readAbsolutePath kind (rest ++ behind)))

/-- An authority that is a host alone. -/
def hostAlone (host : UrlHost) : Authority := ⟨"", "", host, none⟩

/-- The URL of a file on this machine or another. -/
def fileUrl (p : Parts) (host : UrlHost) (names : List String) : Url :=
  withParts .file p "file" (some (hostAlone host)) (.segments names)

/-- The host of a URL; a URL without authority has the empty one. -/
def hostOrEmpty (u : Url) : UrlHost :=
  match u.authority with
  | some a => a.host
  | none => .domain ""

/-- The segments of the path of a URL. -/
def names (u : Url) : List String :=
  match u.path with
  | .segments names => names
  | .unstructured _ => []

/-- A URL with the query and fragment of a text that has nothing else; without a query it keeps
its own. -/
def withTail (base : Url) (kind : SchemeKind) (p : Parts) : Url :=
  { base with
    query := if p.query.isSome then writeQuery kind p.query else base.query
    fragment := writeFragment p.fragment }

/-- The host of a file URL; the local machine has the empty one. -/
def readFileHost (cs : List Char) : Except UrlFault UrlHost :=
  if cs.isEmpty then .ok (.domain "")
  else do
    let host ← UrlHost.parse cs
    .ok (if host = .domain "localhost" then .domain "" else host)

/-- Reads what follows the two slashes before the host of a file URL. A drive letter is no host. -/
def readFileAfterSlashes (p : Parts) (cs : List Char) : Except UrlFault Url :=
  let hostText := UrlPath.dropBreaks (cs.takeWhile (! isAnySlash ·))
  let behind := cs.dropWhile (! isAnySlash ·)
  if UrlPath.isDriveLetter hostText then .ok (fileUrl p (.domain "") (UrlPath.resolveFile [] cs))
  else do
    let host ← readFileHost hostText
    if host = .domain "" then .ok (fileUrl p host (UrlPath.resolveFile [] behind))
    else
      let path := behind.drop 1
      .ok (fileUrl p (if UrlPath.hasDrive path then .domain "" else host)
        (UrlPath.resolveFile [] path))

/-- Reads what follows the single slash at the start of a file URL or of a reference to one. The
drive or the host of the base is kept. -/
def readFileAfterSlash (base : Option Url) (p : Parts) (cs : List Char) : Url :=
  match base with
  | some b =>
    if UrlPath.startsWithDrive (UrlPath.dropBreaks cs) then
      fileUrl p (.domain "") (UrlPath.resolveFile [] cs)
    else
      match b.names with
      | first :: _ =>
        if UrlPath.isNormalDriveLetter first.toList then
          fileUrl p (.domain "") (UrlPath.resolveFile [first] cs)
        else fileUrl p b.hostOrEmpty (UrlPath.resolveFile [] cs)
      | [] => fileUrl p b.hostOrEmpty (UrlPath.resolveFile [] cs)
  | none => fileUrl p (.domain "") (UrlPath.resolveFile [] cs)

/-- Reads what follows the scheme of a file URL, relative to a base that is one, if there is. The
text still has its tabs and line breaks. -/
def readFile (base : Option Url) (p : Parts) (cs : List Char) : Except UrlFault Url :=
  match cs.dropWhile UrlPath.isBreak with
  | [] =>
    match base with
    | some b => .ok (withTail b .file p)
    | none => .ok (fileUrl p (.domain "") [""])
  | c :: r =>
    if isAnySlash c then
      match r.dropWhile UrlPath.isBreak with
      | d :: s =>
        if isAnySlash d then readFileAfterSlashes p s else .ok (readFileAfterSlash base p (d :: s))
      | [] => .ok (readFileAfterSlash base p [])
    else
      match base with
      | some b =>
        if UrlPath.startsWithDrive (UrlPath.dropBreaks (c :: r)) then
          .ok (fileUrl p (.domain "") (UrlPath.resolveFile [] (c :: r)))
        else
          .ok { withTail b .file p with
            path := .segments (UrlPath.resolveFileFrom b.names (c :: r))
            query := writeQuery .file p.query }
      | none => .ok (fileUrl p (.domain "") (UrlPath.resolveFile [] (c :: r)))

/-- Reads a text without a scheme of its own relative to a base. -/
def readRelative (base : Url) (kind : SchemeKind) (p : Parts) (cs : List Char) :
    Except UrlFault Url :=
  match cs with
  | [] => .ok (withTail base kind p)
  | c :: r =>
    if isAnySlash c then
      if r.head?.any isAnySlash then
        let rest := if c = '/' ∧ r.head? = some '/' then r.drop 1 else (c :: r).dropWhile isAnySlash
        readAfterSlashes kind base.scheme p rest
      else
        .ok (withParts kind p base.scheme base.authority
          (.segments (UrlPath.resolve (isSlash kind) [] r)))
    else
      .ok (withParts kind p base.scheme base.authority
        (.segments (UrlPath.resolve (isSlash kind) base.names.dropLast (c :: r))))

/-- Reads what follows a scheme that is neither special nor that of files. -/
def readOther (scheme : String) (p : Parts) (cs : List Char) : Except UrlFault Url :=
  match cs with
  | '/' :: '/' :: r => readAfterSlashes .other scheme p r
  | '/' :: r =>
    .ok (withParts .other p scheme none (.segments (UrlPath.resolve (isSlash .other) [] r)))
  | r =>
    .ok (withParts .other p scheme none
      (.unstructured (String.ofList (percentEncode isPrintable r))))

/-- Reads what follows a scheme. -/
def readWithScheme (base : Option Url) (scheme : String) (p : Parts) (cs : List Char) :
    Except UrlFault Url :=
  let plain := UrlPath.dropBreaks cs
  match schemeKind scheme with
  | .file => readFile (base.filter (·.scheme = "file")) p cs
  | .other => readOther scheme p plain
  | .special =>
    match base.filter fun b => b.scheme = scheme ∧ (plain.takeWhile isAnySlash).length < 2 with
    | some b => readRelative b .special p plain
    | none => readAfterSlashes .special scheme p (plain.dropWhile isAnySlash)

/-- A path without structure. -/
def isUnstructured (u : Url) : Bool :=
  match u.path with
  | .unstructured _ => true
  | .segments _ => false

/-- Reads a text, relative to a base if there is one. -/
def parseWith (base : Option Url) (text : String) : Except UrlFault Url :=
  let p := Parts.of (tidy text.toList)
  match splitScheme? p.main with
  | some (scheme, r) => readWithScheme base scheme p r
  | none =>
    match base with
    | none => .error .noBase
    | some b =>
      let plain := UrlPath.dropBreaks p.main
      if plain.isEmpty ∧ p.query.isNone ∧ p.fragment.isSome then
        .ok (withTail b (schemeKind b.scheme) p)
      else if b.isUnstructured then .error .baseWithoutHierarchy
      else if schemeKind b.scheme = .file then readFile (some b) p p.main
      else readRelative b (schemeKind b.scheme) p plain

/-- Reads an absolute URL. -/
def parse (text : String) : Except UrlFault Url := parseWith none text

/-- Reads a URL that may be relative to `base`. -/
def join (base : Url) (text : String) : Except UrlFault Url := parseWith (some base) text

end WebScript.Url
