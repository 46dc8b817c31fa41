import WebScript.Text.Blank
import WebScript.Text.Cut
import WebScript.Url.Parser

/-!
# Checks on addresses of the internet

* `isDomain`: a name of at least two labels, the last of them of letters.
* `isEmail`: a local part of limited length, an at sign and a domain.
* `isUrl`: a URL with a host, for which the scheme may be left out.
-/

namespace WebScript.Check

/-- A label of a domain: 1 to 63 letters, digits and hyphens, with no hyphen at either end. -/
def isLabel (cs : List Char) : Bool :=
  ! cs.isEmpty && cs.length ≤ 63 && cs.head? != some '-' && cs.getLast? != some '-' &&
    cs.all fun c => c.isAlphanum || c == '-'

/-- The last label of a domain has nothing but letters, and at least two of them. -/
def isTopLabel (cs : List Char) : Bool := cs.all Char.isAlpha && 2 ≤ cs.length

/-- At least two labels between dots, of which the last is a top label. -/
def isDomain (cs : List Char) : Bool :=
  let labels := cs.splitOn '.'
  2 ≤ labels.length && labels.all isLabel && labels.getLast?.any isTopLabel

/-- A character that may stand in the local part of an address. -/
def isLocalChar (c : Char) : Bool :=
  c.isAlphanum || "!#$%&'*+/=?^_\x60\x7b|\x7d~.-".toList.contains c

/-- The part before the at sign: 1 to 64 characters, without a dot at either end or two in a
row. -/
def isLocalPart (cs : List Char) : Bool :=
  ! cs.isEmpty && cs.length ≤ 64 && cs.head? != some '.' && cs.getLast? != some '.' &&
    cs.all isLocalChar && ! Text.hasWord ['.', '.'] cs

/-- An address: a local part and a domain around the last at sign. -/
def isEmail (s : String) : Bool :=
  match Text.cutLast (· = '@') s.toList with
  | some (front, domain) => isLocalPart front && isDomain domain
  | none => false

/-- A host of the internet: an address, a domain or the local host. -/
def isPublicHost : UrlHost → Bool
  | .domain name => name == "localhost" || isDomain name.toList
  | .ipv4 _ | .ipv6 _ => true

/-- The text as a URL: one without a scheme gets that of the web. -/
def withScheme (s : String) : String :=
  if Text.hasWord "://".toList s.toList then s else "http://" ++ s

/-- A URL of 4 to 2082 bytes that does not begin with a dot, has no white space and names a
host. -/
def isUrl (s : String) : Bool :=
  3 < s.utf8ByteSize && s.utf8ByteSize < 2083 && s.toList.head? != some '.' &&
    ! s.toList.any Text.isBlank &&
    match Url.parse (withScheme s) with
    | .ok url => url.authority.any (isPublicHost ·.host)
    | .error _ => false

end WebScript.Check
