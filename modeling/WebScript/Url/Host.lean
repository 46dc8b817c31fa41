import WebScript.Text.Cut
import WebScript.Url.Basic
import WebScript.Url.Domain
import WebScript.Url.Percent

/-!
# Hosts

Reading the host of a URL: an address in brackets, a number in up to four parts, a domain name,
or, for schemes that are not special, text.

* `UrlHost.parse`: the host of a special URL.
* `UrlHost.parseOpaque`: the host of any other URL.
-/

namespace WebScript.UrlHost

/-- The number that digits of some radix spell. -/
def ofRadix (radix : Nat) (cs : List Char) : Nat :=
  cs.foldl (fun n c => radix * n + (Text.Hex.charValue? c).getD 0) 0

/-- The digits belong to the radix. -/
def areDigits (radix : Nat) (cs : List Char) : Bool :=
  cs.all fun c => (Text.Hex.charValue? c).any (· < radix)

/-- A part of a numeric address: hexadecimal behind `0x`, octal behind another zero, else
decimal. -/
def partNumber? (cs : List Char) : Option Nat :=
  let read radix ds := if areDigits radix ds then some (ofRadix radix ds) else none
  match cs with
  | [] => none
  | '0' :: 'x' :: ds | '0' :: 'X' :: ds => read 16 ds
  | '0' :: d :: ds => read 8 (d :: ds)
  | ds => read 10 ds

/-- The last part of a name that does not end in a dot, or the one before. -/
def lastPart (cs : List Char) : List Char :=
  match (cs.splitOn '.').reverse with
  | [] :: part :: _ => part
  | part :: _ => part
  | [] => []

/-- A name whose last part is a number has to be an address. -/
def endsInNumber (cs : List Char) : Bool :=
  let last := lastPart cs
  ! last.isEmpty && (last.all Char.isDigit || (partNumber? last).isSome)

/-- The address that parts spell: each but the last is a byte, and the last fills what remains. -/
def ofParts? (front : List Nat) (last : Nat) : Option Nat :=
  if 3 < front.length then none
  else
    let room := 8 * (4 - front.length)
    if 1 <<< room ≤ last || front.any (255 < ·) then none
    else some (front.foldl (fun n p => 256 * n + p) 0 <<< room + last)

/-- Reads a numeric address; one dot may follow it. -/
def parseIpv4 (cs : List Char) : Except UrlFault UrlHost :=
  let parts := cs.splitOn '.'
  let parts := if parts.getLast? = some [] then parts.dropLast else parts
  match (parts.mapM partNumber?).map List.reverse with
  | some (last :: front) =>
    match ofParts? front.reverse last with
    | some address => .ok (.ipv4 address)
    | none => .error .ipv4
  | _ => .error .ipv4

/-- A group of up to four hexadecimal digits. -/
def group? (cs : List Char) : Option Nat :=
  if cs.isEmpty || 4 < cs.length || ! areDigits 16 cs then none else some (ofRadix 16 cs)

/-- A byte in decimal without needless zeros. -/
def byte? (cs : List Char) : Option Nat :=
  if cs.isEmpty || ! cs.all Char.isDigit || (1 < cs.length && cs.head? = some '0') then none
  else if Number.ofDigits cs < 256 then some (Number.ofDigits cs) else none

/-- The last two groups, written as four bytes. -/
def byteGroups? (cs : List Char) : Option (List Nat) :=
  match (cs.splitOn '.').mapM byte? with
  | some [a, b, c, d] => some [256 * a + b, 256 * c + d]
  | _ => none

/-- Groups between colons; the last may be written as bytes if `bytes` allows it. -/
def groups? (bytes : Bool) : List (List Char) → Option (List Nat)
  | [] => some []
  | [last] =>
    match group? last with
    | some g => some [g]
    | none => if bytes then byteGroups? last else none
  | g :: r => do return (← group? g) :: (← groups? bytes r)

/-- The groups in a text, which may be empty. -/
def groupsIn? (bytes : Bool) (cs : List Char) : Option (List Nat) :=
  if cs.isEmpty then some [] else groups? bytes (cs.splitOn ':')

/-- What stands before the first double colon and behind it. -/
def splitGap? : List Char → Option (List Char × List Char)
  | [] => none
  | ':' :: ':' :: r => some ([], r)
  | c :: r => (splitGap? r).map fun (a, b) => (c :: a, b)

/-- The eight groups that a text spells; a double colon stands for one or more zero groups. -/
def ipv6Groups? (cs : List Char) : Option (List Nat) :=
  match splitGap? cs with
  | none => (groupsIn? true cs).filter (·.length = 8)
  | some (a, b) => do
    let front ← groupsIn? false a
    let back ← groupsIn? true b
    if front.length + back.length ≤ 7 then
      some (front ++ List.replicate (8 - front.length - back.length) 0 ++ back)
    else none

/-- Reads an address in brackets, behind the first of them. -/
def parseIpv6 (cs : List Char) : Except UrlFault UrlHost :=
  if cs.getLast? = some ']' then
    match ipv6Groups? cs.dropLast with
    | some groups => .ok (.ipv6 groups)
    | none => .error .ipv6
  else .error .ipv6

/-- Reads the host of a special URL. -/
def parse (cs : List Char) : Except UrlFault UrlHost :=
  match cs with
  | '[' :: r => parseIpv6 r
  | _ =>
    match Url.toAsciiDomain? (Url.percentDecode (Text.Utf8.encode cs)) with
    | none => .error .domainName
    | some [] => .error .emptyHost
    | some name => if endsInNumber name then parseIpv4 name else .ok (.domain (String.ofList name))

/-- A character that no host may have. -/
def isForbidden (c : Char) : Bool :=
  c == '\x00' || "\t\n\r #/:<>?@[\\]^|".toList.contains c

/-- Reads the host of a URL whose scheme is not special. -/
def parseOpaque (cs : List Char) : Except UrlFault UrlHost :=
  match cs with
  | '[' :: r => parseIpv6 r
  | _ =>
    if cs.any isForbidden then .error .hostCharacter
    else .ok (.domain (String.ofList (Url.percentEncode Url.isPrintable cs)))

end WebScript.UrlHost
