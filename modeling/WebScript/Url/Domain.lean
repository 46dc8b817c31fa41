import WebScript.Text.Case
import WebScript.Text.Composed
import WebScript.Text.Utf8
import WebScript.Url.Domain.DirectionTable
import WebScript.Url.Domain.JoiningTable
import WebScript.Url.Domain.MappingTable
import WebScript.Url.Punycode

/-!
# Domain names

Domain names in any script and their ASCII form. Characters are mapped to one form, chiefly lower
case; labels that are written in Punycode are read; then every label has to be well formed, and
labels with characters beyond ASCII are written in Punycode.

* `toAsciiDomain?`: the ASCII form of a name.
* `isWellFormed`, `runsOneWay`: what is asked of a label.
-/

namespace WebScript.Url

/-- What a row maps a character to. -/
def MappingRow.map? (r : MappingRow) (c : Char) : Option (List Char) :=
  if r.low ≤ c.toNat ∧ c.toNat < r.low + r.count then
    (r.words.toList.splitOn ' ')[c.toNat - r.low]?
  else none

/-- A character lies in one of the ranges. -/
def inRanges (ranges : List (Nat × Nat)) (c : Char) : Bool :=
  ranges.any fun r => r.1 ≤ c.toNat && c.toNat ≤ r.2

/-- An ASCII character that no domain name may have. -/
def isDenied (c : Char) : Bool :=
  c.toNat ≤ 0x20 || c.toNat == 0x7F || "%#/:<>?@[\\]^|".toList.contains c

/-- What a character is mapped to in a domain name, unless it may not occur in one. -/
def mapDomainChar? (c : Char) : Option (List Char) :=
  if c.toNat < 0x80 then if isDenied c then none else some [c.toLower]
  else
    match mappingRows.findSome? (·.map? c) with
    | some cs => some cs
    | none =>
      if inRanges ignoredRanges c then some []
      else
        let cs := Text.Case.lower c
        if cs = [c] ∧ inRanges disallowedRanges c then none else some cs

/-- A character that is mapped to itself. -/
def isMappedToItself (c : Char) : Bool := mapDomainChar? c == some [c]

/-- The direction of a character. -/
def direction (c : Char) : Direction :=
  if Text.isNonspacing c then if leftMarks.contains c.toNat then .left else .nonspacing
  else
    match directionRuns.find? fun r => r.low ≤ c.toNat && c.toNat ≤ r.high with
    | some r => r.direction
    | none => .left

/-- How a letter joins its neighbours. -/
def joining? (c : Char) : Option Joining :=
  match joiningRuns.find? fun r => r.low ≤ c.toNat && c.toNat ≤ r.high with
  | some r => some r.joining
  | none => if Text.isNonspacing c then some .transparent else none

/-- The last direction of a label that is not that of a mark. -/
def lastDirection? (ds : List Direction) : Option Direction := ds.reverse.find? (· != .nonspacing)

/-- **A label runs one way.** It begins with a letter. One that is written from right to left has no
letter of the other kind, ends in a letter or a number, and has numbers of one kind; one that is
written from left to right has neither letters nor numbers of the other kind, and ends in a letter
or a number. -/
def runsOneWay (ds : List Direction) : Bool :=
  match ds with
  | [] => true
  | .right :: _ =>
    ! ds.contains .left && ! (ds.contains .europeanNumber && ds.contains .arabicNumber) &&
      (lastDirection? ds).any [.right, .europeanNumber, .arabicNumber].contains
  | .left :: _ =>
    ! ds.contains .right && ! ds.contains .arabicNumber &&
      (lastDirection? ds).any [.left, .europeanNumber].contains
  | _ :: _ => false

/-- The name has a character that is written from right to left. -/
def isBidirectional (labels : List (List Char)) : Bool :=
  labels.any fun l => l.any fun c => direction c == .right || direction c == .arabicNumber

/-- The character that keeps letters from joining. -/
def nonJoiner : Char := '\u200c'

/-- The character that has letters join. -/
def joiner : Char := '\u200d'

/-- The first of some characters that is not passed over in joining joins in one of some ways. -/
def reaches (ways : List Joining) (cs : List Char) : Bool :=
  match cs.find? (joining? · != some .transparent) with
  | some c => (joining? c).any ways.contains
  | none => false

/-- Joiners stand behind a mark that takes a vowel away, or, if they keep from joining, between
letters that would join; `before` is what comes before, last character first. -/
def joinersFit (before : List Char) : List Char → Bool
  | [] => true
  | c :: r =>
    (if c = nonJoiner ∨ c = joiner then
      before.head?.any (Text.combiningClass · == Text.viramaClass) ||
        (c == nonJoiner && reaches [.left, .dual] before && reaches [.right, .dual] r)
    else true) && joinersFit (c :: before) r

/-- What every label has to be: it begins with no mark, and its joiners have a use. -/
def isWellFormed (label : List Char) : Bool := ! label.head?.any Text.isMark && joinersFit [] label

/-- What marks a label that is written in Punycode. -/
def punycodeMark : List Char := "xn--".toList

/-- The label that a Punycode label stands for. It has characters beyond ASCII, all of them mapped
to themselves, in composed form, and no mark of its own. -/
def readLabel? (label : List Char) : Option (List Char) :=
  if punycodeMark.isPrefixOf label then
    match Punycode.decode? (label.drop punycodeMark.length) with
    | some cs =>
      if cs.any (0x80 ≤ ·.toNat) && cs.all isMappedToItself && Text.composed cs == cs &&
          ! punycodeMark.isPrefixOf cs then some cs else none
    | none => none
  else some label

/-- The ASCII form of a label. -/
def writeLabel? (label : List Char) : Option (List Char) :=
  if label.all (·.toNat < 0x80) then some label
  else (Punycode.encode? label).map (punycodeMark ++ ·)

/-- The ASCII form of a domain name that is given in UTF-8. -/
def toAsciiDomain? (name : Bytes) : Option (List Char) := do
  let mapped ← (← name.toText?).toList.mapM mapDomainChar?
  let labels ← ((Text.composed mapped.flatten).splitOn '.').mapM readLabel?
  if labels.all isWellFormed &&
      (! isBidirectional labels || labels.all fun l => runsOneWay (l.map direction)) then
    return ['.'].intercalate (← labels.mapM writeLabel?)
  else none

end WebScript.Url
