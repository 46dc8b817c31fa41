import WebScript.Text.Cut
import WebScript.Url.Basic
import WebScript.Url.Percent

/-!
# Paths

Reading the path of a URL segment by segment: a dot stands for the place itself and two dots for
the one above. Two dots never remove a drive letter, whatever the scheme. Tabs and line breaks
count for nothing, except behind a drive letter at the start of the path of a file, which they set
apart from what follows.

* `resolve`: the segments that follow others, with the dots carried out.
* `resolveFile`, `resolveFileFrom`: the segments of the path of a file.
* `isDriveLetter`: a letter and a colon or a bar.
-/

namespace WebScript.UrlPath

/-- A tab or a line break. -/
def isBreak (c : Char) : Bool := c == '\t' || c == '\n' || c == '\r'

/-- A text without its tabs and line breaks. -/
def dropBreaks (cs : List Char) : List Char := cs.filter (! isBreak ·)

/-- A segment that stands for the place itself; a dot may be percent-encoded. -/
def isDot (cs : List Char) : Bool := [".", "%2e"].contains (String.ofList (cs.map Char.toLower))

/-- A segment that stands for the place above. -/
def isDoubleDot (cs : List Char) : Bool :=
  ["..", ".%2e", "%2e.", "%2e%2e"].contains (String.ofList (cs.map Char.toLower))

/-- A letter followed by a colon or a bar. -/
def isDriveLetter : List Char → Bool
  | [c, m] => c.isAlpha && (m == ':' || m == '|')
  | _ => false

/-- A letter followed by a colon. -/
def isNormalDriveLetter : List Char → Bool
  | [c, ':'] => c.isAlpha
  | _ => false

/-- The text is a drive letter, or begins with one and a slash of either kind. -/
def startsWithDrive : List Char → Bool
  | c :: m :: r => isDriveLetter [c, m] && r.head?.all fun s => s == '/' || s == '\\'
  | _ => false

/-- The segments above the last one. A last segment that starts with a drive letter stays. -/
def stepUp (names : List String) : List String :=
  if names.getLast?.any (startsWithDrive ·.toList) then names else names.dropLast

/-- A segment as it is written. -/
def writeSegment (cs : List Char) : String := String.ofList (Url.percentEncode Url.isPathChar cs)

/-- Adds one segment of a path: dots are carried out, and where they end the path an empty segment
follows them. -/
def addSegment (names : List String) (cs : List Char) (isLast : Bool) : List String :=
  if isDoubleDot cs then stepUp names ++ if isLast then [""] else []
  else if isDot cs then names ++ if isLast then [""] else []
  else names ++ [writeSegment cs]

/-- A drive letter with its colon, and the text that a tab or line break sets apart from it. -/
def cutDrive? (cs : List Char) : Option (String × List Char) :=
  match Text.cut (· = ':') cs with
  | (front, some (b :: r)) =>
    let drive := dropBreaks front ++ [':']
    if isNormalDriveLetter drive && isBreak b && ! (dropBreaks r).isEmpty then
      some (String.ofList drive, dropBreaks r)
    else none
  | _ => none

/-- Adds one segment of the path of a file. A drive letter gets its colon. What a break sets apart
from a drive letter at the start of the path is a segment of its own, whose dots mean nothing. -/
def addFileSegment (names : List String) (cs : List Char) (isLast : Bool) : List String :=
  match if names.isEmpty then cutDrive? cs else none with
  | some (drive, rest) => [drive, writeSegment rest]
  | none =>
    match dropBreaks cs with
    | [c, m] =>
      if isDriveLetter [c, m] then names ++ [String.ofList [c, ':']]
      else addSegment names [c, m] isLast
    | cs => addSegment names cs isLast

/-- Adds segments in turn. -/
def addSegments (add : List String → List Char → Bool → List String) (names : List String) :
    List (List Char) → List String
  | [] => names
  | [cs] => add names cs true
  | cs :: r => addSegments add (add names cs false) r

/-- The segments that follow `names`, from a text without its first slash. -/
def resolve (isSlash : Char → Bool) (names : List String) (cs : List Char) : List String :=
  addSegments addSegment names (cs.splitOnP isSlash)

/-- A slash of either kind. -/
def isAnySlash (c : Char) : Bool := c == '/' || c == '\\'

/-- A path without the empty segments at its start; one of them stays if there is nothing else. -/
def dropEmptyStart (names : List String) : List String :=
  match names.dropWhile (·.isEmpty) with
  | [] => [""]
  | names => names

/-- The segments of the path of a file that follow `names`. Empty ones at the start are dropped. -/
def resolveFile (names : List String) (cs : List Char) : List String :=
  dropEmptyStart (addSegments addFileSegment names (cs.splitOnP isAnySlash))

/-- The segments of the path of a file that a text leads to from the file at `base`: it takes the
place of the last segment. A drive letter stays there instead; unless the path is the drive letter
alone, the first segment of the text is written on behind it. -/
def resolveFileFrom (base : List String) (cs : List Char) : List String :=
  match base.getLast? with
  | some last =>
    if ! isNormalDriveLetter last.toList then resolveFile base.dropLast cs
    else if base.length = 1 then resolveFile base cs
    else
      match cs.splitOnP isAnySlash with
      | [] => base
      | first :: rest =>
        let first := dropBreaks first
        let joined :=
          if isDoubleDot first then base
          else if isDot first then if rest.isEmpty then base ++ [""] else base
          else base.dropLast ++ [last ++ writeSegment first]
        dropEmptyStart (addSegments addFileSegment joined rest)
  | none => resolveFile [] cs

/-- A drive letter is among the segments of a text, so that a host before them is of no use. -/
def hasDrive (cs : List Char) : Bool :=
  (cs.splitOnP isAnySlash).any fun s => isDriveLetter (dropBreaks s)

end WebScript.UrlPath
