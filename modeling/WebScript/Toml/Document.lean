import WebScript.Number.Reader
import WebScript.Toml.Strings

/-!
# TOML documents

The part of TOML that settings are written in: assignments of strings, whole numbers, booleans,
arrays and inline tables to keys, and sections. Fractions and dates are no settings, and a
document with one is refused.

* `Toml`: a value.
* `Statement`: a line of a document.
* `Toml.statements?`: the lines of a document that have content.
-/

namespace WebScript

/-- A value of a document. Inline tables have assignments to paths of keys. -/
inductive Toml where
  | string (s : String)
  | integer (n : Int)
  | bool (b : Bool)
  | array (items : List Toml)
  | table (entries : List (List String × Toml))

namespace Toml

/-- A line of a document: an assignment, the head of a section, or that of one more section of a
list. -/
inductive Statement where
  | assign (path : List String) (value : Toml)
  | openSection (path : List String)
  | openItem (path : List String)

/-- A blank inside a line. -/
def isBlank (c : Char) : Bool := c == ' ' || c == '\t'

/-- Without the blanks in front. -/
def skipBlanks (cs : List Char) : List Char := cs.dropWhile isBlank

/-- Without a comment in front. -/
def skipComment : List Char → List Char
  | '#' :: r => r.dropWhile isTextChar
  | r => r

/-- What follows the end of a line, behind blanks and a comment. -/
def lineEnd? (cs : List Char) : Option (List Char) :=
  match skipComment (skipBlanks cs) with
  | [] => some []
  | '\n' :: r | '\r' :: '\n' :: r => some r
  | _ => none

/-- Drops blanks, comments and line breaks; `fuel` bounds the lines. -/
def skipLines : Nat → List Char → List Char
  | 0, cs => cs
  | fuel + 1, cs =>
    match skipComment (skipBlanks cs) with
    | '\n' :: r | '\r' :: '\n' :: r => skipLines fuel r
    | r => r

/-- A character of a key without quotes. -/
def isKeyChar (c : Char) : Bool := c.isAlphanum || c == '_' || c == '-'

/-- Reads one key, in quotes or without. -/
def readKey? (cs : List Char) : Option (String × List Char) :=
  match readShortString? cs with
  | some p => some p
  | none =>
    let key := cs.takeWhile isKeyChar
    if key.isEmpty then none else some (String.ofList key, cs.dropWhile isKeyChar)

/-- Reads keys with dots between them; `fuel` bounds their number. -/
def readPath? : Nat → List Char → Option (List String × List Char)
  | 0, _ => none
  | fuel + 1, cs => do
    let (key, r) ← readKey? (skipBlanks cs)
    match skipBlanks r with
    | '.' :: r => (readPath? fuel r).map fun (keys, r) => (key :: keys, r)
    | r => some ([key], r)

/-- The number that digits spell, with underscores between them: each underscore stands between
two digits. -/
def digitsValue? (radix : Nat) (cs : List Char) : Option Nat :=
  (cs.splitOn '_').foldlM
    (fun n ds =>
      if ds.isEmpty then none
      else ds.foldlM
        (fun n d => (Text.Hex.charValue? d).bind fun v =>
          if v < radix then some (radix * n + v) else none)
        n)
    0

/-- A number of 64 bits. -/
def inRange? (n : Int) : Option Int := if Number.fitsInt64 n then some n else none

/-- A decimal number; several digits do not begin with a zero. -/
def decimal? (cs : List Char) : Option Nat :=
  if 1 < cs.length ∧ cs.head? = some '0' then none else digitsValue? 10 cs

/-- The whole number that a word spells. -/
def integer? : List Char → Option Int
  | '0' :: 'x' :: r => (digitsValue? 16 r).bind fun n => inRange? n
  | '0' :: 'o' :: r => (digitsValue? 8 r).bind fun n => inRange? n
  | '0' :: 'b' :: r => (digitsValue? 2 r).bind fun n => inRange? n
  | '-' :: r => (decimal? r).bind fun n => inRange? (-n)
  | '+' :: r => (decimal? r).bind fun n => inRange? n
  | r => (decimal? r).bind fun n => inRange? n

/-- A character of a word that is no string. -/
def isWordChar (c : Char) : Bool := isKeyChar c || c == '+' || c == '.' || c == ':'

/-- Reads a value that is no array and no table. -/
def readScalar? (cs : List Char) : Option (Toml × List Char) :=
  match readString? cs with
  | some (s, r) => some (.string s, r)
  | none =>
    let word := cs.takeWhile isWordChar
    let r := cs.dropWhile isWordChar
    if word = "true".toList then some (.bool true, r)
    else if word = "false".toList then some (.bool false, r)
    else (integer? word).map fun n => (.integer n, r)

mutual

/-- Reads a value; `fuel` bounds the values in it and the steps between them. -/
def readValue? : Nat → List Char → Option (Toml × List Char)
  | 0, _ => none
  | fuel + 1, cs =>
    match cs with
    | '[' :: r => readItems? fuel [] r
    | '\x7b' :: r =>
      match skipBlanks r with
      | '\x7d' :: r => some (.table [], r)
      | r => readEntries? fuel [] r
    | cs => readScalar? cs

/-- Reads the items of an array behind those in `done`, the last of which stands first. -/
def readItems? : Nat → List Toml → List Char → Option (Toml × List Char)
  | 0, _, _ => none
  | fuel + 1, done, cs =>
    match skipLines (cs.length + 1) cs with
    | ']' :: r => some (.array done.reverse, r)
    | cs =>
      match readValue? fuel cs with
      | none => none
      | some (v, r) =>
        match skipLines (r.length + 1) r with
        | ',' :: r => readItems? fuel (v :: done) r
        | ']' :: r => some (.array (v :: done).reverse, r)
        | _ => none

/-- Reads the entries of an inline table behind those in `done`, the last of which stands first. -/
def readEntries? : Nat → List (List String × Toml) → List Char → Option (Toml × List Char)
  | 0, _, _ => none
  | fuel + 1, done, cs =>
    match readPath? (cs.length + 1) cs with
    | some (path, '=' :: r) =>
      match readValue? fuel (skipBlanks r) with
      | none => none
      | some (v, r) =>
        match skipBlanks r with
        | ',' :: r => readEntries? fuel ((path, v) :: done) r
        | '\x7d' :: r => some (.table ((path, v) :: done).reverse, r)
        | _ => none
    | _ => none

end

/-- Reads a line that has content, up to what ends it. -/
def readStatement? (cs : List Char) : Option (Statement × List Char) :=
  match cs with
  | '[' :: '[' :: r => do
    match ← readPath? (r.length + 1) r with
    | (path, ']' :: ']' :: r) => some (.openItem path, r)
    | _ => none
  | '[' :: r => do
    match ← readPath? (r.length + 1) r with
    | (path, ']' :: r) => some (.openSection path, r)
    | _ => none
  | cs => do
    match ← readPath? (cs.length + 1) cs with
    | (path, '=' :: r) =>
      (readValue? (2 * r.length + 2) (skipBlanks r)).map fun (v, r) => (.assign path v, r)
    | _ => none

/-- Reads the lines behind those in `done`, the last of which stands first; `fuel` bounds them. -/
def readStatements? : Nat → List Statement → List Char → Option (List Statement)
  | 0, _, _ => none
  | fuel + 1, done, cs =>
    match skipLines (cs.length + 1) cs with
    | [] => some done.reverse
    | cs => do
      let (s, r) ← readStatement? cs
      readStatements? fuel (s :: done) (← lineEnd? r)

/-- The lines of a document that have content; a byte order mark may stand before them. -/
def statements? (text : String) : Option (List Statement) :=
  let cs := match text.toList with
    | '\uFEFF' :: r => r
    | cs => cs
  readStatements? (cs.length + 1) [] cs

end Toml

end WebScript
