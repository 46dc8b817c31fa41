import WebScript.Text.Hex

/-!
# TOML strings

The four kinds of string: basic ones with escapes and literal ones without, each on one line or
on several. Line breaks in strings of several lines are single line feeds.

* `readString?`: reads a string of any kind and gives what follows.
-/

namespace WebScript.Toml

/-- A character that may stand in a line of text: anything but controls, tabs apart. -/
def isTextChar (c : Char) : Bool := c == '\t' || (0x20 ≤ c.toNat && c.toNat != 0x7F)

/-- The character whose number some digits spell. -/
def charOf? (ds : List Char) : Option Char := do
  let n ← ds.foldlM (fun n d => (Text.Hex.charValue? d).map (16 * n + ·)) 0
  if h : n.isValidChar then some (Char.ofNatAux n h) else none

/-- The character that an escape at the front of a text stands for, behind the backslash, and how
many characters the escape has. -/
def escape? : List Char → Option (Char × Nat)
  | 'b' :: _ => some ('\x08', 1)
  | 't' :: _ => some ('\t', 1)
  | 'n' :: _ => some ('\n', 1)
  | 'f' :: _ => some ('\x0c', 1)
  | 'r' :: _ => some ('\r', 1)
  | '"' :: _ => some ('"', 1)
  | '\\' :: _ => some ('\\', 1)
  | 'u' :: r => if 4 ≤ r.length then (charOf? (r.take 4)).map (·, 5) else none
  | 'U' :: r => if 8 ≤ r.length then (charOf? (r.take 8)).map (·, 9) else none
  | _ => none

/-- Drops blanks and line breaks. -/
def skipBlankLines : List Char → List Char
  | ' ' :: r | '\t' :: r | '\n' :: r | '\r' :: '\n' :: r => skipBlankLines r
  | r => r

theorem length_skipBlankLines_le (cs : List Char) : (skipBlankLines cs).length ≤ cs.length := by
  fun_induction skipBlankLines cs <;> simp_all <;> omega

/-- What follows a line that ends in a backslash, behind the backslash. -/
def continuation? (cs : List Char) : Option (List Char) :=
  match cs.dropWhile fun c => c == ' ' || c == '\t' with
  | '\n' :: _ | '\r' :: '\n' :: _ => some (skipBlankLines cs)
  | _ => none

theorem length_continuation? {cs r : List Char} (h : continuation? cs = some r) :
    r.length ≤ cs.length := by
  have := length_skipBlankLines_le cs
  unfold continuation? at h
  split at h <;> simp_all

/-- Reads a basic string on one line, behind its opening quote. -/
def readBasic (done : List Char) (cs : List Char) : Option (String × List Char) :=
  match cs with
  | [] => none
  | '"' :: r => some (String.ofList done.reverse, r)
  | '\\' :: r =>
    match escape? r with
    | some (c, n) => readBasic (c :: done) (r.drop n)
    | none => none
  | c :: r => if isTextChar c then readBasic (c :: done) r else none
termination_by cs.length
decreasing_by
  all_goals simp only [List.length_cons, List.length_drop]
  all_goals omega

/-- Reads a basic string on several lines, behind its opening quotes. Up to two quotes may stand
before the closing ones. -/
def readLongBasic (done : List Char) (cs : List Char) : Option (String × List Char) :=
  match cs with
  | [] => none
  | '"' :: '"' :: '"' :: '"' :: '"' :: r => some (String.ofList ('"' :: '"' :: done).reverse, r)
  | '"' :: '"' :: '"' :: '"' :: r => some (String.ofList ('"' :: done).reverse, r)
  | '"' :: '"' :: '"' :: r => some (String.ofList done.reverse, r)
  | '\\' :: r =>
    match escape? r with
    | some (c, n) => readLongBasic (c :: done) (r.drop n)
    | none =>
      match _h : continuation? r with
      | some r' => readLongBasic done r'
      | none => none
  | '\n' :: r | '\r' :: '\n' :: r => readLongBasic ('\n' :: done) r
  | c :: r => if isTextChar c then readLongBasic (c :: done) r else none
termination_by cs.length
decreasing_by
  all_goals simp only [List.length_cons, List.length_drop]
  · omega
  · have := length_continuation? _h
    omega
  all_goals omega

/-- Reads a literal string on one line, behind its opening quote. -/
def readLiteral (done : List Char) : List Char → Option (String × List Char)
  | [] => none
  | '\'' :: r => some (String.ofList done.reverse, r)
  | c :: r => if isTextChar c then readLiteral (c :: done) r else none

/-- Reads a literal string on several lines, behind its opening quotes. -/
def readLongLiteral (done : List Char) : List Char → Option (String × List Char)
  | [] => none
  | '\'' :: '\'' :: '\'' :: '\'' :: '\'' :: r =>
    some (String.ofList ('\'' :: '\'' :: done).reverse, r)
  | '\'' :: '\'' :: '\'' :: '\'' :: r => some (String.ofList ('\'' :: done).reverse, r)
  | '\'' :: '\'' :: '\'' :: r => some (String.ofList done.reverse, r)
  | '\n' :: r | '\r' :: '\n' :: r => readLongLiteral ('\n' :: done) r
  | c :: r => if isTextChar c then readLongLiteral (c :: done) r else none

/-- Without a line break at the very start. -/
def dropLineBreak : List Char → List Char
  | '\n' :: r | '\r' :: '\n' :: r => r
  | r => r

/-- Reads a string on one line. -/
def readShortString? : List Char → Option (String × List Char)
  | '"' :: r => readBasic [] r
  | '\'' :: r => readLiteral [] r
  | _ => none

/-- Reads a string of any kind. -/
def readString? : List Char → Option (String × List Char)
  | '"' :: '"' :: '"' :: r => readLongBasic [] (dropLineBreak r)
  | '\'' :: '\'' :: '\'' :: r => readLongLiteral [] (dropLineBreak r)
  | cs => readShortString? cs

end WebScript.Toml
