import WebScript.Text.CaseTable

/-!
# Case

The full case mappings of single characters: one character may become several, as the sharp s
becomes two letters. ASCII letters change among themselves; the tables say what the others do.
-/

namespace WebScript.Text.Case

/-- The number a run maps a member of it to. -/
def Run.map? (r : Run) (n : Nat) : Option Nat :=
  if r.low ≤ n ∧ n ≤ r.high ∧ (n - r.low) % r.step = 0 then some (n + r.shift).toNat else none

/-- The mapping of a character beyond ASCII that two tables give; most map to themselves. -/
def mapWith (runs : List Run) (expansions : List (Nat × List Nat)) (c : Char) : List Char :=
  match runs.findSome? (·.map? c.toNat) with
  | some n => [Char.ofNat n]
  | none =>
    match expansions.lookup c.toNat with
    | some ns => ns.map Char.ofNat
    | none => [c]

/-- The upper-case form of a character. -/
def upper (c : Char) : List Char :=
  if c.toNat < 0x80 then [c.toUpper] else mapWith upperRuns upperExpansions c

/-- The lower-case form of a character. -/
def lower (c : Char) : List Char :=
  if c.toNat < 0x80 then [c.toLower] else mapWith lowerRuns lowerExpansions c

/-- No character of the text has an upper-case form other than itself. -/
def isUpper (cs : List Char) : Bool := cs.all fun c => upper c == [c]

/-- No character of the text has a lower-case form other than itself. -/
def isLower (cs : List Char) : Bool := cs.all fun c => lower c == [c]

/-- The text with its ASCII letters in upper case and all else as it is. -/
def upperAscii (s : String) : String := String.ofList (s.toList.map Char.toUpper)

/-- The text with its ASCII letters in lower case and all else as it is. -/
def lowerAscii (s : String) : String := String.ofList (s.toList.map Char.toLower)

end WebScript.Text.Case
