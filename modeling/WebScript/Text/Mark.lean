import WebScript.Text.MarkTable

/-!
# Marks

The combining marks and their canonical combining classes.
-/

namespace WebScript.Text

/-- The entry of a mark. -/
def markRun? (c : Char) : Option MarkRun :=
  markRuns.find? fun r => r.low ≤ c.toNat && c.toNat ≤ r.high

/-- A character that combines with the one before it. -/
def isMark (c : Char) : Bool := (markRun? c).isSome

/-- A mark that takes up no room of its own. -/
def isNonspacing (c : Char) : Bool := (markRun? c).any (! ·.spacing)

/-- The canonical combining class; zero for what does not move. -/
def combiningClass (c : Char) : Nat :=
  if c.toNat < 0x300 then 0 else ((markRun? c).map (·.combining)).getD 0

/-- The class of the marks that take away the vowel of a consonant. -/
def viramaClass : Nat := 9

end WebScript.Text
