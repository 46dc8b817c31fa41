/-!
# Hexadecimal digits

The value of a hexadecimal digit in either case, as a byte or as a character, and the digits of a
byte in upper case.
-/

namespace WebScript.Text.Hex

/-- The value of a digit. -/
def value? (b : UInt8) : Option UInt8 :=
  if 48 ≤ b ∧ b ≤ 57 then some (b - 48)
  else if 65 ≤ b ∧ b ≤ 70 then some (b - 55)
  else if 97 ≤ b ∧ b ≤ 102 then some (b - 87)
  else none

/-- The value of a character that is a digit. -/
def charValue? (c : Char) : Option Nat :=
  if c.toNat < 0x80 then (value? (UInt8.ofNat c.toNat)).map (·.toNat) else none

/-- The digit of a value below 16. -/
def digit (n : UInt8) : UInt8 := if n < 10 then 48 + n else 55 + n

/-- The byte that two digits spell. -/
def byte? (high low : UInt8) : Option UInt8 :=
  match value? high, value? low with
  | some h, some l => some (16 * h + l)
  | _, _ => none

theorem byte?_digits (b : UInt8) : byte? (digit (b / 16)) (digit (b % 16)) = some b := by
  have h : ∀ n : Fin 256, byte? (digit (UInt8.ofFin n / 16)) (digit (UInt8.ofFin n % 16)) =
      some (UInt8.ofFin n) := by decide +kernel
  exact h b.toFin

end WebScript.Text.Hex
