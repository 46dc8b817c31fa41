/-!
# What a double stands for

The sign, significand and exponent of a double, read off its bits, and the whole number left
when its fraction is dropped.

* `form`: not a number, an infinity, or a signed multiple of a power of two.
* `truncate?`: a finite double without its fraction.
* `isWhole`: the double is finite and has no fraction.
* `fitsInt64`, `clamp64`, `uint64Max`: the ranges of 64-bit numbers.
-/

namespace WebScript.Number

/-- The three kinds of double; a finite one is `± significand · 2 ^ exponent`. -/
inductive Form where
  | nan
  | infinite (negative : Bool)
  | finite (negative : Bool) (significand : Nat) (exponent : Int)

/-- The bit above the 52 bits of the fraction, which is not stored. -/
def hiddenBit : Nat := 0x10000000000000

/-- Reads sign, exponent and fraction off the bits. A zero exponent field has no hidden bit. -/
def form (x : Float) : Form :=
  let bits := x.toBits.toNat
  let negative := bits.testBit 63
  let exponent : Nat := bits / hiddenBit % 2048
  let fraction : Nat := bits % hiddenBit
  if exponent = 2047 then if fraction = 0 then .infinite negative else .nan
  else if exponent = 0 then .finite negative fraction (-1074)
  else .finite negative (hiddenBit + fraction) (exponent - 1075)

/-- Neither an infinity nor NaN. -/
def isFinite (x : Float) : Bool :=
  match form x with
  | .finite .. => true
  | _ => false

/-- The whole part of `significand · 2 ^ exponent`. -/
def wholePart (significand : Nat) (exponent : Int) : Nat :=
  if 0 ≤ exponent then significand <<< exponent.toNat else significand >>> (-exponent).toNat

/-- A number of the given sign. -/
def signed (negative : Bool) (n : Nat) : Int := if negative then -n else n

/-- A finite double without its fraction, rounded toward zero. -/
def truncate? (x : Float) : Option Int :=
  match form x with
  | .finite negative m e => some (signed negative (wholePart m e))
  | _ => none

/-- Finite and without a fraction. -/
def isWhole (x : Float) : Bool :=
  match form x with
  | .finite _ m e => 0 ≤ e || m % (1 <<< (-e).toNat) == 0
  | _ => false

/-- The whole number that a double is, when it is one of magnitude below `bound`. -/
def wholeBelow? (bound : Nat) (x : Float) : Option Int :=
  if isWhole x then (truncate? x).filter (·.natAbs < bound) else none

/-- The least signed 64-bit number. -/
def int64Min : Int := -0x8000000000000000

/-- The greatest signed 64-bit number. -/
def int64Max : Int := 0x7FFFFFFFFFFFFFFF

/-- The greatest unsigned 64-bit number. -/
def uint64Max : Nat := 0xFFFFFFFFFFFFFFFF

/-- The number is a signed 64-bit number. -/
def fitsInt64 (n : Int) : Bool := int64Min ≤ n && n ≤ int64Max

/-- The nearest signed 64-bit number. -/
def clamp64 (n : Int) : Int := max int64Min (min n int64Max)

/-- The nearest signed 64-bit number to a double without its fraction; NaN counts as zero. -/
def toInt64 (x : Float) : Int :=
  match form x with
  | .nan => 0
  | .infinite negative => if negative then int64Min else int64Max
  | .finite negative m e => clamp64 (signed negative (wholePart m e))

end WebScript.Number
