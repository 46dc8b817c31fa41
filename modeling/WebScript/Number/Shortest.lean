import WebScript.Number.Binary

/-!
# The fewest digits that read back

Decimal text of a double: the fewest significant digits that lie nearer to it than to any other
double, and of those the nearest to it, written out in positional notation.

* `Interval`: the numbers that round to a given double, over a common denominator.
* `shortest`: digits and a power of ten, from the coarsest decimal grid with a point inside.
* `display`: the text of a double.
-/

namespace WebScript.Number

/-- Ten to a power. -/
def tenPow (n : Nat) : Nat := Nat.pow 10 n

/-- A positive double and the two ends of the interval that rounds to it, all multiplied by the
same `scale`; the ends belong to it when the significand is even. -/
structure Interval where
  low : Nat
  value : Nat
  high : Nat
  scale : Nat
  closed : Bool

/-- The interval of `m · 2 ^ e`. Below the least significand of a binade the next double is only
half as far away. -/
def Interval.of (m : Nat) (e : Int) : Interval :=
  let up := fun (n : Nat) => n <<< (e - 2).toNat
  let below := if m = hiddenBit ∧ -1074 < e then 1 else 2
  ⟨up (4 * m - below), up (4 * m), up (4 * m + 2), 1 <<< (2 - e).toNat, m % 2 = 0⟩

/-- Whether `n · 10 ^ k` lies in the interval. -/
def Interval.contains (i : Interval) (n : Nat) (k : Int) : Bool :=
  let x := n * tenPow k.toNat * i.scale
  let ten := tenPow (-k).toNat
  if i.closed then i.low * ten ≤ x && x ≤ i.high * ten else i.low * ten < x && x < i.high * ten

/-- The greatest multiple of `10 ^ k` that is not above the value. -/
def Interval.floor (i : Interval) (k : Int) : Nat :=
  i.value * tenPow (-k).toNat / (i.scale * tenPow k.toNat)

/-- Whether `n · 10 ^ k` is strictly nearer to the value than the next multiple of `10 ^ k`, for
an `n` that is the floor. -/
def Interval.nearerBelow (i : Interval) (n : Nat) (k : Int) : Bool :=
  2 * (i.value * tenPow (-k).toNat) < (2 * n + 1) * tenPow k.toNat * i.scale

/-- The point of the grid of multiples of `10 ^ k` that stands for the value, if one lies in the
interval: the nearer of its two neighbours, and the upper one at equal distance. -/
def Interval.onGrid? (i : Interval) (k : Int) : Option (Nat × Int) :=
  let n := i.floor k
  match i.contains n k, i.contains (n + 1) k with
  | true, true => some (if i.nearerBelow n k then n else n + 1, k)
  | true, false => some (n, k)
  | false, true => some (n + 1, k)
  | false, false => none

/-- The number of decimal digits of a positive number. -/
def digitCount (n : Nat) : Nat := (Nat.toDigits 10 n).length

/-- The power of ten just above the value. -/
def Interval.magnitude (i : Interval) : Int := digitCount (i.value * tenPow 350 / i.scale) - 350

/-- Digits and power of ten for the positive double `m · 2 ^ e`: the grids of the power of ten just
above it and of the 17 below that are tried in turn. -/
def shortest (m : Nat) (e : Int) : Nat × Int :=
  let i := Interval.of m e
  let k := i.magnitude
  ((List.range 18).findSome? fun (d : Nat) => i.onGrid? (k - d)).getD (i.floor (k - 17), k - 17)

/-- Digits times a power of ten, written without an exponent. -/
def positional (digits : Nat) (power : Int) : List Char :=
  let ds := Nat.toDigits 10 digits
  if 0 ≤ power then ds ++ List.replicate power.toNat '0'
  else
    let places := (-power).toNat
    let ds := List.replicate (places + 1 - ds.length) '0' ++ ds
    ds.take (ds.length - places) ++ '.' :: ds.drop (ds.length - places)

/-- The text of a double: shortest digits, never an exponent, and a sign also before zero. -/
def display (x : Float) : String :=
  match form x with
  | .nan => "NaN"
  | .infinite negative => if negative then "-inf" else "inf"
  | .finite negative m e =>
    let body := if m = 0 then ['0'] else
      let (digits, power) := shortest m e
      positional digits power
    String.ofList (if negative then '-' :: body else body)

end WebScript.Number
