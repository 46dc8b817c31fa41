import WebScript.Number.Shortest
import WebScript.Text.Case

/-!
# Reading decimal text

The double nearest to a decimal number, and the grammar of such numbers as text: an optional
sign, then digits with an optional point among or around them and an optional exponent, or one
of the words for the infinities and NaN in any case.

* `ofDecimal`: the double nearest to `n · 10 ^ k`.
* `read?`: the double that a text names.
-/

namespace WebScript.Number

/-- The value of a list of decimal digits. -/
def ofDigits (ds : List Char) : Nat := ds.foldl (fun n d => 10 * n + (d.toNat - '0'.toNat)) 0

/-- The double nearest to `n · 10 ^ k`. Powers far outside the range of doubles are settled
without computing them. -/
def ofDecimal (n : Nat) (k : Int) : Float :=
  if n = 0 then 0
  else if 310 < digitCount n + k then Float.ofBits 0x7FF0000000000000
  else if digitCount n + k < -330 then 0
  else if 0 ≤ k then Float.ofScientific n false k.toNat
  else Float.ofScientific n true (-k).toNat

/-- The double with its sign changed if asked for. -/
def withSign (negative : Bool) (x : Float) : Float := if negative then -x else x

/-- A sign, if there is one, and the rest. -/
def splitSign : List Char → Bool × List Char
  | '-' :: r => (true, r)
  | '+' :: r => (false, r)
  | r => (false, r)

/-- The digits in front and the rest. -/
def splitDigits (cs : List Char) : List Char × List Char :=
  (cs.takeWhile Char.isDigit, cs.dropWhile Char.isDigit)

/-- Splitting digits off loses nothing. -/
theorem splitDigits_append (cs : List Char) : (splitDigits cs).1 ++ (splitDigits cs).2 = cs :=
  List.takeWhile_append_dropWhile

/-- An exponent with its mark, or nothing at all. -/
def readExponent? : List Char → Option Int
  | [] => some 0
  | c :: r =>
    if c = 'e' ∨ c = 'E' then
      let (negative, ds) := splitSign r
      if ds.isEmpty || !ds.all Char.isDigit then none else some (signed negative (ofDigits ds))
    else none

/-- A decimal number without a sign: at least one digit before or after the point. -/
def readUnsigned? (cs : List Char) : Option Float :=
  let (whole, r) := splitDigits cs
  let (fraction, r) := match r with
    | '.' :: r => splitDigits r
    | r => ([], r)
  if whole.isEmpty && fraction.isEmpty then none
  else (readExponent? r).map fun k => ofDecimal (ofDigits (whole ++ fraction)) (k - fraction.length)

/-- The double that a text names. -/
def read? (cs : List Char) : Option Float :=
  let (negative, r) := splitSign cs
  let word := r.map Char.toLower
  if word = "inf".toList ∨ word = "infinity".toList then
    some (withSign negative (Float.ofBits 0x7FF0000000000000))
  else if word = "nan".toList then some (Float.ofBits 0x7FF8000000000000)
  else (readUnsigned? r).map (withSign negative)

end WebScript.Number
