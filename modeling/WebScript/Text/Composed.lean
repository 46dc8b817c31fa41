import WebScript.Text.CompositionTable
import WebScript.Text.Mark

/-!
# Composed text

Canonical composition: characters are taken apart into bases and marks, the marks behind each
base are brought into the order of their combining classes, and what composes is put together
again. Texts that differ in no more than that have one composed form.

* `composed`: the composed form of a text.
-/

namespace WebScript.Text

/-- The first consonant, vowel and final of the syllables of Hangul, how many there are of each,
and the first syllable. -/
structure Hangul where
  consonant : Nat
  vowel : Nat
  final : Nat
  consonants : Nat
  vowels : Nat
  finals : Nat
  syllable : Nat

/-- The letters of Hangul. A syllable without a final counts as one with the zeroth. -/
def hangul : Hangul := ⟨0x1100, 0x1161, 0x11A7, 19, 21, 28, 0xAC00⟩

namespace Hangul

/-- Takes a syllable apart into letters. -/
def decompose? (h : Hangul) (n : Nat) : Option (List Nat) :=
  let i := n - h.syllable
  if n < h.syllable || h.consonants * h.vowels * h.finals ≤ i then none
  else
    let letters := [h.consonant + i / (h.vowels * h.finals), h.vowel + i / h.finals % h.vowels]
    some (if i % h.finals = 0 then letters else letters ++ [h.final + i % h.finals])

/-- Puts a consonant and a vowel together, or a syllable without a final and a final. -/
def compose? (h : Hangul) (a b : Nat) : Option Nat :=
  if h.consonant ≤ a && a < h.consonant + h.consonants && h.vowel ≤ b && b < h.vowel + h.vowels then
    some (h.syllable + ((a - h.consonant) * h.vowels + (b - h.vowel)) * h.finals)
  else if h.syllable ≤ a && a < h.syllable + h.consonants * h.vowels * h.finals &&
      (a - h.syllable) % h.finals == 0 && h.final < b && b < h.final + h.finals then
    some (a + (b - h.final))
  else none

end Hangul

/-- The base and the mark that a character is composed of. -/
def CompositionRow.decompose? (r : CompositionRow) (c : Char) : Option (List Char) :=
  ((r.composed.toList.zip r.bases.toList).lookup c).map fun base => [base, Char.ofNat r.mark]

/-- Takes one mark off a character, or a syllable apart. -/
def decomposeOnce (c : Char) : List Char :=
  if c.toNat < 0xC0 then [c]
  else
    match hangul.decompose? c.toNat with
    | some ns => ns.map Char.ofNat
    | none => (compositionRows.findSome? (·.decompose? c)).getD [c]

/-- Takes characters apart. None has more than three marks. -/
def decompose (cs : List Char) : List Char :=
  ((cs.flatMap decomposeOnce).flatMap decomposeOnce).flatMap decomposeOnce

/-- Puts a character behind others, last first: in front of the marks of a higher class. -/
def placeMark (c : Char) : List Char → List Char
  | [] => [c]
  | d :: r =>
    if combiningClass c ≠ 0 ∧ combiningClass c < combiningClass d then d :: placeMark c r
    else c :: d :: r

/-- Brings marks into the order of their classes. -/
def orderMarks (cs : List Char) : List Char :=
  (cs.foldl (fun done c => placeMark c done) []).reverse

/-- The character that two others compose to. -/
def composePair? (a b : Char) : Option Char :=
  match hangul.compose? a.toNat b.toNat with
  | some n => some (Char.ofNat n)
  | none =>
    (compositionRows.filter (·.mark = b.toNat)).findSome? fun r =>
      (r.bases.toList.zip r.composed.toList).lookup a

/-- Text in the course of being composed, last character first: what is done, the last base, and
the marks behind it that did not compose. -/
structure Composer where
  done : List Char
  base : Option Char
  marks : List Char

namespace Composer

/-- Takes in a character. It reaches the base if no mark between them has its class or a higher
one. -/
def step (s : Composer) (c : Char) : Composer :=
  let k := combiningClass c
  let reaches := s.marks.head?.all fun m => combiningClass m < k
  match if reaches then s.base.bind (composePair? · c) else none with
  | some d => { s with base := some d }
  | none =>
    if k = 0 then ⟨s.marks ++ s.base.toList ++ s.done, some c, []⟩
    else { s with marks := c :: s.marks }

/-- The text. -/
def finish (s : Composer) : List Char := (s.marks ++ s.base.toList ++ s.done).reverse

end Composer

/-- The composed form of a text. -/
def composed (cs : List Char) : List Char :=
  ((orderMarks (decompose cs)).foldl Composer.step ⟨[], none, []⟩).finish

end WebScript.Text
