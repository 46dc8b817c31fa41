/-!
# Cutting text

Cutting a text at its first or last separator, and finding a word inside it.

* `cut`: before and after the first separator.
* `cutLast`: before and after the last separator.
* `after?`: what follows the first occurrence of a word.
-/

namespace WebScript.Text

/-- The part before the first character that satisfies `p`, and the part after it if there is
one. -/
def cut (p : Char → Bool) (cs : List Char) : List Char × Option (List Char) :=
  match cs.dropWhile (! p ·) with
  | [] => (cs, none)
  | _ :: r => (cs.takeWhile (! p ·), some r)

/-- The parts before and after the last character that satisfies `p`, if there is one. -/
def cutLast (p : Char → Bool) (cs : List Char) : Option (List Char × List Char) :=
  match cut p cs.reverse with
  | (_, none) => none
  | (back, some front) => some (front.reverse, back.reverse)

/-- What follows the first occurrence of `word`. -/
def after? (word : List Char) : List Char → Option (List Char)
  | [] => if word.isEmpty then some [] else none
  | c :: r => if word.isPrefixOf (c :: r) then some ((c :: r).drop word.length) else after? word r

/-- Whether `word` stands somewhere in the text. -/
def hasWord (word cs : List Char) : Bool := (after? word cs).isSome

end WebScript.Text
