import WebScript.Check.Internet
import WebScript.Json.Source
import WebScript.Text.Case

/-!
# Checks by name

The checks on text that scripts ask for by name.

* `textChecks`: every check with its name.
* `textCheck?`: the check with a name.
-/

namespace WebScript.Check

/-- A whole number as it is usually written: a sign or none, and digits of which the first is no
zero unless it is the only one. The empty text counts as well. -/
def isInteger (cs : List Char) : Bool :=
  let digits := match cs with
    | '+' :: r | '-' :: r => r
    | cs => cs
  cs.isEmpty || digits == ['0'] ||
    (! digits.isEmpty && digits.head? != some '0' && digits.all Char.isDigit)

/-- Every check on text that has a name, in the order in which they are listed. -/
def textChecks : List (String × (String → Bool)) :=
  [("IsURL", isUrl),
   ("IsAlpha", fun s => s.toList.all Char.isAlpha),
   ("IsAlphanumeric", fun s => s.toList.all Char.isAlphanum),
   ("IsEmail", isEmail),
   ("IsJson", fun s => (Json.parse? s).isSome),
   ("IsNull", String.isEmpty),
   ("IsEmpty", String.isEmpty),
   ("IsASCII", fun s => s.toList.all (·.toNat < 0x80)),
   ("IsUpperCase", fun s => Text.Case.isUpper s.toList),
   ("IsLowerCase", fun s => Text.Case.isLower s.toList),
   ("IsInt", fun s => isInteger s.toList)]

/-- The check with a name. -/
def textCheck? (name : String) : Option (String → Bool) := textChecks.lookup name

end WebScript.Check
