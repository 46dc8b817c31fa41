import WebScript.Text.HiddenTable

/-!
# Quoted text in messages

Text as it is quoted in an error message: between double quotes, with quotes, backslashes and
line breaks escaped and every character that does not show by itself given by its number.
-/

namespace WebScript.Text.Quoted

/-- The character does not show by itself. -/
def isHidden (c : Char) : Bool :=
  let n := c.toNat
  n < 0x20 || (0x7F ≤ n && hiddenRanges.any fun (low, high) => low ≤ n && n ≤ high)

/-- A character by its number, in lower-case hexadecimal. -/
def byNumber (c : Char) : List Char := '\\' :: 'u' :: '\x7b' :: Nat.toDigits 16 c.toNat ++ ['\x7d']

/-- How a character is written between the quotes. -/
def encodeChar (c : Char) : List Char :=
  match c with
  | '\x00' => ['\\', '0']
  | '\t' => ['\\', 't']
  | '\r' => ['\\', 'r']
  | '\n' => ['\\', 'n']
  | '"' => ['\\', '"']
  | '\\' => ['\\', '\\']
  | c => if isHidden c then byNumber c else [c]

/-- The quoted form of a text. -/
def quote (s : String) : String :=
  String.ofList ('"' :: s.toList.flatMap encodeChar ++ ['"'])

end WebScript.Text.Quoted
