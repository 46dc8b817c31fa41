import WebScript.Text.Hex
import WebScript.Text.Utf8

/-!
# Percent coding

Bytes as a percent sign and two hexadecimal digits. Each part of a URL has its own set of
characters that have to be written so; what lies beyond ASCII always is.
-/

namespace WebScript.Url

/-- A byte written with a percent sign. -/
def percentByte (b : UInt8) : List Char :=
  ['%', Char.ofNat (Text.Hex.digit (b / 16)).toNat, Char.ofNat (Text.Hex.digit (b % 16)).toNat]

/-- Writes the characters that are not ASCII, or not `plain`, with percent signs. -/
def percentEncode (plain : Char → Bool) (cs : List Char) : List Char :=
  cs.flatMap fun c =>
    if c.toNat < 0x80 && plain c then [c] else (String.utf8EncodeChar c).flatMap percentByte

/-- Reads bytes that are written with a percent sign; a percent sign without two digits behind it
stands for itself. -/
def percentDecode : Bytes → Bytes
  | [] => []
  | 37 :: h :: l :: r =>
    match Text.Hex.byte? h l with
    | some b => b :: percentDecode r
    | none => 37 :: percentDecode (h :: l :: r)
  | b :: r => b :: percentDecode r

/-- Neither a control character nor delete. -/
def isPrintable (c : Char) : Bool := 0x20 ≤ c.toNat && c.toNat != 0x7F

/-- The characters that a fragment shows as they are. -/
def isFragmentChar (c : Char) : Bool := isPrintable c && ! [' ', '"', '<', '>', '`'].contains c

/-- The characters that a query shows as they are. -/
def isQueryChar (c : Char) : Bool := isPrintable c && ! [' ', '"', '#', '<', '>'].contains c

/-- The characters that the query of a special URL shows as they are. -/
def isSpecialQueryChar (c : Char) : Bool := isQueryChar c && c != '\''

/-- The characters that a path shows as they are. -/
def isPathChar (c : Char) : Bool := isFragmentChar c && ! ['#', '?', '\x7b', '\x7d'].contains c

/-- The characters that a user name or a password shows as they are. -/
def isUserinfoChar (c : Char) : Bool :=
  isPathChar c && ! ['/', ':', ';', '=', '@', '[', '\\', ']', '^', '|'].contains c

end WebScript.Url
