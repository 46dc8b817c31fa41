/-!
# UTF-8

Text as bytes and back. Writing is the standard encoding; reading never fails, and puts one
replacement character in the place of every longest stretch of bytes that begins a character
but cannot be completed.

* `Bytes.ofText`: the bytes of a text.
* `Bytes.toText`: the text of any bytes, with replacement characters where they are not UTF-8.
* `Bytes.toText?`: the text of bytes that are UTF-8 throughout.
-/

namespace WebScript

/-- Raw bytes: bodies, file contents, encoded text. -/
abbrev Bytes := List UInt8

namespace Text.Utf8

/-- The character that stands for bytes that are not UTF-8. -/
def replacement : Char := '\uFFFD'

/-- A character begun: the bits read so far, how many bytes it still needs, and the least and
greatest value that the next of them may have. -/
structure Begun where
  bits : Nat
  owed : Nat
  low : UInt8
  high : UInt8

/-- What a byte between two characters does: it is a character, begins one, or is neither. -/
inductive Lead where
  | whole (c : Char)
  | begun (b : Begun)
  | stray

/-- Two-byte characters begin at C2, so that none encodes ASCII; the second byte is narrowed
after E0, ED, F0 and F4, so that no character has a longer form than it needs, none is a
surrogate and none lies above U+10FFFF. -/
def lead (b : UInt8) : Lead :=
  if b < 0x80 then .whole (Char.ofNat b.toNat)
  else if b < 0xC2 then .stray
  else if b < 0xE0 then .begun ⟨b.toNat - 0xC0, 1, 0x80, 0xBF⟩
  else if b = 0xE0 then .begun ⟨0, 2, 0xA0, 0xBF⟩
  else if b = 0xED then .begun ⟨0xD, 2, 0x80, 0x9F⟩
  else if b < 0xF0 then .begun ⟨b.toNat - 0xE0, 2, 0x80, 0xBF⟩
  else if b = 0xF0 then .begun ⟨0, 3, 0x90, 0xBF⟩
  else if b < 0xF4 then .begun ⟨b.toNat - 0xF0, 3, 0x80, 0xBF⟩
  else if b = 0xF4 then .begun ⟨4, 3, 0x80, 0x8F⟩
  else .stray

/-- The decoder between two bytes: the characters read, last first, and the one begun. -/
structure Progress where
  read : List Char
  begun : Option Begun

/-- Reads a byte that stands between two characters. -/
def Progress.start (read : List Char) (b : UInt8) : Progress :=
  match lead b with
  | .whole c => ⟨c :: read, none⟩
  | .begun p => ⟨read, some p⟩
  | .stray => ⟨replacement :: read, none⟩

/-- Reads a byte. One that cannot continue the character begun ends it as a replacement
character and is read again between two characters. -/
def Progress.step (s : Progress) (b : UInt8) : Progress :=
  match s.begun with
  | none => start s.read b
  | some p =>
    if p.low ≤ b ∧ b ≤ p.high then
      let bits := p.bits * 64 + (b.toNat - 0x80)
      if p.owed ≤ 1 then ⟨Char.ofNat bits :: s.read, none⟩
      else ⟨s.read, some ⟨bits, p.owed - 1, 0x80, 0xBF⟩⟩
    else start (replacement :: s.read) b

/-- The characters read, in order; a character left incomplete at the end is replaced. -/
def Progress.finish (s : Progress) : List Char :=
  match s.begun with
  | none => s.read.reverse
  | some _ => (replacement :: s.read).reverse

/-- The characters of any bytes. -/
def decode (bs : Bytes) : List Char := (bs.foldl Progress.step ⟨[], none⟩).finish

/-- The bytes of a list of characters. -/
def encode (cs : List Char) : Bytes := cs.flatMap String.utf8EncodeChar

theorem encode_append (a b : List Char) : encode (a ++ b) = encode a ++ encode b := by
  simp [encode]

end Text.Utf8

namespace Bytes

/-- The UTF-8 bytes of a text. -/
def ofText (s : String) : Bytes := Text.Utf8.encode s.toList

/-- The text of any bytes, with a replacement character for each stretch that is not UTF-8. -/
def toText (bs : Bytes) : String := String.ofList (Text.Utf8.decode bs)

/-- The text of bytes that are UTF-8 throughout: those that reading and writing gives back. -/
def toText? (bs : Bytes) : Option String :=
  let s := bs.toText
  if ofText s = bs then some s else none

end Bytes

end WebScript
