import WebScript.Form.Fields
import WebScript.Text.Hex
import WebScript.Text.Utf8

/-!
# Urlencoded forms

Fields as one line of text, `a=1&b=x+y`: a plus stands for a space and a percent sign with two
hexadecimal digits for a byte.

* `Fields.urlencode`: the written form of fields.
* `Fields.ofUrlencoded`: reads any text; what is no escape stands for itself.
-/

namespace WebScript

namespace Form.Urlencoded

/-- A byte that is written as it is: a letter, a digit, or one of `*-._`. -/
def isPlain (b : UInt8) : Bool :=
  (97 ≤ b && b ≤ 122) || (65 ≤ b && b ≤ 90) || (48 ≤ b && b ≤ 57) ||
    b == 42 || b == 45 || b == 46 || b == 95

/-- How a byte is written. -/
def encodeByte (b : UInt8) : Bytes :=
  if isPlain b then [b]
  else if b = 32 then [43]
  else [37, Text.Hex.digit (b / 16), Text.Hex.digit (b % 16)]

/-- How bytes are written. -/
def encode (bs : Bytes) : Bytes := bs.flatMap encodeByte

/-- Reads escapes and pluses, behind what has been read, last byte first. -/
def decodeOnto (done : Bytes) : Bytes → Bytes
  | [] => done.reverse
  | 43 :: r => decodeOnto (32 :: done) r
  | 37 :: h :: l :: r =>
    match Text.Hex.byte? h l with
    | some b => decodeOnto (b :: done) r
    | none => decodeOnto (37 :: done) (h :: l :: r)
  | b :: r => decodeOnto (b :: done) r

/-- Reads escapes and pluses. -/
def decode (bs : Bytes) : Bytes := decodeOnto [] bs

/-- A name and its value, written. -/
def encodePair (p : String × String) : Bytes :=
  encode (Bytes.ofText p.1) ++ 61 :: encode (Bytes.ofText p.2)

/-- Reads a name and its value; without an equals sign the value is empty. -/
def decodePair (bs : Bytes) : String × String :=
  ((decode (bs.takeWhile (· ≠ 61))).toText, (decode ((bs.dropWhile (· ≠ 61)).drop 1)).toText)

/-- Reads pairs between ampersands; stretches without a byte are no pairs. -/
def decodePairs (bs : Bytes) : List (String × String) :=
  ((bs.splitOn 38).filter (! ·.isEmpty)).map decodePair

end Form.Urlencoded

namespace Fields

/-- Fields read from urlencoded text. -/
def ofUrlencoded (s : String) : Fields :=
  ofPairs (Form.Urlencoded.decodePairs (Bytes.ofText s))

/-- Fields as urlencoded bytes, all of them ASCII. -/
def urlencodeBytes (f : Fields) : Bytes :=
  [38].intercalate (f.toPairs.map Form.Urlencoded.encodePair)

/-- Fields as urlencoded text. -/
def urlencode (f : Fields) : String := f.urlencodeBytes.toText

end Fields

end WebScript
