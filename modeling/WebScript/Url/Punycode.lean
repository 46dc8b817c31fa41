/-!
# Punycode

Text beyond ASCII in letters, digits and hyphens: the ASCII characters, a hyphen if there are any,
and for each of the others the distance from the last one, place and character together, in
digits whose weights adapt to the distances seen.

* `Punycode.encode?`: the written form.
* `Punycode.decode?`: reads it back.
-/

namespace WebScript.Url.Punycode

/-- The number of digits. -/
def radix : Nat := 36

/-- The first character beyond ASCII. -/
def firstCode : Nat := 0x80

/-- What numbers may not exceed. -/
def limit : Nat := 0x100000000

/-- The digit at a place stands for itself if it is below the threshold of the place, and then
ends a number. -/
def threshold (place bias : Nat) : Nat := max 1 (min 26 (place - bias))

/-- How often a distance can be divided before it is small, and what is left of it. -/
def scaleDown (steps delta : Nat) : Nat × Nat :=
  if 455 < delta then scaleDown (steps + 1) (delta / 35) else (steps, delta)
termination_by delta

/-- The bias after a distance, the `count`th one that is written. -/
def adapt (delta count : Nat) (isFirst : Bool) : Nat :=
  let delta := if isFirst then delta / 700 else delta / 2
  let (steps, delta) := scaleDown 0 (delta + delta / count)
  radix * steps + radix * delta / (delta + 38)

/-- The value of a digit, a letter of either case or a decimal digit. -/
def digitValue? (c : Char) : Option Nat :=
  if c.isUpper then some (c.toNat - 'A'.toNat)
  else if c.isLower then some (c.toNat - 'a'.toNat)
  else if c.isDigit then some (c.toNat - '0'.toNat + 26)
  else none

/-- The digit of a value. -/
def digit (n : Nat) : Char := Char.ofNat (if n < 26 then 'a'.toNat + n else '0'.toNat + (n - 26))

/-- The digits of a distance, from a place on. -/
def distanceDigits (bias place n : Nat) : List Char :=
  let t := threshold place bias
  if n < t then [digit n]
  else
    digit (t + (n - t) % (radix - t)) ::
      distanceDigits bias (place + radix) ((n - t) / (radix - t))
termination_by n
decreasing_by
  have h := Nat.div_le_self (n - threshold place bias) (radix - threshold place bias)
  have : 1 ≤ threshold place bias := Nat.le_max_left ..
  omega

/-- The writer: what is written, last digit first, the distance so far, the bias, and how many
characters are written. -/
structure Writer where
  out : List Char
  delta : Nat
  bias : Nat
  written : Nat

/-- Passes over a character of the text while the character `code` is being written: each smaller
one adds to the distance, and each equal one is written. -/
def Writer.pass (ascii code : Nat) (s : Writer) (c : Char) : Writer :=
  if c.toNat < code then { s with delta := s.delta + 1 }
  else if c.toNat = code then
    ⟨(distanceDigits s.bias radix s.delta).reverse ++ s.out, 0,
      adapt s.delta (s.written + 1) (s.written = ascii), s.written + 1⟩
  else s

/-- Writes the characters of the text that have one of the codes, which come in order. -/
def Writer.writeCodes (cs : List Char) (ascii : Nat) : Nat → List Nat → Writer → Writer
  | _, [], s => s
  | n, code :: r, s =>
    let s := cs.foldl (pass ascii code) { s with delta := s.delta + (code - n) * (s.written + 1) }
    writeCodes cs ascii (code + 1) r { s with delta := s.delta + 1 }

/-- The codes beyond ASCII in order, each once. -/
def codes (cs : List Char) : List Nat :=
  (((cs.map (·.toNat)).filter (firstCode ≤ ·)).mergeSort (· ≤ ·)).eraseReps

/-- The longest text that is written. -/
def maxWritten : Nat := 1000

/-- The longest text that is read. -/
def maxRead : Nat := 2000

/-- Writes a text, unless it is very long. -/
def encode? (cs : List Char) : Option (List Char) :=
  if maxWritten < cs.length then none
  else
    let ascii := cs.filter (·.toNat < firstCode)
    let s := Writer.writeCodes cs ascii.length firstCode (codes cs) ⟨[], 0, 72, ascii.length⟩
    some ((if ascii.isEmpty then [] else ascii ++ ['-']) ++ s.out.reverse)

/-- Reads the digits of a distance and gives what follows. -/
def readDistance? (bias : Nat) : Nat → Nat → Nat → List Char → Option (Nat × List Char)
  | _, _, _, [] => none
  | place, weight, n, c :: r => do
    let d ← digitValue? c
    let n := n + d * weight
    if limit ≤ n then none
    else
      let t := threshold place bias
      if d < t then some (n, r)
      else if limit ≤ weight * (radix - t) then none
      else readDistance? bias (place + radix) (weight * (radix - t)) n r

theorem length_readDistance {bias place weight n : Nat} {cs : List Char} {p : Nat × List Char}
    (h : readDistance? bias place weight n cs = some p) : p.2.length < cs.length := by
  induction cs generalizing place weight n with
  | nil => simp [readDistance?] at h
  | cons c r ih =>
    simp only [readDistance?] at h
    cases hd : digitValue? c with
    | none => simp [hd] at h
    | some d =>
      simp only [hd, Option.bind_eq_bind, Option.bind_some] at h
      split at h
      · simp at h
      · split at h
        · simp only [Option.some.injEq] at h
          subst h
          simp
        · split at h
          · simp at h
          · have := ih h
            simp only [List.length_cons]
            omega

/-- Inserts the characters that the digits spell into a text, from one place and character on. -/
def readCodes? (code place bias : Nat) (isFirst : Bool) (cs digits : List Char) :
    Option (List Char) :=
  match digits with
  | [] => some cs
  | d :: ds =>
    match _h : readDistance? bias radix 1 0 (d :: ds) with
    | none => none
    | some (delta, r) =>
      let count := cs.length + 1
      let position := place + delta
      let code := code + position / count
      if code.isValidChar then
        readCodes? code (position % count + 1) (adapt delta count isFirst) false
          (cs.insertIdx (position % count) (Char.ofNat code)) r
      else none
termination_by digits.length
decreasing_by exact length_readDistance _h

/-- The characters before the last hyphen, and the digits behind it. -/
def splitDigits (cs : List Char) : List Char × List Char :=
  let digits := (cs.reverse.takeWhile (· ≠ '-')).reverse
  let front := cs.take (cs.length - digits.length - 1)
  if front.isEmpty then ([], cs) else (front, digits)

/-- Reads a written form. -/
def decode? (cs : List Char) : Option (List Char) :=
  if maxRead < cs.length then none
  else
    let (ascii, digits) := splitDigits cs
    readCodes? firstCode 0 72 true (ascii.map Char.toLower) digits

end WebScript.Url.Punycode
