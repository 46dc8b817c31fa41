import WebScript.Number.Reader
import WebScript.Text.Hex

/-!
# JSON tokens

The words of JSON text: marks, names, numbers as they are spelled, and strings. A string may
spell half of a surrogate pair, which no text can hold; such a string has no text.

* `tokens?`: the tokens of a text, if it has no other words.
-/

namespace WebScript.Json

open Text.Hex (charValue?)

/-- A number as it is spelled. -/
structure NumberText where
  negative : Bool
  whole : List Char
  /-- The digits behind the point, if there is one. -/
  fraction : Option (List Char)
  /-- The sign and the digits of the exponent, if there is one. -/
  exponent : Option (Bool × List Char)

/-- A word of JSON text. -/
inductive Token where
  | openArray
  | closeArray
  | openObject
  | closeObject
  | comma
  | colon
  | null
  | bool (b : Bool)
  | number (n : NumberText)
  | string (s : Option String)

/-- White space between tokens. -/
def isSpace (c : Char) : Bool := c == ' ' || c == '\t' || c == '\n' || c == '\r'

/-- The number that four hexadecimal digits spell. -/
def unit? (a b c d : Char) : Option Nat :=
  match charValue? a, charValue? b, charValue? c, charValue? d with
  | some a, some b, some c, some d => some (4096 * a + 256 * b + 16 * c + d)
  | _, _, _, _ => none

/-- The first half of a surrogate pair. -/
def isHighSurrogate (n : Nat) : Bool := 0xD800 ≤ n && n < 0xDC00

/-- The second half of a surrogate pair. -/
def isLowSurrogate (n : Nat) : Bool := 0xDC00 ≤ n && n < 0xE000

/-- The character that an escape of one letter stands for. -/
def escaped? (c : Char) : Option Char :=
  match c with
  | '"' => some '"'
  | '\\' => some '\\'
  | '/' => some '/'
  | 'b' => some '\x08'
  | 'f' => some '\x0c'
  | 'n' => some '\n'
  | 'r' => some '\r'
  | 't' => some '\t'
  | _ => none

/-- The second half of a pair at the front of a text, and what follows. -/
def lowSurrogate? : List Char → Option (Nat × List Char)
  | '\\' :: 'u' :: a :: b :: c :: d :: r =>
    match unit? a b c d with
    | some n => if isLowSurrogate n then some (n, r) else none
    | none => none
  | _ => none

theorem length_lowSurrogate? {cs r : List Char} {n : Nat} (h : lowSurrogate? cs = some (n, r)) :
    r.length < cs.length := by
  unfold lowSurrogate? at h
  split at h
  · split at h
    · split at h
      · simp only [Option.some.injEq, Prod.mk.injEq] at h
        simp [← h.2]
        omega
      · simp at h
    · simp at h
  · simp at h

/-- Reads a string behind its opening quote and gives what follows the closing one. `done` is what
has been read, last character first; `whole` says that no half of a pair stood alone. -/
def readString (done : List Char) (whole : Bool) (cs : List Char) :
    Option (Option String × List Char) :=
  match cs with
  | [] => none
  | '"' :: r => some (if whole then some (String.ofList done.reverse) else none, r)
  | '\\' :: 'u' :: a :: b :: c :: d :: r =>
    match unit? a b c d with
    | none => none
    | some n =>
      if isHighSurrogate n then
        match _h : lowSurrogate? r with
        | some (m, r') =>
          readString (Char.ofNat (0x10000 + (n - 0xD800) * 1024 + (m - 0xDC00)) :: done) whole r'
        | none => readString done false r
      else if isLowSurrogate n then readString done false r
      else readString (Char.ofNat n :: done) whole r
  | '\\' :: c :: r =>
    match escaped? c with
    | some c => readString (c :: done) whole r
    | none => none
  | c :: r => if c.toNat < 0x20 then none else readString (c :: done) whole r
termination_by cs.length
decreasing_by
  all_goals simp only [List.length_cons]
  · have := length_lowSurrogate? (by assumption)
    omega
  all_goals omega

theorem length_readString {done : List Char} {whole : Bool} {cs r : List Char} {s : Option String}
    (h : readString done whole cs = some (s, r)) : r.length < cs.length := by
  fun_induction readString done whole cs with
  | case1 => simp at h
  | case2 => simp_all
  | case3 => simp at h
  | case4 done whole a b c d r' n _ _ m r'' hl ih =>
    have h1 := length_lowSurrogate? hl
    have h2 := ih h
    simp only [List.length_cons]
    omega
  | case5 =>
    simp_all
    omega
  | case6 =>
    simp_all
    omega
  | case7 =>
    simp_all
    omega
  | case8 =>
    simp_all
    omega
  | case9 => simp at h
  | case10 => simp at h
  | case11 =>
    simp_all
    omega

/-- The digits behind a point. -/
def readFraction? : List Char → Option (Option (List Char) × List Char)
  | '.' :: r =>
    let (ds, r) := Number.splitDigits r
    if ds.isEmpty then none else some (some ds, r)
  | r => some (none, r)

/-- The sign and the digits behind the mark of an exponent. -/
def readExponent? (cs : List Char) : Option (Option (Bool × List Char) × List Char) :=
  match cs with
  | c :: r =>
    if c = 'e' ∨ c = 'E' then
      let (negative, r) := Number.splitSign r
      let (ds, r) := Number.splitDigits r
      if ds.isEmpty then none else some (some (negative, ds), r)
    else some (none, c :: r)
  | [] => some (none, [])

/-- A minus sign, if there is one, and the rest. -/
def splitMinus : List Char → Bool × List Char
  | '-' :: r => (true, r)
  | r => (false, r)

/-- Reads a number; a whole part of several digits does not begin with a zero. -/
def readNumber? (cs : List Char) : Option (NumberText × List Char) :=
  let sign := splitMinus cs
  let whole := Number.splitDigits sign.2
  if whole.1.isEmpty || (1 < whole.1.length && whole.1.head? = some '0') then none
  else
    match readFraction? whole.2 with
    | none => none
    | some (fraction, r) =>
      (readExponent? r).map fun (exponent, r) => (⟨sign.1, whole.1, fraction, exponent⟩, r)

/-- A token at the front of a text, and what follows. -/
def token? (cs : List Char) : Option (Token × List Char) :=
  match cs with
  | '[' :: r => some (.openArray, r)
  | ']' :: r => some (.closeArray, r)
  | '\x7b' :: r => some (.openObject, r)
  | '\x7d' :: r => some (.closeObject, r)
  | ',' :: r => some (.comma, r)
  | ':' :: r => some (.colon, r)
  | '"' :: r => (readString [] true r).map fun (s, r) => (.string s, r)
  | 'n' :: 'u' :: 'l' :: 'l' :: r => some (.null, r)
  | 't' :: 'r' :: 'u' :: 'e' :: r => some (.bool true, r)
  | 'f' :: 'a' :: 'l' :: 's' :: 'e' :: r => some (.bool false, r)
  | cs => (readNumber? cs).map fun (n, r) => (.number n, r)

theorem length_splitDigits (cs : List Char) :
    (Number.splitDigits cs).1.length + (Number.splitDigits cs).2.length = cs.length := by
  rw [← List.length_append, Number.splitDigits_append]

theorem length_readFraction? {cs r : List Char} {f : Option (List Char)}
    (h : readFraction? cs = some (f, r)) : r.length ≤ cs.length := by
  unfold readFraction? at h
  split at h
  · rename_i r'
    have := length_splitDigits r'
    grind
  · grind

theorem length_splitSign_le (cs : List Char) : (Number.splitSign cs).2.length ≤ cs.length := by
  unfold Number.splitSign
  split <;> simp

theorem length_readExponent? {cs r : List Char} {e : Option (Bool × List Char)}
    (h : readExponent? cs = some (e, r)) : r.length ≤ cs.length := by
  unfold readExponent? at h
  split at h
  · rename_i c r'
    have h1 := length_splitSign_le r'
    have h2 := length_splitDigits (Number.splitSign r').2
    grind
  · grind

theorem length_splitMinus_le (cs : List Char) : (splitMinus cs).2.length ≤ cs.length := by
  unfold splitMinus
  split <;> simp

theorem length_readNumber? {cs r : List Char} {n : NumberText} (h : readNumber? cs = some (n, r)) :
    r.length < cs.length := by
  have h0 := length_splitMinus_le cs
  have h1 := length_splitDigits (splitMinus cs).2
  simp only [readNumber?] at h
  split at h
  · simp at h
  · rename_i hw
    have hp : 0 < (Number.splitDigits (splitMinus cs).2).1.length := by
      rcases Nat.eq_zero_or_pos (Number.splitDigits (splitMinus cs).2).1.length with hz | hz
      · rw [List.length_eq_zero_iff] at hz
        simp [hz] at hw
      · exact hz
    split at h
    · simp at h
    · rename_i hf
      have h2 := length_readFraction? hf
      obtain ⟨q, he, hq⟩ := Option.map_eq_some_iff.1 h
      have h3 := length_readExponent? (e := q.1) (r := q.2) he
      simp only [Prod.mk.injEq] at hq
      rw [← hq.2]
      omega

/-- Every token takes characters. -/
theorem length_token? {cs r : List Char} {t : Token} (h : token? cs = some (t, r)) :
    r.length < cs.length := by
  unfold token? at h
  split at h
  case h_7 r' =>
    obtain ⟨p, hp, he⟩ := Option.map_eq_some_iff.1 h
    have := length_readString (s := p.1) (r := p.2) hp
    simp only [Prod.mk.injEq] at he
    simp only [List.length_cons, ← he.2]
    omega
  case h_11 =>
    obtain ⟨p, hp, he⟩ := Option.map_eq_some_iff.1 h
    have := length_readNumber? (n := p.1) (r := p.2) hp
    simp only [Prod.mk.injEq] at he
    simpa [← he.2] using this
  all_goals
    simp only [Option.some.injEq, Prod.mk.injEq] at h
    simp only [List.length_cons, ← h.2]
    omega

/-- Reads tokens behind those in `done`, the last of which stands first. -/
def tokensOnto (done : List Token) (cs : List Char) : Option (List Token) :=
  match _h : cs.dropWhile isSpace with
  | [] => some done.reverse
  | c :: r =>
    match _ht : token? (c :: r) with
    | none => none
    | some (t, rest) => tokensOnto (t :: done) rest
termination_by cs.length
decreasing_by
  have h1 := length_token? _ht
  have h2 := (List.dropWhile_sublist isSpace (l := cs)).length_le
  rw [_h] at h2
  omega

/-- The tokens of a text. -/
def tokens? (cs : List Char) : Option (List Token) := tokensOnto [] cs

end WebScript.Json
