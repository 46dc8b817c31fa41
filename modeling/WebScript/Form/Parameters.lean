import WebScript.Text.Blank
import WebScript.Text.Case
import WebScript.Text.Cut

/-!
# Header parameters

The parameters of a header value such as `form-data; name="a"; filename=b.txt`: keys with values
that are bare or in double quotes. Inside quotes a semicolon belongs to the value, and a
backslash lets the next character stand for itself.

* `parameters`: the keys, in lower case, with their values, in order.
-/

namespace WebScript.Form

/-- Reads a quoted value up to the closing quote, and gives what follows; a quote that is never
closed ends with the text. -/
def readQuoted : List Char → List Char × List Char
  | [] => ([], [])
  | '"' :: r => ([], r)
  | '\\' :: c :: r => let (v, rest) := readQuoted r; (c :: v, rest)
  | '\\' :: [] => ([], [])
  | c :: r => let (v, rest) := readQuoted r; (c :: v, rest)

theorem length_readQuoted_le (cs : List Char) : (readQuoted cs).2.length ≤ cs.length := by
  fun_induction readQuoted cs <;> simp_all <;> omega

/-- Reads a value, quoted or up to the next semicolon, and gives what follows. -/
def readValue (cs : List Char) : List Char × List Char :=
  match Text.trimStart cs with
  | '"' :: r => readQuoted r
  | r => (Text.trimEnd (r.takeWhile (· ≠ ';')), r.dropWhile (· ≠ ';'))

theorem length_readValue_le (cs : List Char) : (readValue cs).2.length ≤ cs.length := by
  have ht : (Text.trimStart cs).length ≤ cs.length := (List.dropWhile_sublist _).length_le
  unfold readValue
  split
  · rename_i r h
    have := length_readQuoted_le r
    rw [h, List.length_cons] at ht
    omega
  · exact Nat.le_trans (List.dropWhile_sublist _).length_le ht

/-- What may stand between parameters. -/
def isGap (c : Char) : Bool := c == ';' || Text.isBlank c

/-- A key ends at an equals sign or a semicolon. -/
def isKeyChar (c : Char) : Bool := c != '=' && c != ';'

/-- The key that stands in front, trimmed and in lower case. -/
def keyOf (cs : List Char) : String :=
  String.ofList ((Text.trim (cs.takeWhile isKeyChar)).map Char.toLower)

/-- What follows the key that stands in front. -/
def afterKey (cs : List Char) : List Char := cs.dropWhile isKeyChar

theorem length_afterKey_le (cs : List Char) : (afterKey cs).length ≤ cs.length :=
  (List.dropWhile_sublist _).length_le

/-- A text that begins with no gap begins with a key or with an equals sign. -/
theorem length_afterKey_lt {c : Char} {r : List Char} (hc : isGap c = false)
    (h : (afterKey (c :: r)).head? ≠ some '=') : (afterKey (c :: r)).length < (c :: r).length := by
  by_cases hk : isKeyChar c
  · have := length_afterKey_le r
    unfold afterKey at this ⊢
    rw [List.dropWhile_cons_of_pos hk, List.length_cons]
    omega
  · rw [afterKey, List.dropWhile_cons_of_neg hk, List.head?_cons] at h
    simp [isKeyChar] at hk
    simp [isGap] at hc
    exact absurd (hk fun he => h (he ▸ rfl)) hc.1

/-- Reads the parameters that follow a semicolon. A key without an equals sign is passed over,
and so is a value without a key. -/
def scanParameters (cs : List Char) : List (String × String) :=
  match _hs : cs.dropWhile isGap with
  | [] => []
  | c :: r =>
    if _h : (afterKey (c :: r)).head? = some '=' then
      let key := keyOf (c :: r)
      let value := readValue ((afterKey (c :: r)).drop 1)
      if key.isEmpty then scanParameters value.2
      else (key, String.ofList value.1) :: scanParameters value.2
    else scanParameters (afterKey (c :: r))
termination_by cs.length
decreasing_by
  all_goals
    have hl := (List.dropWhile_sublist isGap (l := cs)).length_le
    rw [_hs] at hl
    have h1 := length_afterKey_le (c :: r)
  · have h2 := length_readValue_le ((afterKey (c :: r)).drop 1)
    have h3 : 0 < (afterKey (c :: r)).length := by
      cases hk : afterKey (c :: r) <;> simp_all
    rw [List.length_drop] at h2
    omega
  · have h2 := length_readValue_le ((afterKey (c :: r)).drop 1)
    have h3 : 0 < (afterKey (c :: r)).length := by
      cases hk : afterKey (c :: r) <;> simp_all
    rw [List.length_drop] at h2
    omega
  · have hc : isGap c = false := by
      have := List.head?_dropWhile_not isGap cs
      rw [_hs] at this
      simpa using this
    have h2 := length_afterKey_lt hc _h
    omega

/-- The parameters of a header value: everything after its first semicolon. -/
def parameters (value : String) : List (String × String) :=
  match Text.cut (· = ';') value.toList with
  | (_, some r) => scanParameters r
  | (_, none) => []

/-- What stands before the first semicolon of a header value, trimmed and in lower case. -/
def mediaType (value : String) : String :=
  String.ofList ((Text.trim (Text.cut (· = ';') value.toList).1).map Char.toLower)

end WebScript.Form
