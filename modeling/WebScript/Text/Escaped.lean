/-!
# Escaping for storage literals

Text that goes between quotes in a stored literal: quotes, backslashes, line breaks and the SUB
control character get a backslash in front, and a semicolon is spelled out, so that what is
written cannot end the literal it stands in.

* `Replacement`: a pattern and the text in its place; `replaceAll`: replaces in one pass from left
  to right, at each place the first pattern of a table that stands there.
* `replaceAll_eq_flatMap`: where each pattern is replaced as its characters would be one by one, so
  is every text.
* `escape`: the written form, by the table `escapes`; `escape_eq_flatMap`: it is written character
  by character.
* `unescape`: reads it back; `unescape_escape_append`: up to where other text follows.
-/

namespace WebScript.Text.Escaped

/-! ## Tables of replacements -/

/-- A pattern and the text that is written in its place. -/
structure Replacement where
  pattern : List Char
  text : List Char
  pattern_ne_nil : pattern ≠ [] := by decide

/-- The first entry of a table whose pattern begins the text. -/
def first? (table : List Replacement) (cs : List Char) : Option Replacement :=
  table.find? (·.pattern.isPrefixOf cs)

/-- Replaces from left to right, behind what has been written, last character first. A character at
which no pattern begins is kept, and what has been written is not looked at again. -/
def replaceOnto (table : List Replacement) (done : List Char) : List Char → List Char
  | [] => done.reverse
  | c :: r =>
    match first? table (c :: r) with
    | some e => replaceOnto table (e.text.reverse ++ done) ((c :: r).drop e.pattern.length)
    | none => replaceOnto table (c :: done) r
termination_by cs => cs.length
decreasing_by
  · have hpattern := List.length_pos_iff.2 e.pattern_ne_nil
    rw [List.length_drop, List.length_cons]
    omega
  · exact Nat.lt_succ_self _

/-- The text with every pattern replaced. -/
def replaceAll (table : List Replacement) (cs : List Char) : List Char := replaceOnto table [] cs

section

variable {table : List Replacement} {cs : List Char}

theorem eq_append_of_first? {e : Replacement} (h : first? table cs = some e) :
    e ∈ table ∧ cs = e.pattern ++ cs.drop e.pattern.length := by
  have hbegins := List.find?_some h
  have hprefix : e.pattern <+: cs := List.isPrefixOf_iff_prefix.1 hbegins
  exact ⟨List.mem_of_find?_eq_some h, (List.prefix_iff_eq_append.1 hprefix).symm⟩

theorem pattern_ne_of_first? {c : Char} {r : List Char} (h : first? table (c :: r) = none) :
    ∀ e ∈ table, e.pattern ≠ [c] := by
  intro e he hpattern
  have hprefix : e.pattern <+: c :: r := by
    rw [hpattern]
    exact List.prefix_append [c] r
  exact List.find?_eq_none.1 h e he (List.isPrefixOf_iff_prefix.2 hprefix)

variable {write : Char → List Char}

/-- What the pass has written at any point is what was there before, and the characters it has
read, written one by one. -/
theorem replaceOnto_eq_flatMap (hentry : ∀ e ∈ table, e.text = e.pattern.flatMap write)
    (hkept : ∀ c, (∀ e ∈ table, e.pattern ≠ [c]) → write c = [c]) (done cs : List Char) :
    replaceOnto table done cs = done.reverse ++ cs.flatMap write := by
  induction done, cs using replaceOnto.induct table with
  | case1 done => simp [replaceOnto]
  | case2 done c r e h ih =>
    obtain ⟨he, hcs⟩ := eq_append_of_first? h
    rw [replaceOnto, h]
    dsimp only
    rw [ih, hentry e he, List.reverse_append, List.reverse_reverse, List.append_assoc,
      ← List.flatMap_append, ← hcs]
  | case3 done c r h ih =>
    rw [replaceOnto, h]
    dsimp only
    rw [ih, List.flatMap_cons, hkept c (pattern_ne_of_first? h), List.reverse_cons,
      List.append_assoc]

/-- **A table that replaces each pattern as its characters** replaces every text so, however its
patterns overlap. -/
theorem replaceAll_eq_flatMap (hentry : ∀ e ∈ table, e.text = e.pattern.flatMap write)
    (hkept : ∀ c, (∀ e ∈ table, e.pattern ≠ [c]) → write c = [c]) (cs : List Char) :
    replaceAll table cs = cs.flatMap write :=
  replaceOnto_eq_flatMap hentry hkept [] cs

end

/-! ## The written form -/

/-- What is replaced. A backslash with a zero behind it is looked for before one alone. -/
def escapes : List Replacement :=
  [{ pattern := ['\\', '0'], text := ['\\', '\\', '0'] },
   { pattern := [';'], text := ['\\', 'x', '1', 'a'] },
   { pattern := ['\\'], text := ['\\', '\\'] },
   { pattern := ['\''], text := ['\\', '\''] },
   { pattern := ['\n'], text := ['\\', 'n'] },
   { pattern := ['\r'], text := ['\\', 'r'] },
   { pattern := ['"'], text := ['\\', '"'] },
   { pattern := ['\x1a'], text := ['\\', 'Z'] }]

/-- The written form of a list of characters. -/
def escape (cs : List Char) : List Char := replaceAll escapes cs

/-- How one character is written. -/
def escapeChar (c : Char) : List Char :=
  match c with
  | ';' => ['\\', 'x', '1', 'a']
  | '\\' => ['\\', '\\']
  | '\'' => ['\\', '\'']
  | '\n' => ['\\', 'n']
  | '\r' => ['\\', 'r']
  | '"' => ['\\', '"']
  | '\x1a' => ['\\', 'Z']
  | c => [c]

/-- **Each character is written on its own**, also a backslash before a zero. -/
theorem escape_eq_flatMap (cs : List Char) : escape cs = cs.flatMap escapeChar := by
  refine replaceAll_eq_flatMap (by decide) (fun c hc => ?_) cs
  unfold escapeChar
  split <;> simp_all [escapes]

theorem escape_nil : escape [] = [] := escape_eq_flatMap []

theorem escape_append (a b : List Char) : escape (a ++ b) = escape a ++ escape b := by
  simp only [escape_eq_flatMap, List.flatMap_append]

theorem escape_cons (c : Char) (r : List Char) : escape (c :: r) = escapeChar c ++ escape r := by
  simp only [escape_eq_flatMap, List.flatMap_cons]

/-! ## Reading it back -/

/-- Reads a written form; a backslash before any other character stands for itself. -/
def unescape : List Char → List Char
  | '\\' :: 'x' :: '1' :: 'a' :: r => ';' :: unescape r
  | '\\' :: '\\' :: r => '\\' :: unescape r
  | '\\' :: '\'' :: r => '\'' :: unescape r
  | '\\' :: 'n' :: r => '\n' :: unescape r
  | '\\' :: 'r' :: r => '\r' :: unescape r
  | '\\' :: '"' :: r => '"' :: unescape r
  | '\\' :: 'Z' :: r => '\x1a' :: unescape r
  | c :: r => c :: unescape r
  | [] => []

theorem unescape_escapeChar_append (c : Char) (r : List Char) :
    unescape (escapeChar c ++ r) = c :: unescape r := by
  unfold escapeChar
  split <;> simp_all [unescape]

/-- Reading what was written gives the text, and goes on behind it. -/
theorem unescape_escape_append (cs r : List Char) :
    unescape (escape cs ++ r) = cs ++ unescape r := by
  induction cs with
  | nil => rw [escape_nil, List.nil_append, List.nil_append]
  | cons c cs ih =>
    rw [escape_cons, List.append_assoc, unescape_escapeChar_append, ih, List.cons_append]

end WebScript.Text.Escaped
