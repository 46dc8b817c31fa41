import Mathlib.Algebra.Ring.Parity
import WebScript.Text.Escaped

/-!
# Escaped text in literals

A literal stands between two quotes of one kind, and a backslash in it takes the character behind
it, whatever that is. So a quote ends a literal unless the backslashes right before it are odd in
number.

* `Guarded`: no quote of the kind ends the text early, and no backslash at its end takes what
  follows.
* `readBody?_of_guarded`: **a reader of literals takes what is guarded**, up to the quote behind it.
* `guarded_escape`: escaped text is guarded against both kinds of quote.
* `escaped_text_stays_in_literal`: **escaped text cannot leave its literal**.
* `escape_context_free`: **escaping looks at no neighbours and loses nothing.**
-/

namespace WebScript

namespace Text.Escaped

/-! ## Backslashes at the end -/

/-- How many backslashes the text ends with. -/
def backslashes (cs : List Char) : Nat := (cs.reverse.takeWhile (· = '\\')).length

variable {c q : Char} {cs body rest : List Char}

/-- A character in front that is no backslash adds none at the end. -/
theorem backslashes_cons (hc : c ≠ '\\') (cs : List Char) :
    backslashes (c :: cs) = backslashes cs := by
  have hstop : [c].takeWhile (· = '\\') = [] := by simp [hc]
  rw [backslashes, List.reverse_cons, List.takeWhile_append, hstop]
  split
  · rename_i hall
    rw [List.append_nil, backslashes, hall]
  · rfl

/-- A backslash in front, and what it takes, leave the backslashes at the end even or odd. -/
theorem even_backslashes_pair (c : Char) (cs : List Char) :
    Even (backslashes ('\\' :: c :: cs)) ↔ Even (backslashes cs) := by
  have hrev : ('\\' :: c :: cs).reverse = cs.reverse ++ [c, '\\'] := by simp
  rw [backslashes, hrev, List.takeWhile_append]
  split
  · rename_i hall
    rw [List.length_append, backslashes, hall]
    by_cases hc : c = '\\'
    · have htwo : ([c, '\\'].takeWhile (· = '\\')).length = 2 := by simp [hc]
      rw [htwo]
      exact Nat.even_add.trans (iff_true_right even_two)
    · have hnone : ([c, '\\'].takeWhile (· = '\\')).length = 0 := by simp [hc]
      rw [hnone, Nat.add_zero]
  · rfl

/-! ## What cannot leave a literal -/

/-- Every quote of a kind in the text has an odd number of backslashes before it, and there is an
even number of them at the end. -/
structure Guarded (q : Char) (body : List Char) : Prop where
  quotes : ∀ front back, body = front ++ q :: back → Odd (backslashes front)
  last : Even (backslashes body)

theorem guarded_nil (q : Char) : Guarded q [] := by
  refine ⟨fun front back h => ?_, by decide⟩
  have hmem : q ∈ front ++ q :: back := by simp
  rw [← h] at hmem
  cases hmem

theorem not_guarded_backslash : ¬ Guarded q ['\\'] := by
  intro h
  exact absurd h.last (by decide)

/-- A backslash and what it takes may stand in front. -/
theorem guarded_pair_iff (hq : q ≠ '\\') :
    Guarded q ('\\' :: c :: body) ↔ Guarded q body := by
  constructor
  · intro h
    refine ⟨fun front back hbody => ?_, (even_backslashes_pair c body).1 h.last⟩
    have hodd : Odd (backslashes ('\\' :: c :: front)) := h.quotes _ back (by rw [hbody]; rfl)
    rwa [← Nat.not_even_iff_odd, even_backslashes_pair, Nat.not_even_iff_odd] at hodd
  · intro h
    refine ⟨fun front back hbody => ?_, (even_backslashes_pair c body).2 h.last⟩
    -- the quote is not the backslash; it may be the character that it takes
    cases front with
    | nil =>
      cases hbody
      exact absurd rfl hq
    | cons x front =>
      cases front with
      | nil =>
        cases hbody
        decide
      | cons y front =>
        cases hbody
        rw [← Nat.not_even_iff_odd, even_backslashes_pair, Nat.not_even_iff_odd]
        exact h.quotes front back rfl

/-- A character that is no backslash may stand in front unless it is a quote of the kind. -/
theorem guarded_cons_iff (hc : c ≠ '\\') :
    Guarded q (c :: body) ↔ c ≠ q ∧ Guarded q body := by
  constructor
  · intro h
    refine ⟨?_, fun front back hbody => ?_, ?_⟩
    · rintro rfl
      exact absurd (h.quotes [] body rfl) (by decide)
    · have hodd : Odd (backslashes (c :: front)) := h.quotes _ back (by rw [hbody]; rfl)
      rwa [backslashes_cons hc] at hodd
    · rw [← backslashes_cons hc]
      exact h.last
  · rintro ⟨hne, h⟩
    refine ⟨fun front back hbody => ?_, ?_⟩
    · cases front with
      | nil =>
        cases hbody
        exact absurd rfl hne
      | cons x front =>
        cases hbody
        rw [backslashes_cons hc]
        exact h.quotes front back rfl
    · rw [backslashes_cons hc]
      exact h.last

/-! ## Reading literals -/

/-- Reads a literal behind its first quote: what stands before the next quote of the kind, and what
follows. A backslash takes the next character. -/
def readBody? (q : Char) : List Char → Option (List Char × List Char)
  | [] => none
  | ['\\'] => none
  | '\\' :: c :: r => (readBody? q r).map fun (body, rest) => ('\\' :: c :: body, rest)
  | c :: r => if c = q then some ([], r) else
      (readBody? q r).map fun (body, rest) => (c :: body, rest)

/-- Reads a literal: what stands between its quotes, and what follows. -/
def readLiteral? : List Char → Option (List Char × List Char)
  | [] => none
  | q :: r => readBody? q r

theorem readBody?_cons (hc : c ≠ '\\') : readBody? q (c :: cs) =
    if c = q then some ([], cs) else
      (readBody? q cs).map fun (body, rest) => (c :: body, rest) := by
  rw [readBody?]
  · rintro rfl
    exact absurd rfl hc
  · rintro _ _ rfl
    exact absurd rfl hc

/-- **A reader of literals takes what is guarded**, up to the quote behind it. -/
theorem readBody?_of_guarded (hq : q ≠ '\\') (h : Guarded q body) (rest : List Char) :
    readBody? q (body ++ q :: rest) = some (body, rest) := by
  induction body using readBody?.induct q with
  | case1 => rw [List.nil_append, readBody?_cons hq, if_pos rfl]
  | case2 => exact absurd h not_guarded_backslash
  | case3 c r ih =>
    have hread := ih ((guarded_pair_iff hq).1 h)
    rw [List.cons_append, List.cons_append, readBody?, hread]
    rfl
  | case4 r hsingle hpair =>
    -- nothing takes this quote, so it is no part of what is guarded
    exact absurd rfl ((guarded_cons_iff hq).1 h).1
  | case5 c r hsingle hpair hne ih =>
    have hc : c ≠ '\\' := by
      rintro rfl
      cases r with
      | nil => exact hsingle rfl rfl
      | cons d r => exact hpair d r rfl rfl
    have hread := ih ((guarded_cons_iff hc).1 h).2
    rw [List.cons_append, readBody?_cons hc, if_neg hne, hread]
    rfl

/-! ## Escaped text -/

theorem guarded_escapeChar_append (hq : q = '\'' ∨ q = '"') (c : Char) (h : Guarded q body) :
    Guarded q (escapeChar c ++ body) := by
  have hback : q ≠ '\\' := by
    rintro rfl
    simp at hq
  have hpair (d : Char) {r : List Char} (hr : Guarded q r) : Guarded q ('\\' :: d :: r) :=
    (guarded_pair_iff hback).2 hr
  have hplain {d : Char} {r : List Char} (hd : d ≠ '\\' ∧ d ≠ '\'' ∧ d ≠ '"')
      (hr : Guarded q r) : Guarded q (d :: r) := by
    refine (guarded_cons_iff hd.1).2 ⟨?_, hr⟩
    rcases hq with rfl | rfl
    · exact hd.2.1
    · exact hd.2.2
  unfold escapeChar
  split
  case h_1 => exact hpair 'x' (hplain (by decide) (hplain (by decide) h))
  case h_8 _ hslash hsingle _ _ hdouble _ => exact hplain ⟨hslash, hsingle, hdouble⟩ h
  all_goals exact hpair _ h

/-- **Escaped text is guarded** against both kinds of quote. -/
theorem guarded_escape (hq : q = '\'' ∨ q = '"') (s : List Char) : Guarded q (escape s) := by
  induction s with
  | nil =>
    rw [escape_nil]
    exact guarded_nil q
  | cons c s ih =>
    rw [escape_cons]
    exact guarded_escapeChar_append hq c ih

theorem not_mem_escapeChar (hc : c ∈ [';', '\n', '\r', '\x1a']) (d : Char) : c ∉ escapeChar d := by
  have hcases : c = ';' ∨ c = '\n' ∨ c = '\r' ∨ c = '\x1a' := by simpa using hc
  unfold escapeChar
  split
  case h_8 hsemi _ _ hlf hcr _ hsub =>
    intro hmem
    obtain rfl : c = d := List.mem_singleton.1 hmem
    rcases hcases with h | h | h | h
    exacts [hsemi h, hlf h, hcr h, hsub h]
  all_goals rcases hcases with rfl | rfl | rfl | rfl <;> decide

theorem not_mem_escape (hc : c ∈ [';', '\n', '\r', '\x1a']) (s : List Char) : c ∉ escape s := by
  intro h
  rw [escape_eq_flatMap, List.mem_flatMap] at h
  obtain ⟨d, -, hd⟩ := h
  exact not_mem_escapeChar hc d hd

end Text.Escaped

open Text.Escaped

/-- **Escaped text cannot leave its literal.** It holds no semicolon, line break or SUB, every quote
in it has an odd number of backslashes right before it, and an even number stands at its end. So
behind a quote of either kind it is read as the body of a literal, up to the quote of the same kind
that follows it. -/
theorem escaped_text_stays_in_literal (s : List Char) :
    (∀ c ∈ [';', '\n', '\r', '\x1a'], c ∉ escape s) ∧
    (∀ q ∈ ['\'', '"'], ∀ front back, escape s = front ++ q :: back → Odd (backslashes front)) ∧
    ¬ Odd (backslashes (escape s)) ∧
    ∀ q ∈ ['\'', '"'], ∀ rest,
      readLiteral? (q :: (escape s ++ q :: rest)) = some (escape s, rest) := by
  have hguarded : ∀ q ∈ ['\'', '"'], Guarded q (escape s) := by
    intro q hq
    exact guarded_escape (by simpa using hq) s
  refine ⟨fun c hc => not_mem_escape hc s, fun q hq => (hguarded q hq).quotes, ?_, ?_⟩
  · rw [Nat.not_odd_iff_even]
    exact (hguarded '"' (by decide)).last
  · intro q hq rest
    have hback : q ≠ '\\' := by
      rintro rfl
      simp at hq
    exact readBody?_of_guarded hback (hguarded q hq) rest

/-- Text that tries to take the closing quote away and to add a statement stays inside. -/
theorem escaped_text_stays_in_literal_of_backslash :
    let s := ['a', '\'', ';', '\\']
    escape s = ['a', '\\', '\'', '\\', 'x', '1', 'a', '\\', '\\'] ∧
      readLiteral? ('\'' :: (escape s ++ '\'' :: [','])) = some (escape s, [',']) := by
  intro s
  have hwritten : escape s = ['a', '\\', '\'', '\\', 'x', '1', 'a', '\\', '\\'] := by
    rw [escape_eq_flatMap]
    decide
  obtain ⟨-, -, -, hread⟩ := escaped_text_stays_in_literal s
  exact ⟨hwritten, hread '\'' (by decide) [',']⟩

/-- **Escaping looks at no neighbours and loses nothing.** Text may be cut anywhere, also between a
backslash and a zero, and escaped in parts; the written form is read back, so that no two texts
share one. -/
theorem escape_context_free :
    (∀ a b, escape (a ++ b) = escape a ++ escape b) ∧ (∀ s, unescape (escape s) = s) ∧
      ∀ s t, escape s = escape t → s = t := by
  have hread (s : List Char) : unescape (escape s) = s := by
    have happend := unescape_escape_append s []
    rwa [List.append_nil, unescape, List.append_nil] at happend
  refine ⟨escape_append, hread, fun s t h => ?_⟩
  calc s = unescape (escape s) := (hread s).symm
    _ = unescape (escape t) := by rw [h]
    _ = t := hread t

/-- What is written for a backslash and a zero together is what is written for them apart. -/
example : escape ['\\', '0'] = escape ['\\'] ++ escape ['0'] := by cbv

end WebScript
