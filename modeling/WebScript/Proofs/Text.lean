import Mathlib.Data.List.TakeWhile
import WebScript.Text.Blank
import WebScript.Text.Cut

/-!
# Trimming and cutting

* `toNat_of_isAlphanum`: letters and digits are visible.
* `trim_eq_self`: trimming leaves a text that neither begins nor ends with white space.
* `exists_trim`, `head?_trim`, `getLast?_trim`: **what trimming leaves is such a text**, with white
  space around it; `trim_append_blank`, `trim_blank_append`: which is not looked at.
* `cut_append_cons`, `cut_of_not_mem`: a text is cut at its first separator, if it has one.
* `span_append`: a text is cut where a class of characters ends.
* `fst_cut`, `eq_append_of_cut`: what stands before the separator, and what behind it.
* `cut_eq_some_iff`, `cutLast_eq_some_iff`: **the parts round the first, and round the last, of the
  separators**.
* `after?_eq_none_iff`: a word is found exactly where it stands.
* `of_mem_splitOnP`, `of_mem_intercalate`: what the pieces between separators are made of, and what a
  text put together from pieces.
* `nil_mem_splitOn_iff`: **which texts have an empty piece.**
-/

namespace WebScript.Text

variable {p : Char → Bool} {c : Char} {cs r : List Char}

/-- Letters and digits are visible ASCII characters. -/
theorem toNat_of_isAlphanum (h : c.isAlphanum = true) : 0x20 < c.toNat ∧ c.toNat < 0x7F := by
  have hranges : (decide ('A'.val ≤ c.val ∧ c.val ≤ 'Z'.val) ||
      ('a'.val ≤ c.val && c.val ≤ 'z'.val) || ('0'.val ≤ c.val && c.val ≤ '9'.val)) = true := h
  simp only [Bool.or_eq_true, Bool.and_eq_true, decide_eq_true_eq, UInt32.le_iff_toNat_le,
    Char.toNat_val] at hranges
  have hends : 'A'.toNat = 65 ∧ 'Z'.toNat = 90 ∧ 'a'.toNat = 97 ∧ 'z'.toNat = 122 ∧
      '0'.toNat = 48 ∧ '9'.toNat = 57 := by decide
  omega

theorem trimStart_eq_self (h : ∀ c ∈ cs.head?, isBlank c = false) : trimStart cs = cs := by
  cases cs with
  | nil => rfl
  | cons c r =>
    have hc : isBlank c = false := h c rfl
    rw [trimStart, List.dropWhile_cons_of_neg (by rw [hc]; exact Bool.false_ne_true)]

theorem trimEnd_eq_self (h : ∀ c ∈ cs.getLast?, isBlank c = false) : trimEnd cs = cs := by
  have hr : trimStart cs.reverse = cs.reverse := by
    apply trimStart_eq_self
    rw [List.head?_reverse]
    exact h
  rw [trimEnd, ← trimStart, hr, List.reverse_reverse]

theorem trim_eq_self (h : ∀ c ∈ cs.head?, isBlank c = false)
    (h' : ∀ c ∈ cs.getLast?, isBlank c = false) : trim cs = cs := by
  rw [trim, trimStart_eq_self h, trimEnd_eq_self h']

theorem trim_blank_cons (hc : isBlank c = true) : trim (c :: cs) = trim cs := by
  rw [trim, trimStart, List.dropWhile_cons_of_pos hc, ← trimStart, ← trim]

theorem trim_blank_append (h : ∀ c ∈ r, isBlank c = true) : trim (r ++ cs) = trim cs := by
  rw [trim, trimStart, List.dropWhile_append_of_pos h, ← trimStart, ← trim]

theorem trimEnd_append_blank (h : ∀ c ∈ r, isBlank c = true) : trimEnd (cs ++ r) = trimEnd cs := by
  have hr : ∀ c ∈ r.reverse, isBlank c = true := fun c hc => h c (List.mem_reverse.1 hc)
  rw [trimEnd, List.reverse_append, List.dropWhile_append_of_pos hr, ← trimEnd]

theorem trim_append_blank (h : ∀ c ∈ r, isBlank c = true) : trim (cs ++ r) = trim cs := by
  have hr : r.dropWhile isBlank = [] := List.dropWhile_eq_nil_iff.2 h
  rw [trim, trimStart, List.dropWhile_append]
  split
  · rename_i hnil
    rw [hr, trim, trimStart, List.isEmpty_iff.1 hnil]
  · rw [trimEnd_append_blank h, ← trimStart, ← trim]

/-- Trimming at the end stops at the last character that is no white space. -/
theorem trimEnd_append_cons (hc : isBlank c = false) :
    trimEnd (cs ++ c :: r) = cs ++ c :: trimEnd r := by
  have hstop : (c :: cs.reverse).dropWhile isBlank = c :: cs.reverse :=
    List.dropWhile_cons_of_neg (by rw [hc]; exact Bool.false_ne_true)
  have hrev : (cs ++ c :: r).reverse = r.reverse ++ c :: cs.reverse := by simp
  rw [trimEnd, trimEnd, hrev, List.dropWhile_append]
  split
  · rename_i hnil
    rw [hstop, List.isEmpty_iff.1 hnil]
    simp
  · simp

theorem exists_trimEnd (cs : List Char) :
    ∃ after, cs = trimEnd cs ++ after ∧ ∀ c ∈ after, isBlank c = true := by
  refine ⟨(cs.reverse.takeWhile isBlank).reverse, ?_, fun c hc => ?_⟩
  · rw [trimEnd, ← List.reverse_append, List.takeWhile_append_dropWhile, List.reverse_reverse]
  · exact List.mem_takeWhile_imp (List.mem_reverse.1 hc)

theorem trim_trimEnd (cs : List Char) : trim (trimEnd cs) = trim cs := by
  obtain ⟨after, hafter, hblank⟩ := exists_trimEnd cs
  have happend : trim (trimEnd cs ++ after) = trim (trimEnd cs) := trim_append_blank hblank
  rw [← hafter] at happend
  exact happend.symm

/-- **White space stands around what trimming leaves.** -/
theorem exists_trim (cs : List Char) : ∃ before after, cs = before ++ trim cs ++ after ∧
    (∀ c ∈ before, isBlank c = true) ∧ ∀ c ∈ after, isBlank c = true := by
  obtain ⟨after, hafter, hblank⟩ := exists_trimEnd (trimStart cs)
  refine ⟨cs.takeWhile isBlank, after, ?_, fun c hc => List.mem_takeWhile_imp hc, hblank⟩
  rw [List.append_assoc, trim, ← hafter, trimStart, List.takeWhile_append_dropWhile]

theorem getLast?_trim (cs : List Char) : ∀ c ∈ (trim cs).getLast?, isBlank c = false := by
  intro c hc
  rw [trim, trimEnd, List.getLast?_reverse] at hc
  have hstop := List.head?_dropWhile_not isBlank (trimStart cs).reverse
  rw [hc] at hstop
  simpa using hstop

theorem head?_trim (cs : List Char) : ∀ c ∈ (trim cs).head?, isBlank c = false := by
  intro c hc
  obtain ⟨r, hr⟩ := List.head?_eq_some_iff.1 hc
  obtain ⟨after, hafter, -⟩ := exists_trimEnd (trimStart cs)
  have hstop := List.head?_dropWhile_not isBlank cs
  rw [← trimStart, hafter, ← trim, hr] at hstop
  simpa using hstop

/-- Characters of a class in front of a text that does not begin with one. -/
theorem span_append (h : ∀ c ∈ cs, p c = true) (hr : ∀ c ∈ r.head?, p c = false) :
    (cs ++ r).takeWhile p = cs ∧ (cs ++ r).dropWhile p = r := by
  rw [List.takeWhile_append_of_pos h, List.dropWhile_append_of_pos h]
  cases r with
  | nil => exact ⟨List.append_nil cs, rfl⟩
  | cons c r =>
    have hc : ¬ p c = true := by
      rw [hr c rfl]
      exact Bool.false_ne_true
    rw [List.takeWhile_cons_of_neg hc, List.dropWhile_cons_of_neg hc]
    exact ⟨List.append_nil cs, rfl⟩

theorem fst_cut (p : Char → Bool) (cs : List Char) : (cut p cs).1 = cs.takeWhile (! p ·) := by
  have hcs : cs.takeWhile (! p ·) ++ cs.dropWhile (! p ·) = cs := List.takeWhile_append_dropWhile
  unfold cut
  split
  · rename_i h
    rw [h, List.append_nil] at hcs
    exact hcs.symm
  · rfl

/-- What follows a separator stands behind it in the text. -/
theorem eq_append_of_cut (p : Char → Bool) (cs : List Char) (h : (cut p cs).2 = some r) :
    ∃ c, p c = true ∧ cs = (cut p cs).1 ++ c :: r := by
  have hcs : cs.takeWhile (! p ·) ++ cs.dropWhile (! p ·) = cs := List.takeWhile_append_dropWhile
  rw [fst_cut]
  unfold cut at h
  split at h
  · cases h
  · rename_i c s hd
    cases h
    have hc := List.head?_dropWhile_not (! p ·) cs
    rw [hd] at hc hcs
    exact ⟨c, by simpa using hc, hcs.symm⟩

theorem cut_of_not_mem (h : ∀ c ∈ cs, p c = false) : cut p cs = (cs, none) := by
  have hd : cs.dropWhile (! p ·) = [] := by
    rw [List.dropWhile_eq_nil_iff]
    intro c hc
    rw [h c hc]
    rfl
  rw [cut, hd]

theorem cut_append_cons (h : ∀ c ∈ cs, p c = false) (hc : p c = true) :
    cut p (cs ++ c :: r) = (cs, some r) := by
  have hpass : ∀ d ∈ cs, (! p d) = true := by
    intro d hd
    rw [h d hd]
    rfl
  have hd : (cs ++ c :: r).dropWhile (! p ·) = c :: r := by
    rw [List.dropWhile_append_of_pos hpass]
    simp [hc]
  have ht : (cs ++ c :: r).takeWhile (! p ·) = cs := by
    rw [List.takeWhile_append_of_pos hpass]
    simp [hc]
  rw [cut, hd, ht]

/-- **The first separator**: none stands before it. -/
theorem cut_eq_some_iff {front : List Char} :
    cut (· = c) cs = (front, some r) ↔ cs = front ++ c :: r ∧ c ∉ front := by
  constructor
  · intro h
    have hfront : front = cs.takeWhile (fun d => ! decide (d = c)) := by rw [← fst_cut, h]
    have hsome : (cut (· = c) cs).2 = some r := by rw [h]
    obtain ⟨d, hd, hcs⟩ := eq_append_of_cut _ cs hsome
    obtain rfl : d = c := of_decide_eq_true hd
    rw [h] at hcs
    refine ⟨hcs, fun hm => ?_⟩
    rw [hfront] at hm
    simpa using List.mem_takeWhile_imp hm
  · rintro ⟨rfl, hm⟩
    refine cut_append_cons (fun d hd => decide_eq_false ?_) (decide_eq_true rfl)
    rintro rfl
    exact hm hd

/-- A piece of a text has characters of it, and no separator. -/
theorem of_mem_splitOnP {p : Char → Bool} {piece : List Char} (h : piece ∈ cs.splitOnP p) :
    ∀ c ∈ piece, c ∈ cs ∧ p c = false := by
  induction cs generalizing piece with
  | nil =>
    obtain rfl : piece = [] := List.mem_singleton.1 h
    exact fun _ hc => absurd hc List.not_mem_nil
  | cons a cs ih =>
    rw [List.splitOnP_cons_eq_if_modifyHead] at h
    split at h
    · rcases List.mem_cons.1 h with rfl | h
      · exact fun _ hc => absurd hc List.not_mem_nil
      · exact fun c hc => ⟨List.mem_cons_of_mem a (ih h c hc).1, (ih h c hc).2⟩
    · rename_i ha
      obtain ⟨first, rest, hs⟩ := List.exists_cons_of_ne_nil (List.splitOnP_ne_nil p cs)
      rw [hs] at ih h
      rcases List.mem_cons.1 h with rfl | h
      · intro c hc
        rcases List.mem_cons.1 hc with rfl | hc
        · exact ⟨List.mem_cons_self, Bool.eq_false_iff.2 ha⟩
        · have hfirst := ih List.mem_cons_self c hc
          exact ⟨List.mem_cons_of_mem a hfirst.1, hfirst.2⟩
      · have hrest := ih (List.mem_cons_of_mem first h)
        exact fun c hc => ⟨List.mem_cons_of_mem a (hrest c hc).1, (hrest c hc).2⟩

/-- A text put together from pieces has characters of them, and separators. -/
theorem of_mem_intercalate {α : Type} {a x : α} {ls : List (List α)}
    (h : a ∈ [x].intercalate ls) : a = x ∨ ∃ l ∈ ls, a ∈ l := by
  induction ls with
  | nil => cases h
  | cons l ls ih =>
    cases ls with
    | nil =>
      rw [List.intercalate_singleton] at h
      exact .inr ⟨l, List.mem_cons_self, h⟩
    | cons l' ls =>
      rw [List.intercalate_cons_cons, List.mem_append, List.mem_append, List.mem_singleton] at h
      rcases h with (h | h) | h
      · exact .inr ⟨l, List.mem_cons_self, h⟩
      · exact .inl h
      · rcases ih h with h | ⟨l'', hl, h⟩
        · exact .inl h
        · exact .inr ⟨l'', List.mem_cons_of_mem l hl, h⟩

theorem head?_splitOn_eq_nil_iff (c : Char) (cs : List Char) :
    (cs.splitOn c).head? = some [] ↔ cs = [] ∨ cs.head? = some c := by
  cases cs with
  | nil => simp
  | cons a cs =>
    obtain ⟨first, rest, hs⟩ := List.exists_cons_of_ne_nil (List.splitOn_ne_nil c cs)
    rw [List.splitOn_cons_eq_if_modifyHead, hs]
    by_cases ha : a = c
    · simp [ha]
    · simp [ha]

theorem nil_mem_tail_splitOn_iff (c : Char) (cs : List Char) :
    [] ∈ (cs.splitOn c).tail ↔ cs.getLast? = some c ∨ [c, c] <:+: cs := by
  induction cs with
  | nil => simp
  | cons a cs ih =>
    have hlast : (a :: cs).getLast? = some c ↔ cs = [] ∧ a = c ∨ cs.getLast? = some c := by
      cases cs with
      | nil => simp
      | cons b cs => simp [List.getLast?_cons_cons]
    have hinfix : [c, c] <:+: a :: cs ↔ a = c ∧ cs.head? = some c ∨ [c, c] <:+: cs := by
      rw [List.infix_cons_iff, List.cons_prefix_cons, List.singleton_prefix_iff_head?_eq_some,
        eq_comm (a := c)]
    have hhead := head?_splitOn_eq_nil_iff c cs
    obtain ⟨first, rest, hs⟩ := List.exists_cons_of_ne_nil (List.splitOn_ne_nil c cs)
    rw [hs, List.head?_cons, Option.some_inj] at hhead
    rw [hs, List.tail_cons] at ih
    rw [List.splitOn_cons_eq_if_modifyHead, hs, hlast, hinfix]
    by_cases ha : a = c
    · -- the pieces behind this separator, the first of which may be empty
      rw [if_pos (beq_iff_eq.2 ha), List.tail_cons, List.mem_cons, ih, eq_comm, hhead]
      simp only [ha, and_true, true_and, or_assoc, or_left_comm]
    · rw [if_neg (beq_iff_eq.not.2 ha), List.modifyHead_cons, List.tail_cons, ih]
      simp only [ha, and_false, false_and, false_or]

/-- **An empty piece** stands before a separator in front, behind one at the end, or between two in a
row. -/
theorem nil_mem_splitOn_iff : [] ∈ cs.splitOn c ↔
    cs = [] ∨ cs.head? = some c ∨ cs.getLast? = some c ∨ [c, c] <:+: cs := by
  obtain ⟨first, rest, hs⟩ := List.exists_cons_of_ne_nil (List.splitOn_ne_nil c cs)
  have hhead := head?_splitOn_eq_nil_iff c cs
  have htail := nil_mem_tail_splitOn_iff c cs
  rw [hs, List.head?_cons, Option.some_inj] at hhead
  rw [hs, List.tail_cons] at htail
  rw [hs, List.mem_cons, htail, eq_comm, hhead, or_assoc]

/-- A word is found exactly if it stands somewhere. -/
theorem after?_eq_none_iff {word : List Char} : after? word cs = none ↔ ¬ word <:+: cs := by
  induction cs with
  | nil =>
    rw [after?, List.infix_nil]
    split <;> simp_all
  | cons c cs ih =>
    rw [after?, List.infix_cons_iff, ← List.isPrefixOf_iff_prefix, not_or]
    split
    · rename_i h
      simp [h]
    · rename_i h
      rw [ih]
      simp [h]

theorem cutLast_of_not_mem (h : ∀ c ∈ cs, p c = false) : cutLast p cs = none := by
  rw [cutLast, cut_of_not_mem fun c hc => h c (List.mem_reverse.1 hc)]

/-- **The last separator**: none stands behind it. -/
theorem cutLast_eq_some_iff {front back : List Char} :
    cutLast (· = c) cs = some (front, back) ↔ cs = front ++ c :: back ∧ c ∉ back := by
  have hcut : cutLast (· = c) cs = some (front, back) ↔
      cut (· = c) cs.reverse = (back.reverse, some front.reverse) := by
    unfold cutLast
    split
    · rename_i hnone
      rw [hnone]
      simp
    · rename_i before behind hsome
      rw [hsome]
      simp [List.reverse_eq_iff, and_comm]
  rw [hcut, cut_eq_some_iff, List.reverse_eq_iff, List.mem_reverse]
  simp

theorem of_cutLast_eq_none (h : cutLast p cs = none) : ∀ c ∈ cs, p c = false := by
  unfold cutLast cut at h
  cases hd : cs.reverse.dropWhile (! p ·) with
  | nil =>
    intro c hc
    have hall := List.dropWhile_eq_nil_iff.1 hd c (List.mem_reverse.2 hc)
    simpa using hall
  | cons c r =>
    rw [hd] at h
    cases h

/-- No separator stands behind the last one. -/
theorem not_of_mem_cutLast {front back : List Char} (h : cutLast p cs = some (front, back)) :
    ∀ c ∈ back, p c = false := by
  unfold cutLast at h
  split at h
  · cases h
  · rename_i back' front' hcut
    cases h
    have hback : back' = cs.reverse.takeWhile (! p ·) := by rw [← fst_cut, hcut]
    intro c hc
    rw [List.mem_reverse, hback] at hc
    simpa using List.mem_takeWhile_imp hc

theorem cutLast_sublist {front back : List Char} (h : cutLast p cs = some (front, back)) :
    back.Sublist cs := by
  unfold cutLast at h
  split at h
  · cases h
  · rename_i back' front' hcut
    cases h
    have hback : back' = cs.reverse.takeWhile (! p ·) := by rw [← fst_cut, hcut]
    rw [← List.reverse_reverse cs, List.reverse_sublist, hback]
    exact List.takeWhile_sublist _

end WebScript.Text
