import WebScript.Form.Search

/-!
# Where a word is found

* `offset?_eq`: a word is found where the bytes before it end.
* `splitAt?_append`: what no occurrence begins in is passed over.
* `splitAt?_of_head_once`: **a word whose first byte does not come again in it** is found behind
  any bytes it does not stand in, whatever these end with.
* `splitAt?_append_right`, `splitAt?_take_eq_none`: **a word that has been found** is found there
  whatever follows it, and is not found before all of it has come.
-/

namespace WebScript.Bytes

variable {word front back r : Bytes} {b : UInt8}

theorem offsetFrom?_add (word : Bytes) (k n : Nat) (bs : Bytes) :
    offsetFrom? word (n + k) bs = (offsetFrom? word n bs).map (· + k) := by
  induction bs generalizing n with
  | nil =>
    rw [offsetFrom?, offsetFrom?]
    split <;> rfl
  | cons b r ih =>
    rw [offsetFrom?, offsetFrom?, Nat.add_right_comm, ih]
    split <;> rfl

/-- A word is found where the bytes before it end. -/
theorem offset?_eq (hword : word ≠ []) :
    offset? word r = (splitAt? word r).map fun p => p.1.length := by
  have hpos : 0 < word.length := List.length_pos_iff.2 hword
  cases hoffset : offset? word r with
  | none => rw [splitAt?, hoffset, Option.map_none]
  | some n =>
    have hsplit : splitAt? word r = some (r.take n, r.drop (n + word.length)) := by
      rw [splitAt?, hoffset]
    have hlength := congrArg List.length (eq_of_splitAt? hsplit)
    simp only [List.length_append, List.length_take, List.length_drop] at hlength
    rw [hsplit, Option.map_some, List.length_take, Nat.min_eq_left (by omega)]

theorem splitAt?_self_append (word back : Bytes) :
    splitAt? word (word ++ back) = some ([], back) := by
  have ho : offset? word (word ++ back) = some 0 := by
    cases word with
    | nil => cases back <;> rfl
    | cons b w =>
      rw [offset?, List.cons_append, offsetFrom?, if_pos (by simp)]
  rw [splitAt?, ho]
  simp

theorem splitAt?_cons (h : ¬ word <+: b :: r) :
    splitAt? word (b :: r) = (splitAt? word r).map fun p => (b :: p.1, p.2) := by
  have hp : word.isPrefixOf (b :: r) = false := by
    rw [← Bool.not_eq_true, List.isPrefixOf_iff_prefix]
    exact h
  have ho : offset? word (b :: r) = (offset? word r).map (· + 1) := by
    rw [offset?, offsetFrom?, if_neg (by simp [hp]), offsetFrom?_add word 1 0 r]
    rfl
  rw [splitAt?, splitAt?, ho]
  cases offset? word r with
  | none => rfl
  | some n => simp [Nat.add_right_comm]

/-- What no occurrence begins in is passed over. -/
theorem splitAt?_append (h : ∀ i < front.length, ¬ word <+: (front ++ r).drop i) :
    splitAt? word (front ++ r) = (splitAt? word r).map fun p => (front ++ p.1, p.2) := by
  induction front with
  | nil => simp
  | cons b front ih =>
    have h0 : ¬ word <+: b :: (front ++ r) := h 0 (by simp)
    have hrest : ∀ i < front.length, ¬ word <+: (front ++ r).drop i := by
      intro i hi
      exact h (i + 1) (by simpa using hi)
    rw [List.cons_append, splitAt?_cons h0, ih hrest, Option.map_map]
    rfl

/-- No occurrence begins where the first byte of the word does not stand. -/
theorem splitAt?_append_of_not_mem (hw : word.head? = some b) (h : b ∉ front) :
    splitAt? word (front ++ r) = (splitAt? word r).map fun p => (front ++ p.1, p.2) := by
  refine splitAt?_append fun i hi hp => ?_
  obtain ⟨tail, rfl⟩ := List.head?_eq_some_iff.1 hw
  rw [List.drop_append_of_le_length (Nat.le_of_lt hi), List.drop_eq_getElem_cons hi] at hp
  obtain ⟨hb, -⟩ := List.cons_prefix_cons.1 hp
  exact h (hb ▸ List.getElem_mem hi)

/-- **A word whose first byte does not come again in it** is found behind any bytes it does not
stand in: an occurrence that began in these would have its first byte once more where the word
begins. -/
theorem splitAt?_of_head_once (hw : word.head? = some b) (hb : b ∉ word.tail)
    (h : ¬ word <:+: front) : splitAt? word (front ++ (word ++ back)) = some (front, back) := by
  suffices hpass : ∀ i < front.length, ¬ word <+: (front ++ (word ++ back)).drop i by
    rw [splitAt?_append hpass, splitAt?_self_append, Option.map_some, List.append_nil]
  intro i hi ⟨t, ht⟩
  obtain ⟨tail, rfl⟩ := List.head?_eq_some_iff.1 hw
  rw [List.drop_append_of_le_length (Nat.le_of_lt hi)] at ht
  rcases List.append_eq_append_iff.1 ht with ⟨u, hu, -⟩ | ⟨u, hu, hback⟩
  · exact h ⟨front.take i, u, by rw [List.append_assoc, ← hu, List.take_append_drop]⟩
  · -- the word is an end of `front` and some `u`, which begins as the word does
    rw [List.drop_eq_getElem_cons hi, List.cons_append, List.cons.injEq] at hu
    cases u with
    | nil =>
      refine h ⟨front.take i, [], ?_⟩
      rw [hu.1, hu.2, List.append_nil, List.append_nil, ← List.drop_eq_getElem_cons hi,
        List.take_append_drop]
    | cons c u =>
      rw [List.cons_append, List.cons_append, List.cons.injEq] at hback
      refine hb ?_
      rw [List.tail_cons, hu.2, hback.1]
      exact List.mem_append_right _ List.mem_cons_self

/-! ## The word that has been found -/

/-- What is found is the first occurrence: none begins before it. -/
theorem not_prefix_of_splitAt? {bs : Bytes} (h : splitAt? word bs = some (front, back)) :
    ∀ i < front.length, ¬ word <+: bs.drop i := by
  induction bs generalizing front with
  | nil =>
    have hnil := congrArg List.length (eq_of_splitAt? h)
    simp only [List.length_nil, List.length_append] at hnil
    intro i hi
    omega
  | cons b bs ih =>
    by_cases hp : word <+: b :: bs
    · -- the word stands in front, so nothing does before it
      obtain ⟨t, ht⟩ := hp
      rw [← ht, splitAt?_self_append] at h
      cases h
      intro i hi
      exact absurd hi (Nat.not_lt_zero i)
    · rw [splitAt?_cons hp] at h
      obtain ⟨⟨front', back'⟩, hrest, he⟩ := Option.map_eq_some_iff.1 h
      cases he
      intro i hi
      cases i with
      | zero => exact hp
      | succ i => exact ih hrest i (Nat.lt_of_succ_lt_succ hi)

/-- The first occurrence is told from the bytes up to its end. -/
theorem not_prefix_drop_of_splitAt? {bs : Bytes} (h : splitAt? word bs = some (front, back))
    {i : Nat} (hi : i < front.length) : ¬ word <+: (front ++ word).drop i := by
  intro hp
  have hle : i ≤ (front ++ word).length := by
    rw [List.length_append]
    omega
  refine not_prefix_of_splitAt? h i hi ?_
  rw [eq_of_splitAt? h, List.drop_append_of_le_length hle]
  exact List.prefix_append_of_prefix hp

/-- **A word that has been found is found there whatever follows it.** -/
theorem splitAt?_append_right {bs : Bytes} (h : splitAt? word bs = some (front, back))
    (r : Bytes) : splitAt? word (front ++ (word ++ r)) = some (front, r) := by
  have hpass : ∀ i < front.length, ¬ word <+: (front ++ (word ++ r)).drop i := by
    intro i hi hp
    have hle : i ≤ (front ++ word).length := by
      rw [List.length_append]
      omega
    have hlen : word.length ≤ ((front ++ word).drop i).length := by
      rw [List.length_drop, List.length_append]
      omega
    rw [← List.append_assoc, List.drop_append_of_le_length hle] at hp
    refine not_prefix_drop_of_splitAt? h hi ?_
    exact List.prefix_of_prefix_length_le hp (List.prefix_append _ r) hlen
  rw [splitAt?_append hpass, splitAt?_self_append, Option.map_some, List.append_nil]

/-- **A word is not found before all of it has come.** -/
theorem splitAt?_take_eq_none {bs : Bytes} (h : splitAt? word bs = some (front, back)) {k : Nat}
    (hk : k < (front ++ word).length) : splitAt? word ((front ++ word).take k) = none := by
  cases he : splitAt? word ((front ++ word).take k) with
  | none => rfl
  | some p =>
    exfalso
    obtain ⟨early, rest⟩ := p
    have hcut := eq_of_splitAt? he
    have hlen := congrArg List.length hcut
    rw [List.length_take_of_le (Nat.le_of_lt hk), List.length_append, List.length_append] at hlen
    rw [List.length_append] at hk
    -- an occurrence that ends before the first one also begins before it
    refine not_prefix_drop_of_splitAt? h (i := early.length) (by omega) ?_
    have hp : word <+: ((front ++ word).take k).drop early.length := by
      rw [hcut, List.append_assoc, List.drop_left]
      exact List.prefix_append word rest
    rw [List.drop_take] at hp
    exact hp.trans (List.take_prefix _ _)

end WebScript.Bytes
