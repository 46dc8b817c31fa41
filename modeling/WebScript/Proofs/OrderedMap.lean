import Mathlib.Data.List.Nodup
import WebScript.OrderedMap

/-!
# Ordered maps over time

Keys keep the order in which they came in. A key that is erased and comes again goes to the end, so
what counts is when it came to stay.

* `OrderedMap.entries_insert_of_not_mem`, `OrderedMap.entries_foldl_insert`: new keys come last;
  `OrderedMap.entries_insert_of_mem`: the others keep their places.
* `OrderedMap.get?_eq_some_iff`: a lookup finds an entry.
* `Chronological`: **the keys that are present, in the order in which they came to stay**.
* `Chronological.insert`, `Chronological.erase`: one more step keeps them so.
-/

namespace WebScript

namespace OrderedMap

variable {κ ν : Type} [DecidableEq κ] {k : κ} {v w : ν} {es : List (κ × ν)} {m : OrderedMap κ ν}

theorem insertEntry_of_not_mem (h : k ∉ es.map (·.1)) : insertEntry k v es = es ++ [(k, v)] := by
  induction es with
  | nil => rfl
  | cons e r ih =>
    rw [List.map_cons, List.mem_cons, not_or] at h
    rw [insertEntry, if_neg (Ne.symm h.1), ih h.2, List.cons_append]

/-- The later of two writes to a key is the one that stays. -/
theorem insertEntry_insertEntry : insertEntry k w (insertEntry k v es) = insertEntry k w es := by
  induction es with
  | nil => simp [insertEntry]
  | cons e r ih =>
    by_cases he : e.1 = k
    · simp [insertEntry, he]
    · simp [insertEntry, he, ih]

theorem insertEntry_of_find? (h : es.find? (·.1 = k) = some (k, v)) : insertEntry k v es = es := by
  induction es with
  | nil => cases h
  | cons e r ih =>
    by_cases he : e.1 = k
    · rw [List.find?_cons_of_pos (by simpa using he)] at h
      rw [insertEntry, if_pos he, Option.some.inj h]
    · rw [List.find?_cons_of_neg (by simpa using he)] at h
      rw [insertEntry, if_neg he, ih h]

/-- A new key comes last. -/
theorem entries_insert_of_not_mem (h : k ∉ m.keys) :
    (m.insert k v).entries = m.entries ++ [(k, v)] :=
  insertEntry_of_not_mem h

theorem insertEntry_of_mem (hd : (es.map (·.1)).Nodup) (h : k ∈ es.map (·.1)) :
    insertEntry k v es = es.map fun e => if e.1 = k then (k, v) else e := by
  induction es with
  | nil => cases h
  | cons e r ih =>
    rw [List.map_cons, List.nodup_cons] at hd
    by_cases he : e.1 = k
    · -- the key does not come again, so the others stay as they are
      have hrest : r.map (fun e => if e.1 = k then (k, v) else e) = r := by
        refine (List.map_congr_left fun a ha => if_neg fun hk => hd.1 ?_).trans (List.map_id' r)
        rw [he, ← hk]
        exact List.mem_map_of_mem ha
      rw [insertEntry, if_pos he, List.map_cons, if_pos he, hrest]
    · have hr : k ∈ r.map (·.1) := (List.mem_cons.1 h).resolve_left (Ne.symm he)
      rw [insertEntry, if_neg he, List.map_cons, if_neg he, ih hd.2 hr]

/-- A key that is there keeps its place. -/
theorem entries_insert_of_mem (hd : m.keys.Nodup) (h : k ∈ m.keys) :
    (m.insert k v).entries = m.entries.map fun e => if e.1 = k then (k, v) else e :=
  insertEntry_of_mem hd h

/-- Of keys that are all new, the others are still new when the first has come. -/
theorem nodup_insert_append {e : κ × ν} (h : (m.keys ++ (e :: es).map (·.1)).Nodup) :
    e.1 ∉ m.keys ∧ ((m.insert e.1 e.2).keys ++ es.map (·.1)).Nodup := by
  rw [List.map_cons] at h
  have hnew : e.1 ∉ m.keys := by
    intro hm
    exact (List.nodup_append.1 h).2.2 e.1 hm e.1 List.mem_cons_self rfl
  refine ⟨hnew, ?_⟩
  rw [keys_insert, if_neg hnew, List.append_assoc]
  exact h

/-- Entries under new keys come last, in order. -/
theorem entries_foldl_insert (m : OrderedMap κ ν) (h : (m.keys ++ es.map (·.1)).Nodup) :
    (es.foldl (fun m e => m.insert e.1 e.2) m).entries = m.entries ++ es := by
  induction es generalizing m with
  | nil => exact (List.append_nil _).symm
  | cons e es ih =>
    obtain ⟨hnew, hrest⟩ := nodup_insert_append h
    rw [List.foldl_cons, ih _ hrest, entries_insert_of_not_mem hnew, List.append_assoc]
    rfl

theorem insert_insert : (m.insert k v).insert k w = m.insert k w :=
  congrArg mk insertEntry_insertEntry

/-- Writing the value that is there changes nothing. -/
theorem insert_of_get? (h : m.get? k = some v) : m.insert k v = m := by
  obtain ⟨e, he, hv⟩ := Option.map_eq_some_iff.1 h
  have hk : e.1 = k := by simpa using List.find?_some he
  have hpair : e = (k, v) := Prod.ext hk hv
  exact congrArg mk (insertEntry_of_find? (hpair ▸ he))

theorem get?_of_not_mem (h : k ∉ m.keys) : m.get? k = none := by
  have hf : m.entries.find? (·.1 = k) = none := by
    rw [List.find?_eq_none]
    intro e he hek
    exact h (List.mem_map.2 ⟨e, he, by simpa using hek⟩)
  rw [get?, hf, Option.map_none]

/-- Erasing a key that is not there changes nothing. -/
theorem erase_of_not_mem (h : k ∉ m.keys) : m.erase k = m := by
  have hall : m.entries.filter (·.1 ≠ k) = m.entries := by
    rw [List.filter_eq_self]
    intro e he
    have hne : e.1 ≠ k := by
      intro hk
      exact h (hk ▸ List.mem_map_of_mem he)
    exact decide_eq_true hne
  exact congrArg mk hall

theorem mem_entries_of_get? (h : m.get? k = some v) : (k, v) ∈ m.entries := by
  obtain ⟨e, he, rfl⟩ := Option.map_eq_some_iff.1 h
  have hk : e.1 = k := by simpa using List.find?_some he
  exact hk ▸ List.mem_of_find?_eq_some he

/-- Where keys are distinct, a lookup finds each entry. -/
theorem get?_eq_some_iff (h : m.keys.Nodup) : m.get? k = some v ↔ (k, v) ∈ m.entries := by
  refine ⟨mem_entries_of_get?, fun hv => ?_⟩
  cases hg : m.get? k with
  | none =>
    have hnone := List.find?_eq_none.1 (Option.map_eq_none_iff.1 hg) _ hv
    simp at hnone
  | some w =>
    cases List.inj_on_of_nodup_map h (mem_entries_of_get? hg) hv rfl
    rfl

theorem contains_eq_isSome (m : OrderedMap κ ν) (k : κ) : m.contains k = (m.get? k).isSome := by
  rw [contains, get?, Option.isSome_map, Bool.eq_iff_iff, List.contains_iff_mem, keys,
    List.mem_map, List.find?_isSome]
  simp

theorem mem_keys_iff : k ∈ m.keys ↔ (m.get? k).isSome := by
  rw [← contains_eq_isSome, contains, List.contains_iff_mem]

/-- The entries of a map are its keys with what a lookup finds under each. -/
theorem entries_eq_map {f : κ → ν} (h : m.keys.Nodup)
    (hf : ∀ k ∈ m.keys, m.get? k = some (f k)) : m.entries = m.keys.map fun k => (k, f k) := by
  have hentry : ∀ e ∈ m.entries, (e.1, f e.1) = e := by
    intro e he
    have hfound : m.get? e.1 = some e.2 := (get?_eq_some_iff h).2 he
    rw [hf e.1 (List.mem_map_of_mem he)] at hfound
    rw [Option.some.inj hfound]
  calc m.entries
    _ = m.entries.map fun e => e := (List.map_id' _).symm
    _ = m.entries.map fun e => (e.1, f e.1) :=
      List.map_congr_left fun e he => (hentry e he).symm
    _ = m.keys.map fun k => (k, f k) := by
      rw [keys, List.map_map]
      rfl

end OrderedMap

/-! ## Order of arrival -/

section Arrival

variable {σ κ ν : Type} {present : List σ → κ → Prop} {steps : List σ} {s : σ} {k : κ} {i : Nat}
variable {ks : List κ}

/-- **A key came to stay with a step**: it was absent right before, and is present ever since. -/
structure Arrives (present : List σ → κ → Prop) (steps : List σ) (k : κ) (i : Nat) : Prop where
  lt_length : i < steps.length
  absent : ¬ present (steps.take i) k
  stays : ∀ j, i < j → j ≤ steps.length → present (steps.take j) k

/-- **The keys that are present after some steps, in the order in which they came to stay**, that is
in which each most recently went from absent to present. -/
structure Chronological (present : List σ → κ → Prop) (steps : List σ) (ks : List κ) : Prop where
  nodup : ks.Nodup
  mem_iff : ∀ k, k ∈ ks ↔ present steps k
  arrives : ∀ k ∈ ks, ∃ i, Arrives present steps k i
  ordered : ks.Pairwise fun k l =>
    ∃ i j, Arrives present steps k i ∧ Arrives present steps l j ∧ i < j

theorem Arrives.concat (h : Arrives present steps k i) (hk : present (steps ++ [s]) k) :
    Arrives present (steps ++ [s]) k i := by
  have hi := h.lt_length
  constructor
  · simp only [List.length_append, List.length_singleton]
    omega
  · rw [List.take_append_of_le_length (Nat.le_of_lt hi)]
    exact h.absent
  · intro j hij hj
    rcases Nat.lt_or_ge steps.length j with hlast | hj'
    · -- the last of the moments is the one after the new step
      have hall : (steps ++ [s]).length ≤ j := by simp; omega
      rw [List.take_of_length_le hall]
      exact hk
    · rw [List.take_append_of_le_length hj']
      exact h.stays j hij hj'

/-- A key that was absent and is present after one more step has come with it. -/
theorem arrives_concat (ha : ¬ present steps k) (hk : present (steps ++ [s]) k) :
    Arrives present (steps ++ [s]) k steps.length := by
  constructor
  · simp
  · rw [List.take_left]
    exact ha
  · intro j hij hj
    have hall : (steps ++ [s]).length ≤ j := by simp; omega
    rw [List.take_of_length_le hall]
    exact hk

namespace Chronological

/-- Where nothing has happened, nothing is present. -/
theorem nil (h : ∀ k, ¬ present [] k) : Chronological present [] [] where
  nodup := List.nodup_nil
  mem_iff k := iff_of_false List.not_mem_nil (h k)
  arrives _ hk := absurd hk List.not_mem_nil
  ordered := List.Pairwise.nil

/-- Keys that go leave the others in order. -/
theorem concat_of_sublist {ls : List κ} (h : Chronological present steps ks)
    (hsub : ls.Sublist ks) (hmem : ∀ l, l ∈ ls ↔ present (steps ++ [s]) l) :
    Chronological present (steps ++ [s]) ls where
  nodup := h.nodup.sublist hsub
  mem_iff := hmem
  arrives l hl := by
    obtain ⟨i, hi⟩ := h.arrives l (hsub.subset hl)
    exact ⟨i, hi.concat ((hmem l).1 hl)⟩
  ordered := by
    refine (h.ordered.sublist hsub).imp_of_mem ?_
    rintro k l hk hl ⟨i, j, hi, hj, hij⟩
    exact ⟨i, j, hi.concat ((hmem k).1 hk), hj.concat ((hmem l).1 hl), hij⟩

/-- A key that comes with the last step comes after all others. -/
theorem concat_of_new (h : Chronological present steps ks) (hk : k ∉ ks)
    (hmem : ∀ l, l ∈ ks ++ [k] ↔ present (steps ++ [s]) l) :
    Chronological present (steps ++ [s]) (ks ++ [k]) := by
  have hold := fun l hl => (hmem l).1 (List.mem_append_left [k] hl)
  have hnew : Arrives present (steps ++ [s]) k steps.length := by
    apply arrives_concat (mt (h.mem_iff k).2 hk)
    exact (hmem k).1 (by simp)
  constructor
  · exact List.nodup_append.2 ⟨h.nodup, by simp, by grind⟩
  · exact hmem
  · intro l hl
    rcases List.mem_append.1 hl with hl | hl
    · obtain ⟨i, hi⟩ := h.arrives l hl
      exact ⟨i, hi.concat (hold l hl)⟩
    · cases List.mem_singleton.1 hl
      exact ⟨_, hnew⟩
  · rw [List.pairwise_append]
    refine ⟨?_, List.pairwise_singleton _ _, ?_⟩
    · refine h.ordered.imp_of_mem ?_
      rintro a b ha hb ⟨i, j, hi, hj, hij⟩
      exact ⟨i, j, hi.concat (hold a ha), hj.concat (hold b hb), hij⟩
    · intro l hl l' hl'
      cases List.mem_singleton.1 hl'
      obtain ⟨i, hi⟩ := h.arrives l hl
      exact ⟨i, steps.length, hi.concat (hold l hl), hnew, hi.lt_length⟩

variable [DecidableEq κ] {m : OrderedMap κ ν} {v : ν}

/-- **A write keeps the order**: a key that is there stays in its place, a new one comes last. -/
theorem insert (h : Chronological present steps m.keys)
    (hmem : ∀ l, l ∈ (m.insert k v).keys ↔ present (steps ++ [s]) l) :
    Chronological present (steps ++ [s]) (m.insert k v).keys := by
  rw [OrderedMap.keys_insert] at hmem ⊢
  by_cases hk : k ∈ m.keys
  · rw [if_pos hk] at hmem ⊢
    exact h.concat_of_sublist (List.Sublist.refl _) hmem
  · rw [if_neg hk] at hmem ⊢
    exact h.concat_of_new hk hmem

theorem erase (h : Chronological present steps m.keys)
    (hmem : ∀ l, l ∈ (m.erase k).keys ↔ present (steps ++ [s]) l) :
    Chronological present (steps ++ [s]) (m.erase k).keys := by
  have hsub : (m.erase k).keys.Sublist m.keys := by
    rw [OrderedMap.keys_erase]
    exact List.filter_sublist
  exact h.concat_of_sublist hsub hmem

end Chronological

end Arrival

end WebScript
