import Mathlib.Data.List.Nodup
import Mathlib.Data.List.Perm.Subperm
import Mathlib.Data.List.TakeWhile
import WebScript.Proofs.OrderedMap
import WebScript.Value.Table

/-!
# Sequences

A table is a sequence if its keys are `1, 2, … n`, in whatever order they came in. Its shape is told
from how many entries it has and how far its numbers go without a gap; keys that are distinct and
as many as `1, 2, … n` are these.

* `OrderedMap.sequenceLength_eq_size_iff`: **what the count of the numbers says about the keys**.
* `OrderedMap.isLeastFree_sequenceLength`, `Table.push_eq`: a push takes the least number that is
  free.
* `OrderedMap.IsSequence`, `OrderedMap.sequence?_eq_some_iff`: the sequences and their values;
  `IsSequence.get?_eq`, `IsSequence.mem_iff`: where these stand.
-/

namespace WebScript

/-- The keys `1, 2, … n`. -/
def Key.numbers (n : Nat) : List Key := (List.range n).map fun (i : Nat) => .index (i + 1)

namespace Key

theorem length_numbers (n : Nat) : (numbers n).length = n := by
  rw [numbers, List.length_map, List.length_range]

theorem numbers_succ (n : Nat) : numbers (n + 1) = numbers n ++ [.index (n + 1)] := by
  rw [numbers, List.range_succ, List.map_append]
  rfl

theorem mem_numbers_iff {n : Nat} {k : Key} :
    k ∈ numbers n ↔ ∃ i : Nat, i < n ∧ .index (i + 1) = k := by
  simp [numbers]

theorem nodup_numbers (n : Nat) : (numbers n).Nodup := by
  refine List.nodup_range.map fun i j h => ?_
  have hij := Key.index.inj h
  omega

/-- **The least positive number that is not taken.** -/
structure IsLeastFree (taken : Key → Prop) (n : Nat) : Prop where
  pos : 1 ≤ n
  free : ¬ taken (.index n)
  below : ∀ m : Nat, 1 ≤ m → m < n → taken (.index m)

theorem isName_of_mem_numbers {n : Nat} {k : Key} (h : k ∈ numbers n) : k.isName = false := by
  obtain ⟨i, -, rfl⟩ := mem_numbers_iff.1 h
  rfl

end Key

namespace OrderedMap

variable {α : Type} {t : OrderedMap Key α} {vs : List α}

theorem sequenceLength_eq_size_iff_subset (t : OrderedMap Key α) :
    t.sequenceLength = t.size ↔ Key.numbers t.size ⊆ t.keys := by
  rw [sequenceLength]
  constructor
  · intro hlen k hk
    have hall := (List.takeWhile_prefix _).eq_of_length (hlen.trans List.length_range.symm)
    obtain ⟨i, hi, rfl⟩ := Key.mem_numbers_iff.1 hk
    exact List.contains_iff_mem.1 (List.takeWhile_eq_self_iff.1 hall i (List.mem_range.2 hi))
  · intro hkeys
    have hall : ∀ i ∈ List.range t.size, t.contains (.index (i + 1)) = true := by
      intro i hi
      have hk : Key.index (i + 1) ∈ Key.numbers t.size :=
        Key.mem_numbers_iff.2 ⟨i, List.mem_range.1 hi, rfl⟩
      exact List.contains_iff_mem.2 (hkeys hk)
    rw [List.takeWhile_eq_self_iff.2 hall, List.length_range]

/-- **All of `1, 2, … n` are keys of a table of `n` entries exactly if it has no others.** -/
theorem sequenceLength_eq_size_iff (t : OrderedMap Key α) :
    t.sequenceLength = t.size ↔ t.keys.Perm (Key.numbers t.size) := by
  rw [sequenceLength_eq_size_iff_subset]
  constructor
  · intro hkeys
    -- these are distinct, and as many as there are keys, so there are no others
    have hsub : (Key.numbers t.size).Subperm t.keys :=
      List.subperm_of_subset (Key.nodup_numbers _) hkeys
    have hlen : t.keys.length = (Key.numbers t.size).length := by
      rw [length_keys, Key.length_numbers]
    exact (hsub.perm_of_length_le hlen.le).symm
  · intro hperm
    exact hperm.symm.subset

/-- **The numbers are counted up to the first that is no key.** -/
theorem isLeastFree_sequenceLength (t : OrderedMap Key α) :
    Key.IsLeastFree (· ∈ t.keys) (t.sequenceLength + 1) := by
  have hcount : t.sequenceLength =
      (List.range t.size).findIdx fun (i : Nat) => ! t.contains (.index (i + 1)) := by
    rw [sequenceLength, List.takeWhile_eq_take_findIdx_not, List.length_take,
      min_eq_left List.findIdx_le_length]
  have hle : t.sequenceLength ≤ t.size := by
    have hprefix : t.sequenceLength ≤ (List.range t.size).length :=
      (List.takeWhile_prefix _).length_le
    rwa [List.length_range] at hprefix
  constructor
  · omega
  · intro hmem
    rcases Nat.lt_or_eq_of_le hle with hlt | hfull
    · have hstop := List.findIdx_getElem (w := by rw [← hcount, List.length_range]; exact hlt)
      simp only [List.getElem_range, ← hcount, Bool.not_eq_true'] at hstop
      exact Bool.false_ne_true (hstop.symm.trans (List.contains_iff_mem.2 hmem))
    · -- all entries are counted, and there is no other key
      have hperm := (sequenceLength_eq_size_iff t).1 hfull
      obtain ⟨i, hi, hkey⟩ := Key.mem_numbers_iff.1 (hperm.mem_iff.1 hmem)
      have hindex := Key.index.inj hkey
      omega
  · intro m hm hlt
    obtain ⟨i, rfl⟩ : ∃ i, m = i + 1 := ⟨m - 1, by omega⟩
    have hi : i < t.sequenceLength := by omega
    rw [hcount] at hi
    have hcounted := List.not_of_lt_findIdx hi
    rw [List.getElem_range, Bool.not_eq_false'] at hcounted
    exact List.contains_iff_mem.1 hcounted

theorem shape_eq_empty_iff : t.shape = .empty ↔ t.entries = [] := by
  unfold shape
  split_ifs <;> simp_all

theorem shape_eq_sequence_iff :
    t.shape = .sequence ↔ t.entries ≠ [] ∧ t.keys.Perm (Key.numbers t.size) := by
  rw [← sequenceLength_eq_size_iff]
  constructor
  · intro hs
    unfold shape at hs
    split_ifs at hs with hempty hall hfull
    rw [Bool.and_eq_true, beq_iff_eq] at hfull
    exact ⟨by simpa using hempty, hfull.2⟩
  · rintro ⟨hne, hlen⟩
    -- all keys are numbers and there is one, so neither of the tests for names holds
    have hindex : ∀ k ∈ t.keys, k.isName = false := fun k hk =>
      Key.isName_of_mem_numbers (((sequenceLength_eq_size_iff t).1 hlen).mem_iff.1 hk)
    obtain ⟨e, he⟩ := List.exists_mem_of_ne_nil _ hne
    have hfirst : e.1 ∈ t.keys := List.mem_map_of_mem he
    have hnotall : t.keys.all Key.isName = false :=
      List.all_eq_false.2 ⟨e.1, hfirst, by simp [hindex e.1 hfirst]⟩
    have hnone : t.keys.any Key.isName = false :=
      List.any_eq_false.2 fun k hk => by simp [hindex k hk]
    rw [shape, hnotall, hnone, hlen]
    simp [hne]

/-- **The values of a sequence**: those under `1, 2, … n`, if these are the keys. -/
theorem sequence?_eq (t : OrderedMap Key α) :
    t.sequence? = if t.keys.Perm (Key.numbers t.size) then
      some ((Key.numbers t.size).filterMap t.get?) else none := by
  have hother (hempty : t.shape ≠ .empty) (hsequence : t.shape ≠ .sequence) :
      ¬ t.keys.Perm (Key.numbers t.size) := fun hperm =>
    hsequence (shape_eq_sequence_iff.2 ⟨mt shape_eq_empty_iff.2 hempty, hperm⟩)
  unfold sequence?
  cases hs : t.shape with
  | empty =>
    obtain ⟨es⟩ := t
    cases shape_eq_empty_iff.1 hs
    rfl
  | sequence =>
    rw [if_pos (shape_eq_sequence_iff.1 hs).2, Key.numbers, List.filterMap_map]
    rfl
  | map | ambiguous => exact (if_neg (hother (by simp [hs]) (by simp [hs]))).symm

/-- **The table is the sequence of some values**: its keys are `1, 2, … n`, in whatever order they
came in, and the values are those under them, by number. -/
structure IsSequence (t : OrderedMap Key α) (vs : List α) : Prop where
  keys : t.keys.Perm (Key.numbers vs.length)
  values : (Key.numbers vs.length).map t.get? = vs.map some

namespace IsSequence

theorem size_eq (h : t.IsSequence vs) : t.size = vs.length := by
  rw [← length_keys, h.keys.length_eq, Key.length_numbers]

theorem nodup_keys (h : t.IsSequence vs) : t.keys.Nodup :=
  h.keys.nodup_iff.2 (Key.nodup_numbers vs.length)

theorem shape_eq (h : t.IsSequence vs) (hne : t.entries ≠ []) : t.shape = .sequence := by
  rw [shape_eq_sequence_iff, h.size_eq]
  exact ⟨hne, h.keys⟩

/-- The values of a sequence are those of its entries. -/
theorem mem_iff (h : t.IsSequence vs) {v : α} : v ∈ vs ↔ ∃ e ∈ t.entries, e.2 = v := by
  have hread : v ∈ vs ↔ some v ∈ (Key.numbers vs.length).map t.get? := by
    rw [h.values]
    simp
  rw [hread, List.mem_map]
  constructor
  · rintro ⟨k, -, hk⟩
    exact ⟨(k, v), mem_entries_of_get? hk, rfl⟩
  · rintro ⟨e, he, rfl⟩
    have hkey : e.1 ∈ t.keys := List.mem_map_of_mem he
    exact ⟨e.1, h.keys.mem_iff.1 hkey, (get?_eq_some_iff h.nodup_keys).2 he⟩

/-- What stands under a number is the value with that number. -/
theorem get?_eq (h : t.IsSequence vs) (i : Nat) : t.get? (.index (i + 1)) = vs[i]? := by
  by_cases hi : i < vs.length
  · have hread := congrArg (fun l => l[i]?) h.values
    simpa [Key.numbers, hi] using hread
  · have hnot : Key.index (i + 1) ∉ t.keys := by
      rw [h.keys.mem_iff, Key.mem_numbers_iff]
      rintro ⟨j, hj, hij⟩
      rw [Key.index.injEq] at hij
      omega
    rw [get?_of_not_mem hnot, List.getElem?_eq_none (by omega)]

end IsSequence

theorem sequence?_eq_some_iff : t.sequence? = some vs ↔ t.IsSequence vs := by
  rw [sequence?_eq]
  constructor
  · intro h
    split_ifs at h with hperm
    cases h
    -- each of the numbers is a key, so no value is passed over
    have hsome : ∀ v ∈ (Key.numbers t.size).map t.get?, v.isSome := by
      intro v hv
      obtain ⟨k, hk, rfl⟩ := List.mem_map.1 hv
      exact mem_keys_iff.1 (hperm.mem_iff.2 hk)
    have hmap : ((Key.numbers t.size).filterMap t.get?).map some =
        (Key.numbers t.size).map t.get? := by
      rw [List.map_filterMap_some_eq_filter_map_isSome, List.filter_eq_self.2 hsome]
    have hlen := congrArg List.length hmap
    rw [List.length_map, List.length_map, Key.length_numbers] at hlen
    constructor
    · rw [hlen]
      exact hperm
    · rw [hlen]
      exact hmap.symm
  · rintro ⟨hperm, hmap⟩
    have hsize : t.size = vs.length := IsSequence.size_eq ⟨hperm, hmap⟩
    have hvalues : (Key.numbers vs.length).filterMap t.get? = vs := by
      calc (Key.numbers vs.length).filterMap t.get?
        _ = ((Key.numbers vs.length).map t.get?).filterMap id := by
          rw [List.filterMap_map, Function.id_comp]
        _ = (vs.map some).filterMap id := by rw [hmap]
        _ = vs := by rw [List.filterMap_map]; exact List.filterMap_some
    rw [hsize, if_pos hperm, hvalues]

theorem sequence?_eq_none_iff : t.sequence? = none ↔ ∀ vs, ¬ t.IsSequence vs := by
  rw [Option.eq_none_iff_forall_ne_some]
  exact forall_congr' fun vs => not_congr sequence?_eq_some_iff

end OrderedMap

namespace Table

/-- **A value is pushed behind all entries**, under the least number that is free; nil is not. -/
theorem push_eq (t : Table) (v : Value) :
    t.push v = ⟨t.entries ++ if v.isNil then [] else [(.index (t.sequenceLength + 1), v)]⟩ := by
  have hnew : Key.index (t.sequenceLength + 1) ∉ t.keys := t.isLeastFree_sequenceLength.free
  rw [push, set]
  split
  · rw [OrderedMap.erase_of_not_mem hnew, List.append_nil]
  · exact congrArg OrderedMap.mk (OrderedMap.entries_insert_of_not_mem hnew)

end Table

end WebScript
