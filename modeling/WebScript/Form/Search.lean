import WebScript.Text.Utf8

/-!
# Finding bytes

The first place at which a word stands in some bytes, and the parts before and behind it.

* `offset?`: the place.
* `splitAt?`: the parts.
* `eq_of_splitAt?`: the parts and the word between them are the bytes.
-/

namespace WebScript.Bytes

/-- The offset of the first occurrence of `word`, counted from `n`. -/
def offsetFrom? (word : Bytes) (n : Nat) : Bytes → Option Nat
  | [] => if word.isEmpty then some n else none
  | b :: r => if word.isPrefixOf (b :: r) then some n else offsetFrom? word (n + 1) r

/-- The offset of the first occurrence of `word`. -/
def offset? (word bs : Bytes) : Option Nat := offsetFrom? word 0 bs

/-- What stands before the first occurrence of `word` and what stands behind it. -/
def splitAt? (word bs : Bytes) : Option (Bytes × Bytes) :=
  match offset? word bs with
  | some n => some (bs.take n, bs.drop (n + word.length))
  | none => none

theorem offsetFrom?_spec {word bs : Bytes} {k n : Nat} (h : offsetFrom? word k bs = some n) :
    ∃ i, n = k + i ∧ word <+: bs.drop i := by
  induction bs generalizing k with
  | nil =>
    simp only [offsetFrom?] at h
    split at h
    · rename_i hw
      rw [List.isEmpty_iff] at hw
      exact ⟨0, by simpa using h.symm, by simp [hw]⟩
    · simp at h
  | cons b r ih =>
    simp only [offsetFrom?] at h
    split at h
    · rename_i hp
      exact ⟨0, by simpa using h.symm, by simpa using hp⟩
    · obtain ⟨i, hi, hp⟩ := ih h
      exact ⟨i + 1, by omega, by simpa using hp⟩

/-- **Nothing is lost.** The bytes are the part before, the word and the part behind. -/
theorem eq_of_splitAt? {word bs front back : Bytes} (h : splitAt? word bs = some (front, back)) :
    bs = front ++ word ++ back := by
  unfold splitAt? at h
  split at h
  · rename_i n hn
    obtain ⟨i, hi, hp⟩ := offsetFrom?_spec hn
    obtain rfl : n = i := by omega
    simp only [Option.some.injEq, Prod.mk.injEq] at h
    obtain ⟨rfl, rfl⟩ := h
    obtain ⟨t, ht⟩ := hp
    have hd : bs.drop (n + word.length) = t := by
      rw [← List.drop_drop, ← ht, List.drop_left]
    rw [hd, List.append_assoc, ht, List.take_append_drop]
  · simp at h

end WebScript.Bytes
