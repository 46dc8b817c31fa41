import WebScript.Proofs.Utf8
import WebScript.Url.Percent

/-!
# Percent-encoded text

What percent coding writes stands for itself: it is written once and read back unchanged.

* `IsShown`: a text of characters that are shown as they are.
* `isShown_percentEncode`: **what is written is shown**, if percent signs and digits are.
* `percentEncode_eq_self`: what is shown is written as it is.
* `percentEncode_cons`: the first character of a text is shown, or its first byte has a percent
  sign.
-/

namespace WebScript.Url

variable {plain : Char → Bool} {c : Char} {cs ds : List Char}

/-- Every character is ASCII and `plain`. -/
def IsShown (plain : Char → Bool) (cs : List Char) : Prop :=
  ∀ c ∈ cs, c.toNat < 0x80 ∧ plain c = true

instance (plain : Char → Bool) (cs : List Char) : Decidable (IsShown plain cs) :=
  List.decidableBAll (fun c : Char => c.toNat < 0x80 ∧ plain c = true) cs

theorem IsShown.of_subset (h : IsShown plain cs) (hs : ds ⊆ cs) : IsShown plain ds :=
  fun c hc => h c (hs hc)

/-- The characters that a byte is written with. -/
def escapeChars : List Char :=
  ['%', '0', '1', '2', '3', '4', '5', '6', '7', '8', '9', 'A', 'B', 'C', 'D', 'E', 'F']

theorem mem_percentByte {b : UInt8} (h : c ∈ percentByte b) : c ∈ escapeChars := by
  have hall : ∀ n : Fin 256, IsShown escapeChars.contains (percentByte (UInt8.ofFin n)) := by
    decide +kernel
  exact List.contains_iff_mem.1 (hall b.toFin c h).2

/-- What is written is shown in the text, or belongs to a percent-encoded byte. -/
theorem mem_percentEncode (h : c ∈ percentEncode plain cs) :
    (c ∈ cs ∧ c.toNat < 0x80 ∧ plain c = true) ∨ c ∈ escapeChars := by
  obtain ⟨d, hd, hc⟩ := List.mem_flatMap.1 h
  split at hc
  · rename_i hplain
    rw [Bool.and_eq_true, decide_eq_true_eq] at hplain
    obtain rfl : c = d := List.mem_singleton.1 hc
    exact .inl ⟨hd, hplain⟩
  · obtain ⟨b, -, hb⟩ := List.mem_flatMap.1 hc
    exact .inr (mem_percentByte hb)

/-- **What is written is shown.** -/
theorem isShown_percentEncode (hplain : IsShown plain escapeChars) (cs : List Char) :
    IsShown plain (percentEncode plain cs) := by
  intro c hc
  rcases mem_percentEncode hc with ⟨-, h⟩ | h
  · exact h
  · exact hplain c h

/-! ## The first character -/

/-- A character that is not shown begins with a byte that is that of no character shown. -/
theorem exists_utf8EncodeChar (c : Char) :
    ∃ b bs, String.utf8EncodeChar c = b :: bs ∧
      ∀ d : Char, d.toNat < 0x80 → b = UInt8.ofNat d.toNat → c = d := by
  have hbyte : ∀ {m n : Nat}, m < 256 → n < 256 → UInt8.ofNat m = UInt8.ofNat n → m = n := by
    intro m n hm hn h
    rw [← UInt8.toNat_ofNat_of_lt' hm, h, UInt8.toNat_ofNat_of_lt' hn]
  rcases Text.Utf8.utf8EncodeChar_cases c with ⟨h, e⟩ | ⟨h, h', e⟩ | ⟨h, h', e⟩ | ⟨h, e⟩ <;>
    refine ⟨_, _, e, fun d hd hb => ?_⟩ <;>
    have hnum := hbyte (by omega) (by omega) hb
  · rw [← Char.ofNat_toNat c, hnum, Char.ofNat_toNat]
  -- the first of several bytes is not ASCII
  all_goals omega

theorem percentEncode_cons_of_shown (h : c.toNat < 0x80 ∧ plain c = true) (cs : List Char) :
    percentEncode plain (c :: cs) = c :: percentEncode plain cs := by
  have hone : (c.toNat < 0x80 && plain c) = true := by simpa using h
  rw [percentEncode, List.flatMap_cons, if_pos hone]
  rfl

/-- **What is shown is written as it is.** -/
theorem percentEncode_eq_self (h : IsShown plain cs) : percentEncode plain cs = cs := by
  induction cs with
  | nil => rfl
  | cons c cs ih =>
    have hcs : IsShown plain cs := h.of_subset (List.subset_cons_self c cs)
    rw [percentEncode_cons_of_shown (h c List.mem_cons_self), ih hcs]

/-- A character that is not shown is written with a percent sign and the digits of a byte that no
character shown has. -/
theorem percentEncode_cons_of_not_shown (h : ¬ (c.toNat < 0x80 ∧ plain c = true))
    (cs : List Char) :
    ∃ b r, percentEncode plain (c :: cs) = percentByte b ++ r ∧
      ∀ d : Char, d.toNat < 0x80 → plain d = true → b ≠ UInt8.ofNat d.toNat := by
  obtain ⟨b, bs, he, hb⟩ := exists_utf8EncodeChar c
  refine ⟨b, bs.flatMap percentByte ++ percentEncode plain cs, ?_, fun d hd hplain hbd => ?_⟩
  · have hnot : ¬ (c.toNat < 0x80 && plain c) = true := by simpa using h
    rw [percentEncode, List.flatMap_cons, if_neg hnot, he, List.flatMap_cons, List.append_assoc]
    rfl
  · obtain rfl : c = d := hb d hd hbd
    exact h ⟨hd, hplain⟩

theorem percentEncode_eq_nil (h : percentEncode plain cs = []) : cs = [] := by
  cases cs with
  | nil => rfl
  | cons c cs =>
    by_cases hc : c.toNat < 0x80 ∧ plain c = true
    · rw [percentEncode_cons_of_shown hc] at h
      cases h
    · obtain ⟨b, r, he, -⟩ := percentEncode_cons_of_not_shown hc cs
      rw [he] at h
      cases h

/-- **What is written begins with the first character of the text, or with a byte that has a
percent sign.** -/
theorem exists_of_percentEncode_eq_cons (h : percentEncode plain cs = c :: ds) :
    (∃ r, cs = c :: r ∧ percentEncode plain r = ds) ∨
      ∃ b r, c :: ds = percentByte b ++ r ∧
        ∀ d : Char, d.toNat < 0x80 → plain d = true → b ≠ UInt8.ofNat d.toNat := by
  cases cs with
  | nil => cases h
  | cons a r =>
    by_cases ha : a.toNat < 0x80 ∧ plain a = true
    · rw [percentEncode_cons_of_shown ha] at h
      cases h
      exact .inl ⟨r, rfl, rfl⟩
    · obtain ⟨b, s, he, hb⟩ := percentEncode_cons_of_not_shown ha r
      exact .inr ⟨b, s, h.symm.trans he, hb⟩

/-- Where it begins with something else than a percent sign, the text does so. -/
theorem eq_cons_of_percentEncode_eq_cons (hc : c ≠ '%') (h : percentEncode plain cs = c :: ds) :
    ∃ r, cs = c :: r ∧ percentEncode plain r = ds := by
  rcases exists_of_percentEncode_eq_cons h with h | ⟨b, r, he, -⟩
  · exact h
  · cases he
    exact absurd rfl hc

end WebScript.Url
