import Mathlib.Tactic.SplitIfs
import WebScript.Text.Case

/-!
# The case of letters

ASCII letters come in pairs, and both letters of a pair have the same forms in upper and in lower
case. All other characters are alone.

* `toNat_toLower`, `toNat_toUpper`: the case mappings as arithmetic.
* `toUpper_eq_iff_toLower_eq`: letters that have one lower-case form have one upper-case form, and
  conversely.
* `upper_congr`, `lower_congr`: **the full case mappings do not tell the letters of a pair apart**.
-/

namespace WebScript.Text.Case

variable {c d : Char}

theorem toNat_toLower (c : Char) :
    c.toLower.toNat = if 65 ≤ c.toNat ∧ c.toNat ≤ 90 then c.toNat + 32 else c.toNat := by
  have hcond : (c.val ≥ 'A'.val ∧ c.val ≤ 'Z'.val) ↔ (65 ≤ c.toNat ∧ c.toNat ≤ 90) := by
    rw [ge_iff_le, UInt32.le_iff_toNat_le, UInt32.le_iff_toNat_le]
    rfl
  unfold Char.toLower
  split
  · rename_i h
    have h' := hcond.1 h
    rw [if_pos h']
    change (c.val + 32).toNat = _
    rw [UInt32.toNat_add]
    change (c.toNat + 32) % _ = _
    omega
  · rename_i h
    rw [if_neg (mt hcond.2 h)]

theorem toNat_toUpper (c : Char) :
    c.toUpper.toNat = if 97 ≤ c.toNat ∧ c.toNat ≤ 122 then c.toNat - 32 else c.toNat := by
  have hcond : (c.val ≥ 'a'.val ∧ c.val ≤ 'z'.val) ↔ (97 ≤ c.toNat ∧ c.toNat ≤ 122) := by
    rw [ge_iff_le, UInt32.le_iff_toNat_le, UInt32.le_iff_toNat_le]
    rfl
  unfold Char.toUpper
  split
  · rename_i h
    have h' := hcond.1 h
    rw [if_pos h']
    change (c.val + ('A'.val - 'a'.val)).toNat = _
    rw [UInt32.toNat_add]
    change (c.toNat + 4294967264) % 4294967296 = _
    omega
  · rename_i h
    rw [if_neg (mt hcond.2 h)]

/-- Signs and digits have no case. -/
theorem toLower_eq_iff (hd : d.toNat < 65) : c.toLower = d ↔ c = d := by
  rw [← Char.toNat_inj, ← Char.toNat_inj, toNat_toLower]
  split <;> omega

theorem toUpper_eq_iff_toLower_eq : c.toUpper = d.toUpper ↔ c.toLower = d.toLower := by
  rw [← Char.toNat_inj, ← Char.toNat_inj, toNat_toUpper, toNat_toUpper, toNat_toLower,
    toNat_toLower]
  split_ifs <;> omega

/-- Characters with one lower-case form are the same, or both ASCII. -/
theorem eq_or_ascii (h : c.toLower = d.toLower) : c = d ∨ c.toNat < 0x80 ∧ d.toNat < 0x80 := by
  rw [← Char.toNat_inj, toNat_toLower, toNat_toLower] at h
  rw [← Char.toNat_inj]
  split_ifs at h <;> omega

theorem upper_congr (h : c.toLower = d.toLower) : upper c = upper d := by
  rcases eq_or_ascii h with rfl | ⟨hc, hd⟩
  · rfl
  · rw [upper, upper, if_pos hc, if_pos hd, toUpper_eq_iff_toLower_eq.2 h]

theorem lower_congr (h : c.toLower = d.toLower) : lower c = lower d := by
  rcases eq_or_ascii h with rfl | ⟨hc, hd⟩
  · rfl
  · rw [lower, lower, if_pos hc, if_pos hd, h]

end WebScript.Text.Case
