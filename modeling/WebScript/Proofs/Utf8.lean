import Mathlib.Tactic.IntervalCases
import WebScript.Text.Utf8

/-!
# Reading back UTF-8

* `Utf8.decode_encode`, `Bytes.toText_ofText`: **reading what was written gives the text**.
* `Utf8.mem_of_mem_encode`: a byte below 80 stands for the character of its number and is part of
  no other.
* `Bytes.ofText_toText`: bytes below 80 are UTF-8.
-/

namespace WebScript

namespace Text.Utf8

/-! ## First bytes -/

theorem step_first_of_one (read : List Char) {n : Nat} (h : n < 0x80) :
    Progress.step ⟨read, none⟩ (UInt8.ofNat n) = ⟨Char.ofNat n :: read, none⟩ := by
  have hn : (UInt8.ofNat n).toNat = n := UInt8.toNat_ofNat_of_lt' (show n < 256 by omega)
  have hlead : lead (UInt8.ofNat n) = .whole (Char.ofNat n) := by
    rw [lead, if_pos (UInt8.lt_iff_toNat_lt.2 (by rw [hn]; exact h)), hn]
  rw [Progress.step, Progress.start, hlead]

theorem step_first_of_two (read : List Char) {t : Nat} (h : 2 ≤ t) (h' : t < 0x20) :
    Progress.step ⟨read, none⟩ (UInt8.ofNat (t + 0xC0)) = ⟨read, some ⟨t, 1, 0x80, 0xBF⟩⟩ := by
  have hlead : lead (UInt8.ofNat (t + 0xC0)) = .begun ⟨t, 1, 0x80, 0xBF⟩ := by
    interval_cases t <;> rfl
  rw [Progress.step, Progress.start, hlead]

/-- The second byte is narrowed after two of these. -/
theorem step_first_of_three (read : List Char) {t : Nat} (h : t < 0x10) :
    Progress.step ⟨read, none⟩ (UInt8.ofNat (t + 0xE0)) =
      ⟨read, some ⟨t, 2, if t = 0 then 0xA0 else 0x80, if t = 0xD then 0x9F else 0xBF⟩⟩ := by
  have hlead : lead (UInt8.ofNat (t + 0xE0)) =
      .begun ⟨t, 2, if t = 0 then 0xA0 else 0x80, if t = 0xD then 0x9F else 0xBF⟩ := by
    interval_cases t <;> rfl
  rw [Progress.step, Progress.start, hlead]

/-- The second byte is narrowed after the first and the last of these. -/
theorem step_first_of_four (read : List Char) {t : Nat} (h : t ≤ 4) :
    Progress.step ⟨read, none⟩ (UInt8.ofNat (t + 0xF0)) =
      ⟨read, some ⟨t, 3, if t = 0 then 0x90 else 0x80, if t = 4 then 0x8F else 0xBF⟩⟩ := by
  have hlead : lead (UInt8.ofNat (t + 0xF0)) =
      .begun ⟨t, 3, if t = 0 then 0x90 else 0x80, if t = 4 then 0x8F else 0xBF⟩ := by
    interval_cases t <;> rfl
  rw [Progress.step, Progress.start, hlead]

/-! ## Whole characters -/

/-- A byte in range continues the character begun. -/
theorem step_next (read : List Char) (p : Begun) {n : Nat} (h : n < 0x40)
    (hlow : p.low.toNat ≤ n + 0x80) (hhigh : n + 0x80 ≤ p.high.toNat) :
    Progress.step ⟨read, some p⟩ (UInt8.ofNat (n + 0x80)) =
      if p.owed ≤ 1 then ⟨Char.ofNat (p.bits * 64 + n) :: read, none⟩
      else ⟨read, some ⟨p.bits * 64 + n, p.owed - 1, 0x80, 0xBF⟩⟩ := by
  have hn : (UInt8.ofNat (n + 0x80)).toNat = n + 0x80 :=
    UInt8.toNat_ofNat_of_lt' (show n + 0x80 < 256 by omega)
  have hrange : p.low ≤ UInt8.ofNat (n + 0x80) ∧ UInt8.ofNat (n + 0x80) ≤ p.high := by
    rw [UInt8.le_iff_toNat_le, UInt8.le_iff_toNat_le, hn]
    exact ⟨hlow, hhigh⟩
  unfold Progress.step
  dsimp only
  rw [if_pos hrange, hn, Nat.add_sub_cancel]

/-- A byte in range that is not the last of its character. -/
theorem step_middle (read : List Char) (bits owed : Nat) (low high : UInt8) {n : Nat}
    (h : n < 0x40) (hlow : low.toNat ≤ n + 0x80) (hhigh : n + 0x80 ≤ high.toNat) :
    Progress.step ⟨read, some ⟨bits, owed + 2, low, high⟩⟩ (UInt8.ofNat (n + 0x80)) =
      ⟨read, some ⟨bits * 64 + n, owed + 1, 0x80, 0xBF⟩⟩ := by
  rw [step_next read ⟨bits, owed + 2, low, high⟩ h hlow hhigh, if_neg (by simp)]
  rfl

/-- The last byte of a character. -/
theorem step_last (read : List Char) (bits : Nat) (low high : UInt8) {n : Nat} (h : n < 0x40)
    (hlow : low.toNat ≤ n + 0x80) (hhigh : n + 0x80 ≤ high.toNat) :
    Progress.step ⟨read, some ⟨bits, 1, low, high⟩⟩ (UInt8.ofNat (n + 0x80)) =
      ⟨Char.ofNat (bits * 64 + n) :: read, none⟩ :=
  step_next read ⟨bits, 1, low, high⟩ h hlow hhigh

/-- The bytes of a character, by its number. -/
theorem utf8EncodeChar_cases (c : Char) :
    (c.toNat < 0x80 ∧ String.utf8EncodeChar c = [UInt8.ofNat c.toNat]) ∨
    (0x80 ≤ c.toNat ∧ c.toNat < 0x800 ∧ String.utf8EncodeChar c =
      [UInt8.ofNat (c.toNat / 64 % 0x20 + 0xC0), UInt8.ofNat (c.toNat % 0x40 + 0x80)]) ∨
    (0x800 ≤ c.toNat ∧ c.toNat < 0x10000 ∧ String.utf8EncodeChar c =
      [UInt8.ofNat (c.toNat / 4096 % 0x10 + 0xE0), UInt8.ofNat (c.toNat / 64 % 0x40 + 0x80),
        UInt8.ofNat (c.toNat % 0x40 + 0x80)]) ∨
    (0x10000 ≤ c.toNat ∧ String.utf8EncodeChar c =
      [UInt8.ofNat (c.toNat / 262144 % 8 + 0xF0), UInt8.ofNat (c.toNat / 4096 % 0x40 + 0x80),
        UInt8.ofNat (c.toNat / 64 % 0x40 + 0x80), UInt8.ofNat (c.toNat % 0x40 + 0x80)]) := by
  have hc : c.val.toNat = c.toNat := rfl
  rw [String.utf8EncodeChar, hc]
  by_cases h1 : c.toNat ≤ 0x7f
  · rw [if_pos h1]
    exact .inl ⟨by omega, rfl⟩
  rw [if_neg h1]
  by_cases h2 : c.toNat ≤ 0x7ff
  · rw [if_pos h2]
    exact .inr (.inl ⟨by omega, by omega, rfl⟩)
  rw [if_neg h2]
  by_cases h3 : c.toNat ≤ 0xffff
  · rw [if_pos h3]
    exact .inr (.inr (.inl ⟨by omega, by omega, rfl⟩))
  · rw [if_neg h3]
    exact .inr (.inr (.inr ⟨by omega, rfl⟩))

/-- **The bytes of a character are read as that character.** -/
theorem foldl_utf8EncodeChar (read : List Char) (c : Char) :
    (String.utf8EncodeChar c).foldl Progress.step ⟨read, none⟩ = ⟨c :: read, none⟩ := by
  have hv : c.toNat < 0xD800 ∨ 0xDFFF < c.toNat ∧ c.toNat < 0x110000 := c.valid
  have hc : Char.ofNat c.toNat = c := Char.ofNat_toNat c
  have hcases := utf8EncodeChar_cases c
  generalize c.toNat = n at hv hc hcases
  rcases hcases with ⟨h, e⟩ | ⟨h, h', e⟩ | ⟨h, h', e⟩ | ⟨h, e⟩ <;> rw [e]
  · rw [List.foldl_cons, List.foldl_nil, step_first_of_one read h, hc]
  · have hbits : n / 64 % 0x20 * 64 + n % 0x40 = n := by omega
    rw [List.foldl_cons, List.foldl_cons, List.foldl_nil,
      step_first_of_two read (by omega) (by omega),
      step_last _ _ _ _ (by omega) (by simp) (by simp; omega), hbits, hc]
  · have hbits : (n / 4096 % 0x10 * 64 + n / 64 % 0x40) * 64 + n % 0x40 = n := by omega
    -- no long form of a smaller number, and no surrogate
    have hlow : (if n / 4096 % 0x10 = 0 then 0xA0 else 0x80 : UInt8).toNat ≤
        n / 64 % 0x40 + 0x80 := by
      split
      · simp
        omega
      · simp
    have hhigh : n / 64 % 0x40 + 0x80 ≤
        (if n / 4096 % 0x10 = 0xD then 0x9F else 0xBF : UInt8).toNat := by
      split <;> simp <;> omega
    rw [List.foldl_cons, List.foldl_cons, List.foldl_cons, List.foldl_nil,
      step_first_of_three read (by omega), step_middle _ _ 0 _ _ (by omega) hlow hhigh,
      step_last _ _ _ _ (by omega) (by simp) (by simp; omega), hbits, hc]
  · have hbits : ((n / 262144 % 8 * 64 + n / 4096 % 0x40) * 64 + n / 64 % 0x40) * 64 + n % 0x40 =
        n := by omega
    -- no long form of a smaller number, and nothing beyond the last character
    have hlow : (if n / 262144 % 8 = 0 then 0x90 else 0x80 : UInt8).toNat ≤
        n / 4096 % 0x40 + 0x80 := by
      split
      · simp
        omega
      · simp
    have hhigh : n / 4096 % 0x40 + 0x80 ≤
        (if n / 262144 % 8 = 4 then 0x8F else 0xBF : UInt8).toNat := by
      split <;> simp <;> omega
    rw [List.foldl_cons, List.foldl_cons, List.foldl_cons, List.foldl_cons, List.foldl_nil,
      step_first_of_four read (by omega), step_middle _ _ 1 _ _ (by omega) hlow hhigh,
      step_middle _ _ 0 _ _ (by omega) (by simp) (by simp; omega),
      step_last _ _ _ _ (by omega) (by simp) (by simp; omega), hbits, hc]

/-! ## Texts -/

theorem foldl_encode (read cs : List Char) :
    (encode cs).foldl Progress.step ⟨read, none⟩ = ⟨cs.reverse ++ read, none⟩ := by
  induction cs generalizing read with
  | nil => rfl
  | cons c cs ih =>
    have hcons : encode (c :: cs) = String.utf8EncodeChar c ++ encode cs := rfl
    rw [hcons, List.foldl_append, foldl_utf8EncodeChar, ih, List.reverse_cons, List.append_assoc]
    rfl

/-- **Reading what was written gives the text.** -/
theorem decode_encode (cs : List Char) : decode (encode cs) = cs := by
  rw [decode, foldl_encode, List.append_nil]
  exact List.reverse_reverse cs

theorem encode_ne_nil {cs : List Char} (h : cs ≠ []) : encode cs ≠ [] := by
  intro he
  have hd := decode_encode cs
  rw [he] at hd
  exact h hd.symm

/-- A byte below 80 stands for the character of its number and is part of no other. -/
theorem mem_of_mem_encode {cs : List Char} {b : UInt8} (hb : b.toNat < 0x80) (h : b ∈ encode cs) :
    Char.ofNat b.toNat ∈ cs := by
  obtain ⟨c, hc, hbc⟩ := List.mem_flatMap.1 h
  have hv : c.toNat < 0xD800 ∨ 0xDFFF < c.toNat ∧ c.toNat < 0x110000 := c.valid
  suffices hcb : b.toNat = c.toNat by
    rw [hcb, Char.ofNat_toNat]
    exact hc
  have hrange {m : Nat} (hm : b = UInt8.ofNat m) (hlt : m < 256) : b.toNat = m := by
    rw [hm]
    exact UInt8.toNat_ofNat_of_lt' hlt
  -- all bytes of a longer character are 80 or more
  rcases utf8EncodeChar_cases c with ⟨h, e⟩ | ⟨h, h', e⟩ | ⟨h, h', e⟩ | ⟨h, e⟩ <;>
    rw [e] at hbc <;> simp only [List.mem_cons, List.not_mem_nil, or_false] at hbc
  · exact hrange hbc (by omega)
  · rcases hbc with hm | hm <;> have := hrange hm (by omega) <;> omega
  · rcases hbc with hm | hm | hm <;> have := hrange hm (by omega) <;> omega
  · rcases hbc with hm | hm | hm | hm <;> have := hrange hm (by omega) <;> omega

/-- A character below 80 is written as the byte of its number. -/
theorem utf8EncodeChar_of_byte {b : UInt8} (h : b.toNat < 0x80) :
    String.utf8EncodeChar (Char.ofNat b.toNat) = [b] := by
  have hb : (Char.ofNat b.toNat).toNat = b.toNat := by
    have hvalid : b.toNat.isValidChar := .inl (by omega)
    rw [Char.ofNat, dif_pos hvalid]
    rfl
  rcases utf8EncodeChar_cases (Char.ofNat b.toNat) with ⟨-, e⟩ | ⟨h', -⟩ | ⟨h', -⟩ | ⟨h', -⟩
  · rw [e, hb, UInt8.ofNat_toNat]
  all_goals omega

theorem encode_map_of_bytes {bs : Bytes} (h : ∀ b ∈ bs, b.toNat < 0x80) :
    encode (bs.map fun b => Char.ofNat b.toNat) = bs := by
  induction bs with
  | nil => rfl
  | cons b bs ih =>
    have hb := utf8EncodeChar_of_byte (h b List.mem_cons_self)
    have hbs := ih fun c hc => h c (List.mem_cons_of_mem b hc)
    rw [encode] at hbs ⊢
    rw [List.map_cons, List.flatMap_cons, hb, hbs, List.singleton_append]

end Text.Utf8

theorem Bytes.toText_ofText (s : String) : (ofText s).toText = s := by
  rw [toText, ofText, Text.Utf8.decode_encode, String.ofList_toList]

/-- **Bytes below 80 are UTF-8**, so that writing gives back what was read. -/
theorem Bytes.ofText_toText {bs : Bytes} (h : ∀ b ∈ bs, b.toNat < 0x80) :
    ofText bs.toText = bs := by
  have hchars := Text.Utf8.encode_map_of_bytes h
  rw [toText, ← hchars, Text.Utf8.decode_encode, ofText, String.toList_ofList]

end WebScript
