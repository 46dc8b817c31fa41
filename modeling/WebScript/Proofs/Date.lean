import Mathlib.Tactic.Common
import WebScript.Http.Date

/-!
# The range and the text of dates

* `year_ofDays_bounds`: **the days of the years -9999 to 9999** are those of a range of numbers.
* `isSome_httpDate?_iff`: the points in time that have a text are those of these years.
* `isAttribute_httpDate`: **the text of a point in time** is printable ASCII without a semicolon.
-/

namespace WebScript.Http

/-! ## Years -/

/-- The year that a day of an era falls in, counted from the March in which the era begins. -/
def yearInEra (dayOfEra : Nat) : Nat :=
  let yearOfEra := (dayOfEra - dayOfEra / 1460 + dayOfEra / 36524 - dayOfEra / 146096) / 365
  let dayOfYear := dayOfEra - (365 * yearOfEra + yearOfEra / 4 - yearOfEra / 100)
  yearOfEra + if (5 * dayOfYear + 2) / 153 < 10 then 0 else 1

theorem yearInEra_bounds {d : Nat} (h : d < 146097) :
    yearInEra d ≤ 400 ∧ (yearInEra d = 0 ↔ d < 306) ∧ (yearInEra d = 400 ↔ 146037 ≤ d) := by
  simp only [yearInEra]
  have hlast : d / 146096 ≤ 1 := by omega
  generalize hy : (d - d / 1460 + d / 36524 - d / 146096) / 365 = y
  split <;> omega

theorem year_ofDays (days : Int) : (Civil.ofDays days).year =
    yearInEra ((days + 719468) % 146097).toNat + (days + 719468) / 146097 * 400 := by
  have hd : ((days + 719468) % 146097).toNat < 146097 := by omega
  generalize hd' : ((days + 719468) % 146097).toNat = d at hd
  simp only [Civil.ofDays, yearInEra, hd']
  generalize hy : (d - d / 1460 + d / 36524 - d / 146096) / 365 = y
  generalize hm : (5 * (d - (365 * y + y / 4 - y / 100)) + 2) / 153 = m
  have hmonth : m ≤ 11 := by omega
  by_cases hspring : m < 10
  · rw [if_pos hspring, if_pos hspring, if_neg (by omega)]
    push_cast
    omega
  · rw [if_neg hspring, if_neg hspring, if_pos (by omega)]
    push_cast
    omega

/-- **The days of the years -9999 to 9999.** -/
theorem year_ofDays_bounds (days : Int) :
    -9999 ≤ (Civil.ofDays days).year ∧ (Civil.ofDays days).year ≤ 9999 ↔
      -4371587 ≤ days ∧ days < 2932897 := by
  have hd : ((days + 719468) % 146097).toNat < 146097 := by omega
  obtain ⟨hle, hfirst, hlast⟩ := yearInEra_bounds hd
  rw [year_ofDays]
  omega

/-- **The points in time that have a text** are those of these years. -/
theorem isSome_httpDate?_iff (seconds : Int) : (httpDate? seconds).isSome ↔
    -9999 ≤ (Civil.ofDays (seconds / 86400)).year ∧
      (Civil.ofDays (seconds / 86400)).year ≤ 9999 := by
  rw [year_ofDays_bounds]
  unfold httpDate?
  split
  · rename_i hout
    simp only [Option.isSome_none, Bool.false_eq_true, false_iff]
    omega
  · rename_i hin
    simp only [Option.isSome_some, true_iff]
    omega

/-! ## Text -/

/-- Printable ASCII without a semicolon: text that may stand in an attribute of a header. -/
def IsAttribute (cs : List Char) : Prop :=
  ∀ c ∈ cs, (0x20 ≤ c.toNat ∧ c.toNat < 0x7F) ∧ c ≠ ';'

instance (cs : List Char) : Decidable (IsAttribute cs) :=
  List.decidableBAll (fun c : Char => (0x20 ≤ c.toNat ∧ c.toNat < 0x7F) ∧ c ≠ ';') cs

theorem isAttribute_append {cs ds : List Char} (hc : IsAttribute cs) (hd : IsAttribute ds) :
    IsAttribute (cs ++ ds) := by
  intro c hmem
  rcases List.mem_append.1 hmem with h | h
  · exact hc c h
  · exact hd c h

theorem isAttribute_padded (width n : Nat) : IsAttribute (padded width n).toList := by
  intro c hc
  have hdigit : c.isDigit = true := by
    rw [padded, String.toList_ofList, List.mem_append] at hc
    rcases hc with hc | hc
    · rw [List.eq_of_mem_replicate hc]
      decide
    · exact Nat.isDigit_of_mem_toDigits (by decide) (by decide) hc
  obtain ⟨hlow, hhigh⟩ := Char.isDigit_iff_toNat.1 hdigit
  have hends : '0'.toNat = 48 ∧ '9'.toNat = 57 := by decide
  refine ⟨⟨by omega, by omega⟩, ?_⟩
  rintro rfl
  exact absurd hdigit (by decide)

theorem isAttribute_yearText (y : Int) : IsAttribute (yearText y).toList := by
  rw [yearText, String.toList_append]
  refine isAttribute_append ?_ (isAttribute_padded 4 _)
  split <;> decide

/-- One of a list of words, or nothing behind its end. -/
theorem isAttribute_getD {l : List String} (h : ∀ s ∈ l, IsAttribute s.toList) (i : Nat) :
    IsAttribute (l[i]?.getD "").toList := by
  cases hi : l[i]? with
  | none => decide
  | some s => exact h s (List.mem_of_getElem? hi)

/-- **The text of a point in time** is printable ASCII without a semicolon. -/
theorem isAttribute_httpDate {seconds : Int} {date : String} (h : httpDate? seconds = some date) :
    IsAttribute date.toList := by
  unfold httpDate? at h
  split at h
  · cases h
  · intro c hc
    rw [← Option.some.inj h, String.toList_join, List.mem_flatMap] at hc
    obtain ⟨part, hpart, hmem⟩ := hc
    refine (?_ : IsAttribute part.toList) c hmem
    simp only [List.mem_cons, List.not_mem_nil, or_false] at hpart
    rcases hpart with rfl | rfl | rfl | rfl | rfl | rfl | rfl |
      rfl | rfl | rfl | rfl | rfl | rfl | rfl
    exacts [isAttribute_getD (by decide) _, by decide, isAttribute_padded 2 _, by decide,
      isAttribute_getD (by decide) _, by decide, isAttribute_yearText _, by decide,
      isAttribute_padded 2 _, by decide, isAttribute_padded 2 _, by decide,
      isAttribute_padded 2 _, by decide]

end WebScript.Http
