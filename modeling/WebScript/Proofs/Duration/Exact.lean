import Mathlib.Algebra.Order.BigOperators.Group.List
import Mathlib.Algebra.Order.Floor.Semiring
import Mathlib.Data.Rat.Floor
import Mathlib.Tactic.FieldSimp
import Mathlib.Tactic.Linarith
import Mathlib.Tactic.NormNum
import Mathlib.Tactic.Ring
import WebScript.Proofs.Duration

/-!
# How exact durations are

A component stands for a decimal number of units. The reader adds its digits one by one, each at its
place rounded down to a nanosecond. That is exact as far as the places are whole numbers of
nanoseconds; minutes and hours, which are no powers of ten, lose several nanoseconds behind that.

* `Component.span`, `Component.IsWhole`, `Component.lost`: the exact length of a component, when all
  its digits stand at whole places, and what is lost of it.
* `fractionValue_of_whole`: **at whole places nothing is lost.**
* `floor_mul_decimals`: digits at whole places lose nothing, so what is lost is lost behind them.
* `Component.floor_span`: **what a component adds and what is lost of it are its exact length**,
  rounded down.
* `duration_exact`: **durations with digits at whole places are read exactly.**
* `duration_truncated`: what is lost of the others.
-/

namespace WebScript

namespace Http

/-- The digits behind a point as a number. -/
def decimals (ds : List Char) : ℚ := Number.ofDigits ds / 10 ^ ds.length

namespace Component

/-- **The exact length of a component** in nanoseconds: its decimal number times its unit. -/
def span (c : Component) : ℚ :=
  Number.ofDigits (c.whole ++ c.fraction) / 10 ^ c.fraction.length * c.unit.nanoseconds

/-- **Digits at whole places**: each that is not zero counts a whole number of nanoseconds. -/
def IsWhole (c : Component) : Prop :=
  ∀ i (h : i < c.fraction.length), c.fraction[i] ≠ '0' → 10 ^ (i + 1) ∣ c.unit.nanoseconds

/-- **The whole nanoseconds that are lost of a component.** The eleventh digit of a minute counts 0.6
nanoseconds, which are dropped with all that follows. The twelfth of an hour counts 3.6, of which 3
are kept. -/
def lost (c : Component) : Nat :=
  match c.unit with
  | .minute => ⌊6 * decimals (c.fraction.drop 10)⌋₊
  | .hour => ⌊36 * decimals (c.fraction.drop 11)⌋₊ -
    3 * Number.ofDigits ((c.fraction.drop 11).take 1)
  | _ => 0

end Component

variable {c : Component} {ds : List Char}

/-! ## Decimal numbers -/

theorem ofDigits_append (ds es : List Char) : Number.ofDigits (ds ++ es) =
    Number.ofDigits ds * 10 ^ es.length + Number.ofDigits es := by
  have hfold (n : Nat) : es.foldl (fun n d => 10 * n + (d.toNat - '0'.toNat)) n =
      n * 10 ^ es.length + Number.ofDigits es := by
    induction es generalizing n with
    | nil => simp [Number.ofDigits]
    | cons e es ih =>
      have hhead : Number.ofDigits (e :: es) =
          (10 * 0 + (e.toNat - '0'.toNat)) * 10 ^ es.length + Number.ofDigits es := ih _
      rw [List.foldl_cons, ih, hhead, List.length_cons, pow_succ]
      ring
  rw [Number.ofDigits, List.foldl_append]
  exact hfold _

theorem ofDigits_cons (d : Char) (ds : List Char) : Number.ofDigits (d :: ds) =
    (d.toNat - '0'.toNat) * 10 ^ ds.length + Number.ofDigits ds := by
  have hsingle : Number.ofDigits [d] = d.toNat - '0'.toNat := Nat.zero_add _
  have happend := ofDigits_append [d] ds
  rw [hsingle] at happend
  exact happend

theorem decimals_nil : decimals [] = 0 := by
  simp [decimals, Number.ofDigits]

/-- The first digit behind the point counts a tenth, and each next one a tenth of that. -/
theorem decimals_cons (d : Char) (ds : List Char) :
    decimals (d :: ds) = ((d.toNat - '0'.toNat : Nat) + decimals ds) / 10 := by
  rw [decimals, decimals, ofDigits_cons, List.length_cons, pow_succ]
  push_cast
  field_simp

theorem decimals_nonneg (ds : List Char) : 0 ≤ decimals ds := by
  unfold decimals
  positivity

theorem decimals_lt_one (h : ∀ d ∈ ds, d.isDigit = true) : decimals ds < 1 := by
  induction ds with
  | nil =>
    rw [decimals_nil]
    exact zero_lt_one
  | cons d ds ih =>
    have hd : ((d.toNat - '0'.toNat : Nat) : ℚ) ≤ 9 := by
      exact_mod_cast digit_le (h d List.mem_cons_self)
    have hrest : decimals ds < 1 := ih fun e he => h e (List.mem_cons_of_mem d he)
    rw [decimals_cons]
    linarith

/-- The exact length of a component: whole units, and a fraction of one. -/
theorem Component.span_eq (c : Component) : c.span =
    (Number.ofDigits c.whole * c.unit.nanoseconds : Nat) +
      c.unit.nanoseconds * decimals c.fraction := by
  rw [span, ofDigits_append, decimals]
  push_cast
  field_simp

/-! ## Whole places -/

theorem fractionValue_mul_cons (scale : Nat) (d : Char) (ds : List Char) :
    fractionValue (10 * scale) (d :: ds) =
      (d.toNat - '0'.toNat) * scale + fractionValue scale ds := by
  rw [fractionValue, Nat.mul_div_cancel_left scale (by decide)]

theorem mul_decimals_cons (scale : Nat) (d : Char) (ds : List Char) :
    ((10 * scale : Nat) : ℚ) * decimals (d :: ds) =
      ((d.toNat - '0'.toNat) * scale : Nat) + scale * decimals ds := by
  rw [decimals_cons]
  push_cast
  ring

theorem decimals_of_zeros (h : ∀ d ∈ ds, d = '0') (scale : Nat) :
    decimals ds = 0 ∧ fractionValue scale ds = 0 := by
  induction ds generalizing scale with
  | nil => exact ⟨decimals_nil, rfl⟩
  | cons d ds ih =>
    obtain rfl : d = '0' := h d List.mem_cons_self
    obtain ⟨hdecimals, hvalue⟩ := ih (fun e he => h e (List.mem_cons_of_mem '0' he)) (scale / 10)
    rw [decimals_cons, hdecimals, fractionValue, hvalue]
    simp

/-- **At whole places nothing is lost.** -/
theorem fractionValue_of_whole {scale : Nat}
    (h : ∀ i (hi : i < ds.length), ds[i] ≠ '0' → 10 ^ (i + 1) ∣ scale) :
    (fractionValue scale ds : ℚ) = scale * decimals ds := by
  induction ds generalizing scale with
  | nil => simp [fractionValue, decimals_nil]
  | cons d ds ih =>
    by_cases hscale : 10 ∣ scale
    · obtain ⟨tenth, rfl⟩ := hscale
      have hrest : ∀ i (hi : i < ds.length), ds[i] ≠ '0' → 10 ^ (i + 1) ∣ tenth := by
        intro i hi hne
        have hplace := h (i + 1) (Nat.succ_lt_succ hi) hne
        rw [pow_succ'] at hplace
        exact Nat.dvd_of_mul_dvd_mul_left (by decide) hplace
      rw [fractionValue_mul_cons, mul_decimals_cons, Nat.cast_add, ih hrest]
    · -- a place behind the first one is whole only if the first is
      have hzeros : ∀ e ∈ d :: ds, e = '0' := by
        intro e he
        obtain ⟨i, hi, rfl⟩ := List.getElem_of_mem he
        by_contra hne
        exact hscale (Dvd.dvd.trans (Dvd.intro_left _ (pow_succ 10 i).symm) (h i hi hne))
      obtain ⟨hdecimals, hvalue⟩ := decimals_of_zeros hzeros scale
      rw [hdecimals, hvalue]
      simp

theorem Component.IsWhole.span_eq (h : c.IsWhole) : c.span = c.amount := by
  have hfraction := fractionValue_of_whole h
  rw [Component.span_eq, amount, Nat.cast_add, hfraction]

/-! ## What is lost behind them -/

/-- **What is lost is lost behind the whole places.** -/
theorem floor_mul_decimals (factor places : Nat) (ds : List Char) :
    ⌊((factor * 10 ^ places : Nat) : ℚ) * decimals ds⌋₊ + fractionValue factor (ds.drop places) =
      fractionValue (factor * 10 ^ places) ds + ⌊(factor : ℚ) * decimals (ds.drop places)⌋₊ := by
  induction places generalizing ds with
  | zero =>
    rw [pow_zero, Nat.mul_one, List.drop_zero]
    exact Nat.add_comm _ _
  | succ places ih =>
    cases ds with
    | nil => simp [decimals_nil, fractionValue]
    | cons d ds =>
      have hscale : factor * 10 ^ (places + 1) = 10 * (factor * 10 ^ places) := by ring
      have hrest : (0 : ℚ) ≤ (factor * 10 ^ places : Nat) * decimals ds :=
        mul_nonneg (Nat.cast_nonneg _) (decimals_nonneg ds)
      rw [hscale, mul_decimals_cons, fractionValue_mul_cons, List.drop_succ_cons,
        add_comm ((_ : Nat) : ℚ), Nat.floor_add_natCast hrest]
      have hplaces := ih ds
      omega

/-- A unit as a number of the last whole place. -/
theorem floor_nanoseconds_mul {u : TimeUnit} (factor places : Nat)
    (hu : u.nanoseconds = factor * 10 ^ places) (ds : List Char) :
    ⌊(u.nanoseconds : ℚ) * decimals ds⌋₊ + fractionValue factor (ds.drop places) =
      fractionValue u.nanoseconds ds + ⌊(factor : ℚ) * decimals (ds.drop places)⌋₊ := by
  rw [hu]
  exact floor_mul_decimals factor places ds

theorem isDigit_drop (h : ∀ d ∈ ds, d.isDigit = true) (places : Nat) :
    ∀ d ∈ ds.drop places, d.isDigit = true :=
  fun d hd => h d (List.mem_of_mem_drop hd)

theorem floor_mul_decimals_lt (h : ∀ d ∈ ds, d.isDigit = true) (factor : Nat) (hf : 0 < factor) :
    ⌊(factor : ℚ) * decimals ds⌋₊ < factor := by
  have hpos : (0 : ℚ) < factor := Nat.cast_pos.2 hf
  have hlt : (factor : ℚ) * decimals ds < factor := by
    have hone := decimals_lt_one h
    nlinarith
  exact (Nat.floor_lt (mul_nonneg hpos.le (decimals_nonneg ds))).2 hlt

/-- Of 36 nanoseconds the first digit keeps three each, and the next ones nothing. -/
theorem fractionValue_hour (ds : List Char) :
    fractionValue 36 ds = 3 * Number.ofDigits (ds.take 1) := by
  cases ds with
  | nil => rfl
  | cons d ds =>
    rw [fractionValue, fractionValue_of_lt (by decide), List.take_succ_cons, List.take_zero,
      ofDigits_cons]
    simp [Number.ofDigits, Nat.mul_comm]

/-- What the first digit keeps of 36 nanoseconds, and less than nine more, is all of them. -/
theorem floor_hour_bounds (h : ∀ d ∈ ds, d.isDigit = true) :
    3 * Number.ofDigits (ds.take 1) ≤ ⌊36 * decimals ds⌋₊ ∧
      ⌊36 * decimals ds⌋₊ ≤ 3 * Number.ofDigits (ds.take 1) + 8 := by
  cases ds with
  | nil => simp [Number.ofDigits, decimals_nil]
  | cons d ds =>
    have hd : ((d.toNat - '0'.toNat : Nat) : ℚ) ≤ 9 := by
      exact_mod_cast digit_le (h d List.mem_cons_self)
    have hpos : (0 : ℚ) ≤ (d.toNat - '0'.toNat : Nat) := Nat.cast_nonneg _
    have hrest : decimals ds < 1 := decimals_lt_one fun e he => h e (List.mem_cons_of_mem d he)
    have hnonneg := decimals_nonneg ds
    have hdigit : Number.ofDigits ((d :: ds).take 1) = d.toNat - '0'.toNat := Nat.zero_add _
    rw [hdigit, decimals_cons]
    generalize d.toNat - '0'.toNat = digit at hd hpos
    constructor
    · refine Nat.le_floor ?_
      push_cast
      linarith
    · rw [← Nat.lt_succ_iff, Nat.floor_lt (by linarith)]
      push_cast
      linarith

/-- **What a component adds and what is lost of it** are its exact length, rounded down. -/
theorem Component.floor_span (h : ∀ d ∈ c.fraction, d.isDigit = true) :
    ⌊c.span⌋₊ = c.amount + c.lost := by
  have hnonneg : 0 ≤ (c.unit.nanoseconds : ℚ) * decimals c.fraction :=
    mul_nonneg (Nat.cast_nonneg _) (decimals_nonneg _)
  have hfraction : ⌊(c.unit.nanoseconds : ℚ) * decimals c.fraction⌋₊ =
      fractionValue c.unit.nanoseconds c.fraction + c.lost := by
    -- powers of ten have whole places down to a nanosecond, behind which there is none
    have hpower (places : Nat) (hu : c.unit.nanoseconds = 1 * 10 ^ places) :
        ⌊(c.unit.nanoseconds : ℚ) * decimals c.fraction⌋₊ =
          fractionValue c.unit.nanoseconds c.fraction := by
      have hplaces := floor_nanoseconds_mul 1 places hu c.fraction
      have hlt := floor_mul_decimals_lt (isDigit_drop h places) 1 Nat.one_pos
      rw [fractionValue_of_lt (by decide)] at hplaces
      omega
    unfold lost
    cases hu : c.unit with
    | nanosecond => simpa [hu] using hpower 0 (by rw [hu]; rfl)
    | microsecond => simpa [hu] using hpower 3 (by rw [hu]; rfl)
    | millisecond => simpa [hu] using hpower 6 (by rw [hu]; rfl)
    | second => simpa [hu] using hpower 9 (by rw [hu]; rfl)
    | minute =>
      have hplaces := floor_nanoseconds_mul (u := .minute) 6 10 rfl c.fraction
      rw [fractionValue_of_lt (by decide)] at hplaces
      exact_mod_cast hplaces
    | hour =>
      have hplaces := floor_nanoseconds_mul (u := .hour) 36 11 rfl c.fraction
      have hbounds := floor_hour_bounds (isDigit_drop h 11)
      rw [fractionValue_hour] at hplaces
      push_cast at hplaces ⊢
      omega
  rw [span_eq, add_comm ((_ : Nat) : ℚ), Nat.floor_add_natCast hnonneg, hfraction, amount]
  omega

/-- The most that can be lost of a component with a unit. -/
def TimeUnit.mostLost : TimeUnit → Nat
  | .minute => 5
  | .hour => 8
  | _ => 0

theorem Component.lost_le (h : ∀ d ∈ c.fraction, d.isDigit = true) :
    c.lost ≤ c.unit.mostLost := by
  unfold lost
  cases c.unit with
  | minute =>
    have hlt := floor_mul_decimals_lt (isDigit_drop h 10) 6 (by decide)
    exact Nat.le_of_lt_succ (by exact_mod_cast hlt)
  | hour =>
    have hbounds := floor_hour_bounds (isDigit_drop h 11)
    simp only [TimeUnit.mostLost]
    omega
  | nanosecond | microsecond | millisecond | second => exact Nat.le_refl 0

/-- Ten digits behind the point stand at whole places of any unit that loses something. -/
theorem Component.lost_of_length_le (h : c.fraction.length ≤ 10) : c.lost = 0 := by
  have htail (places : Nat) (hp : 10 ≤ places) : c.fraction.drop places = [] :=
    List.drop_eq_nil_of_le (Nat.le_trans h hp)
  unfold lost
  cases c.unit with
  | minute => simp [htail 10 (by decide), decimals_nil]
  | hour => simp [htail 11 (by decide), decimals_nil]
  | nanosecond | microsecond | millisecond | second => rfl

/-! ## Durations -/

variable {components : List Component} {cs : List Char} {negative : Bool}

theorem SpelledBy.forall_mem (h : SpelledBy components cs) :
    ∀ c ∈ components, ∀ d ∈ c.fraction, d.isDigit = true := by
  induction h with
  | nil => exact nofun
  | cons hc _ ih => exact List.forall_mem_cons.2 ⟨hc.fraction_digits, ih⟩

theorem IsDuration.forall_mem (h : IsDuration negative components cs) :
    ∀ c ∈ components, ∀ d ∈ c.fraction, d.isDigit = true := by
  cases h with
  | zero => exact nofun
  | components _ _ hspelled => exact hspelled.forall_mem

theorem sum_span_of_whole (h : ∀ c ∈ components, c.IsWhole) :
    ((components.map Component.amount).sum : ℚ) = (components.map Component.span).sum := by
  induction components with
  | nil => rfl
  | cons c components ih =>
    rw [List.forall_mem_cons] at h
    rw [List.map_cons, List.map_cons, List.sum_cons, List.sum_cons, Nat.cast_add, ih h.2,
      h.1.span_eq]

theorem sum_floor_span (h : ∀ c ∈ components, ∀ d ∈ c.fraction, d.isDigit = true) :
    (components.map fun c => ⌊c.span⌋₊).sum =
      (components.map Component.amount).sum + (components.map Component.lost).sum := by
  induction components with
  | nil => rfl
  | cons c components ih =>
    rw [List.forall_mem_cons] at h
    rw [List.map_cons, List.map_cons, List.map_cons, List.sum_cons, List.sum_cons, List.sum_cons,
      ih h.2, Component.floor_span h.1]
    omega

theorem readDuration_eq_ok_iff {text : String} {n : Nat} :
    readDuration text = .ok n ↔ durationOf text.toList = .ok n := by
  unfold readDuration
  cases durationOf text.toList with
  | ok m => simp
  | error f => exact iff_of_false nofun nofun

end Http

/-- **Durations are read exactly.** Of a well-formed text whose digits stand at whole places, the
exact sum of its components is a number of nanoseconds, and what is read: unless it takes more than
63 bits, or is negative. A text that is not well-formed is refused, as is any other of which nothing
is read; and it is never refused because a product or a sum does not fit into 128 bits. -/
theorem duration_exact (text : String) :
    (∀ negative components, Http.IsDuration negative components text.toList →
      (∀ c ∈ components, c.IsWhole) →
      ∃ total : Nat, (total : ℚ) = (components.map Http.Component.span).sum ∧
        ∀ n, Http.readDuration text = .ok n ↔
          n = total ∧ total ≤ 2 ^ 63 - 1 ∧ (negative = true → total = 0)) ∧
    ((∃ n negative components, Http.readDuration text = .ok n ∧
        Http.IsDuration negative components text.toList) ∨
      ∃ f, f ≠ Http.DurationFault.overflow ∧ Http.durationOf text.toList = .error f ∧
        Http.readDuration text = .error (.host (f.message text))) := by
  constructor
  · intro negative components hduration hwhole
    refine ⟨_, Http.sum_span_of_whole hwhole, fun n => ?_⟩
    rw [Http.readDuration_eq_ok_iff, Http.durationOf_of_isDuration hduration]
    constructor
    · rintro ⟨rfl, hle, hnegative⟩
      exact ⟨rfl, hle, hnegative⟩
    · rintro ⟨rfl, hle, hnegative⟩
      exact ⟨rfl, hle, hnegative⟩
  · cases hread : Http.durationOf text.toList with
    | ok n =>
      obtain ⟨negative, components, hduration⟩ := Http.exists_of_durationOf hread
      exact .inl ⟨n, negative, components, Http.readDuration_eq_ok_iff.2 hread, hduration⟩
    | error f =>
      have hne : f ≠ .overflow := by
        rintro rfl
        exact Http.durationOf_ne_overflow _ hread
      refine .inr ⟨f, hne, rfl, ?_⟩
      rw [Http.readDuration, hread]

/-- A sign, a point, and the micro sign. -/
theorem duration_exact_of_two_units :
    let components : List Http.Component := [⟨['1'], ['5'], .minute⟩, ⟨['2'], [], .microsecond⟩]
    Http.IsDuration false components "+1.5m2µs".toList ∧ (∀ c ∈ components, c.IsWhole) ∧
      Http.readDuration "+1.5m2µs" = .ok 90000002000 := by
  intro components
  have hduration : Http.IsDuration false components "+1.5m2µs".toList := by
    have hminute : (⟨['1'], ['5'], .minute⟩ : Http.Component).SpelledBy "1.5m".toList :=
      ⟨List.all_eq_true.1 rfl, by decide, _, .pointed, ['m'], by decide, rfl⟩
    have hmicrosecond : (⟨['2'], [], .microsecond⟩ : Http.Component).SpelledBy "2µs".toList :=
      ⟨List.all_eq_true.1 rfl, by decide, _, .plain rfl, ['µ', 's'], by decide, rfl⟩
    exact .components .plus (List.cons_ne_nil _ _) (.cons hminute (.cons hmicrosecond .nil))
  have hwhole : ∀ c ∈ components, c.IsWhole := by
    refine List.forall_mem_cons.2 ⟨fun i hi _ => ?_, List.forall_mem_singleton.2 fun i hi => ?_⟩
    · obtain rfl : i = 0 := Nat.lt_one_iff.1 hi
      exact ⟨6000000000, rfl⟩
    · exact absurd hi (Nat.not_lt_zero i)
  obtain ⟨total, htotal, hread⟩ := (duration_exact "+1.5m2µs").1 _ _ hduration hwhole
  have hminute : (⟨['1'], ['5'], .minute⟩ : Http.Component).span = 90000000000 := by
    have hdigits : Number.ofDigits (['1'] ++ ['5']) = 15 := rfl
    rw [Http.Component.span, hdigits]
    norm_num [Http.TimeUnit.nanoseconds]
  have hmicrosecond : (⟨['2'], [], .microsecond⟩ : Http.Component).span = 2000 := by
    have hdigits : Number.ofDigits (['2'] ++ []) = 2 := rfl
    rw [Http.Component.span, hdigits]
    norm_num [Http.TimeUnit.nanoseconds]
  have hsum : (total : ℚ) = (90000002000 : Nat) := by
    rw [htotal, List.map_cons, List.map_singleton, List.sum_cons, List.sum_singleton, hminute,
      hmicrosecond]
    norm_num
  obtain rfl : total = 90000002000 := Nat.cast_injective hsum
  exact ⟨hduration, hwhole, (hread _).2 ⟨rfl, by norm_num, fun h => absurd h Bool.false_ne_true⟩⟩

/-- **What is lost of a duration.** What is read and the whole nanoseconds that are lost of its
components are their exact lengths, each rounded down. A component of minutes loses up to five
nanoseconds and one of hours up to eight, none with ten digits or fewer behind the point, and other
components nothing. -/
theorem duration_truncated {text : String} {n : Nat} (h : Http.readDuration text = .ok n) :
    (∃ negative components, Http.IsDuration negative components text.toList) ∧
    ∀ negative components, Http.IsDuration negative components text.toList →
      n + (components.map Http.Component.lost).sum =
        (components.map fun c => ⌊c.span⌋₊).sum ∧
      (n = (components.map fun c => ⌊c.span⌋₊).sum ↔ ∀ c ∈ components, c.lost = 0) ∧
      ∀ c ∈ components, c.lost ≤ c.unit.mostLost ∧ (c.fraction.length ≤ 10 → c.lost = 0) := by
  rw [Http.readDuration_eq_ok_iff] at h
  refine ⟨Http.exists_of_durationOf h, fun negative components hduration => ?_⟩
  have hdigits := hduration.forall_mem
  have hsum := Http.sum_floor_span hdigits
  obtain ⟨rfl, -, -⟩ := (Http.durationOf_of_isDuration hduration).1 h
  refine ⟨hsum.symm, ?_, fun c hc => ⟨Http.Component.lost_le (hdigits c hc),
    Http.Component.lost_of_length_le⟩⟩
  rw [hsum, left_eq_add, List.sum_eq_zero_iff, List.forall_mem_map]

/-- Of eleven digits of a minute and twelve of an hour something is lost. -/
theorem duration_truncated_of_two_units :
    let components : List Http.Component :=
      [⟨[], "00000000009".toList, .minute⟩, ⟨[], "000000000009".toList, .hour⟩]
    Http.readDuration ".00000000009m.000000000009h" = .ok 27 ∧
      27 + (components.map Http.Component.lost).sum =
        (components.map fun c => ⌊c.span⌋₊).sum := by
  intro components
  have hread : Http.readDuration ".00000000009m.000000000009h" = .ok 27 := by decide +kernel
  have hduration : Http.IsDuration false components ".00000000009m.000000000009h".toList := by
    have hminute : (⟨[], "00000000009".toList, .minute⟩ : Http.Component).SpelledBy
        ".00000000009m".toList :=
      ⟨List.all_eq_true.1 rfl, by decide, _, .pointed, ['m'], by decide, rfl⟩
    have hhour : (⟨[], "000000000009".toList, .hour⟩ : Http.Component).SpelledBy
        ".000000000009h".toList :=
      ⟨List.all_eq_true.1 rfl, by decide, _, .pointed, ['h'], by decide, rfl⟩
    exact .components .none (List.cons_ne_nil _ _) (.cons hminute (.cons hhour .nil))
  exact ⟨hread, ((duration_truncated hread).2 _ _ hduration).1⟩

/-- Five whole nanoseconds are read as none. -/
theorem duration_of_lost_digit :
    let component : Http.Component := ⟨['0'], "00000000009".toList, .minute⟩
    Http.IsDuration false [component] "0.00000000009m".toList ∧
      Http.readDuration "0.00000000009m" = .ok 0 ∧ ⌊component.span⌋₊ = 5 := by
  intro component
  refine ⟨?_, by decide +kernel, ?_⟩
  · have hspelled : component.SpelledBy "0.00000000009m".toList :=
      ⟨List.all_eq_true.1 rfl, by decide, _, .pointed, ['m'], by decide, rfl⟩
    exact .components .none (List.cons_ne_nil _ _) (.cons hspelled .nil)
  · have hspan : component.span = 27 / 5 := by
      have hdigits : Number.ofDigits (['0'] ++ "00000000009".toList) = 9 := rfl
      have hlength : "00000000009".toList.length = 11 := rfl
      rw [Http.Component.span, hdigits, hlength]
      norm_num [component, Http.TimeUnit.nanoseconds]
    rw [hspan, Nat.floor_eq_iff (by norm_num)]
    norm_num

end WebScript
