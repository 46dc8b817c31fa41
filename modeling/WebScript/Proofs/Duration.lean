import Mathlib.Algebra.Ring.Nat
import WebScript.Http.Duration
import WebScript.Proofs.Text

/-!
# The grammar of durations

What a duration looks like, and what the reader makes of it: it takes every text of that form, and
no other, for the sum of its components, and the 128 bits in which the sum is computed are enough.

* `Component.SpelledBy`, `SpelledBy`, `IsDuration`: the form of a component, of components one
  behind the other, and of a duration.
* `readComponent_eq_ok_iff`: **a component is read exactly where one stands.**
* `Component.amount`: what a component adds, as a sum without bounds.
* `addComponent_eq`: **no product and no sum leaves the 128 bits.**
* `durationOf_of_isDuration`, `exists_of_durationOf`, `durationOf_ne_overflow`: **a duration is read
  exactly from a text of that form**, and is what its components add.
-/

namespace WebScript.Http

/-! ## The form of a duration -/

/-- How a unit is written; the micro sign is also the Greek letter mu. -/
def TimeUnit.spellings : TimeUnit → List (List Char)
  | .nanosecond => [['n', 's']]
  | .microsecond => [['u', 's'], ['\u00b5', 's'], ['\u03bc', 's']]
  | .millisecond => [['m', 's']]
  | .second => [['s']]
  | .minute => [['m']]
  | .hour => [['h']]

/-- **A decimal number** as it is written. The point may be left out where no digits follow it. -/
inductive IsDecimal (whole fraction : List Char) : List Char → Prop
  | plain : fraction = [] → IsDecimal whole fraction whole
  | pointed : IsDecimal whole fraction (whole ++ '.' :: fraction)

/-- **A component as it is written**: a decimal number of one or more digits, and its unit. -/
structure Component.SpelledBy (c : Component) (cs : List Char) : Prop where
  digits : ∀ d ∈ c.whole ++ c.fraction, d.isDigit = true
  ne_nil : c.whole ++ c.fraction ≠ []
  text : ∃ number, IsDecimal c.whole c.fraction number ∧
    ∃ spelling ∈ c.unit.spellings, cs = number ++ spelling

/-- Components one behind the other. -/
inductive SpelledBy : List Component → List Char → Prop
  | nil : SpelledBy [] []
  | cons {c : Component} {components : List Component} {cs r : List Char} :
    c.SpelledBy cs → SpelledBy components r → SpelledBy (c :: components) (cs ++ r)

/-- A sign, or none. -/
inductive IsSign : Bool → List Char → Prop
  | none : IsSign false []
  | plus : IsSign false ['+']
  | minus : IsSign true ['-']

/-- **A duration as it is written**: a sign or none, and then a lone zero, which has no components,
or one or more components. -/
inductive IsDuration (negative : Bool) : List Component → List Char → Prop
  | zero {sign : List Char} : IsSign negative sign → IsDuration negative [] (sign ++ ['0'])
  | components {sign r : List Char} {components : List Component} : IsSign negative sign →
    components ≠ [] → SpelledBy components r → IsDuration negative components (sign ++ r)

/-! ## Reading a component -/

variable {u : TimeUnit} {c : Component} {components : List Component} {cs r ds : List Char}
  {n total scale : Nat}

theorem TimeUnit.ofSpelling?_eq_some_iff : ofSpelling? cs = some u ↔ cs ∈ u.spellings := by
  constructor
  · intro h
    unfold ofSpelling? at h
    split at h <;> cases h <;> decide
  · intro h
    cases u <;> simp only [spellings, List.mem_cons, List.not_mem_nil, or_false] at h
    case microsecond => rcases h with rfl | rfl | rfl <;> rfl
    all_goals subst h; rfl

theorem TimeUnit.isUnitChar_of_spellings (h : cs ∈ u.spellings) :
    cs ≠ [] ∧ ∀ d ∈ cs, isUnitChar d = true := by
  cases u <;> simp only [spellings, List.mem_cons, List.not_mem_nil, or_false] at h
  case microsecond =>
    rcases h with rfl | rfl | rfl <;> exact ⟨List.cons_ne_nil _ _, List.all_eq_true.1 rfl⟩
  all_goals subst h; exact ⟨List.cons_ne_nil _ _, List.all_eq_true.1 rfl⟩

theorem isDigit_of_isUnitChar {d : Char} (h : isUnitChar d = true) :
    d.isDigit = false ∧ d ≠ '.' := by
  simpa [isUnitChar, and_comm] using h

/-- The text of a unit begins with no digit and no point. -/
theorem head?_of_spellings (h : cs ∈ u.spellings) :
    ∀ d ∈ (cs ++ r).head?, d.isDigit = false ∧ d ≠ '.' := by
  obtain ⟨hne, hchars⟩ := TimeUnit.isUnitChar_of_spellings h
  obtain ⟨e, cs, rfl⟩ := List.exists_cons_of_ne_nil hne
  intro d hd
  obtain rfl : e = d := Option.some.inj hd
  exact isDigit_of_isUnitChar (hchars e List.mem_cons_self)

/-- Digits and a point that may follow them are a decimal number, and the rest is left. -/
theorem exists_isDecimal (cs : List Char) : ∃ whole fraction number r,
    (Number.splitDigits cs).1 = whole ∧ splitFraction (Number.splitDigits cs).2 = (fraction, r) ∧
      IsDecimal whole fraction number ∧ cs = number ++ r ∧
      ∀ d ∈ whole ++ fraction, d.isDigit = true := by
  have hcs := Number.splitDigits_append cs
  have hwhole : ∀ d ∈ (Number.splitDigits cs).1, d.isDigit = true :=
    fun d hd => List.mem_takeWhile_imp hd
  by_cases hpoint : ∃ rest, (Number.splitDigits cs).2 = '.' :: rest
  · obtain ⟨rest, hrest⟩ := hpoint
    have hfraction := Number.splitDigits_append rest
    refine ⟨_, (Number.splitDigits rest).1, _, (Number.splitDigits rest).2, rfl, ?_, .pointed, ?_,
      fun d hd => ?_⟩
    · rw [hrest, splitFraction]
    · rw [List.append_assoc, List.cons_append, hfraction, ← hrest, hcs]
    · exact (List.mem_append.1 hd).elim (hwhole d) List.mem_takeWhile_imp
  · refine ⟨_, [], _, (Number.splitDigits cs).2, rfl, ?_, .plain rfl, hcs.symm, ?_⟩
    · rw [splitFraction]
      exact fun rest hrest => hpoint ⟨rest, hrest⟩
    · rw [List.append_nil]
      exact hwhole

/-- A decimal number is split off where it ends. -/
theorem split_of_isDecimal {whole fraction number : List Char}
    (hd : ∀ d ∈ whole ++ fraction, d.isDigit = true) (hn : IsDecimal whole fraction number)
    (hr : ∀ d ∈ r.head?, d.isDigit = false ∧ d ≠ '.') :
    (Number.splitDigits (number ++ r)).1 = whole ∧
      splitFraction (Number.splitDigits (number ++ r)).2 = (fraction, r) := by
  have hwhole : ∀ d ∈ whole, d.isDigit = true := fun d hm => hd d (List.mem_append_left _ hm)
  have hfraction : ∀ d ∈ fraction, d.isDigit = true := fun d hm => hd d (List.mem_append_right _ hm)
  have hstop : ∀ d ∈ r.head?, d.isDigit = false := fun d hm => (hr d hm).1
  cases hn with
  | plain hnil =>
    obtain ⟨htake, hdrop⟩ := Text.span_append hwhole hstop
    refine ⟨htake, ?_⟩
    rw [Number.splitDigits, hdrop, hnil]
    cases r with
    | nil => rfl
    | cons d r =>
      have hpoint : d ≠ '.' := (hr d rfl).2
      unfold splitFraction
      split
      · rename_i heq
        exact absurd (List.cons.inj heq).1 hpoint
      · rfl
  | pointed =>
    have hpoint : ∀ d ∈ ('.' :: (fraction ++ r)).head?, d.isDigit = false := by
      intro d hm
      cases hm
      decide
    rw [List.append_assoc, List.cons_append]
    obtain ⟨htake, hdrop⟩ := Text.span_append hwhole hpoint
    obtain ⟨htake', hdrop'⟩ := Text.span_append hfraction hstop
    refine ⟨htake, ?_⟩
    rw [Number.splitDigits, hdrop, splitFraction, Number.splitDigits, htake', hdrop']

theorem isEmpty_and_isEmpty (ds es : List Char) :
    (ds.isEmpty && es.isEmpty) = true ↔ ds ++ es = [] := by
  rw [Bool.and_eq_true, List.isEmpty_iff, List.isEmpty_iff, List.append_eq_nil_iff]

/-- What is read is a component, up to where its unit ends. -/
theorem exists_of_readComponent (h : readComponent cs = .ok (c, r)) :
    ∃ front, c.SpelledBy front ∧ cs = front ++ r ∧ ∀ d ∈ r.head?, isUnitChar d = false := by
  obtain ⟨whole, fraction, number, rest, hwhole, hfraction, hnumber, rfl, hdigits⟩ :=
    exists_isDecimal cs
  simp only [readComponent, hwhole, hfraction, isEmpty_and_isEmpty] at h
  split at h
  · cases h
  · rename_i hne
    split at h
    · rename_i unit hunit
      cases h
      refine ⟨number ++ rest.takeWhile isUnitChar, ⟨hdigits, hne, number, hnumber,
        _, TimeUnit.ofSpelling?_eq_some_iff.1 hunit, rfl⟩, ?_, fun d hd => ?_⟩
      · rw [List.append_assoc, List.takeWhile_append_dropWhile]
      · have hstop := List.head?_dropWhile_not isUnitChar rest
        rw [hd] at hstop
        simpa using hstop
    · cases h

/-- A component is read where its unit ends. -/
theorem readComponent_of_spelledBy (h : c.SpelledBy cs)
    (hr : ∀ d ∈ r.head?, isUnitChar d = false) : readComponent (cs ++ r) = .ok (c, r) := by
  obtain ⟨hdigits, hne, number, hnumber, spelling, hspelling, rfl⟩ := h
  obtain ⟨hwhole, hfraction⟩ :=
    split_of_isDecimal hdigits hnumber (head?_of_spellings hspelling (r := r))
  obtain ⟨htake, hdrop⟩ := Text.span_append (TimeUnit.isUnitChar_of_spellings hspelling).2 hr
  have hempty : ¬ (c.whole.isEmpty && c.fraction.isEmpty) = true := by
    rw [isEmpty_and_isEmpty]
    exact hne
  rw [List.append_assoc]
  simp only [readComponent, hwhole, hfraction, if_neg hempty, htake, hdrop,
    TimeUnit.ofSpelling?_eq_some_iff.2 hspelling]

/-- **A component is read exactly where one stands** that no unit goes on behind. -/
theorem readComponent_eq_ok_iff : readComponent cs = .ok (c, r) ↔
    ∃ front, c.SpelledBy front ∧ cs = front ++ r ∧ ∀ d ∈ r.head?, isUnitChar d = false := by
  refine ⟨exists_of_readComponent, ?_⟩
  rintro ⟨front, hfront, rfl, hr⟩
  exact readComponent_of_spelledBy hfront hr

/-- A decimal number begins with a digit or a point. -/
theorem IsDecimal.exists_cons {whole fraction number : List Char}
    (h : IsDecimal whole fraction number) (hd : ∀ d ∈ whole ++ fraction, d.isDigit = true)
    (hne : whole ++ fraction ≠ []) : ∃ d rest, number = d :: rest ∧ isUnitChar d = false := by
  cases whole with
  | cons d whole =>
    have hdigit : isUnitChar d = false := by
      rw [isUnitChar, hd d List.mem_cons_self, Bool.not_true, Bool.and_false]
    cases h with
    | plain => exact ⟨d, whole, rfl, hdigit⟩
    | pointed => exact ⟨d, _, rfl, hdigit⟩
  | nil =>
    cases h with
    | plain hnil => exact absurd hnil hne
    | pointed => exact ⟨'.', fraction, rfl, by decide⟩

theorem Component.SpelledBy.exists_cons (h : c.SpelledBy cs) :
    ∃ d rest, cs = d :: rest ∧ isUnitChar d = false := by
  obtain ⟨hdigits, hne, number, hnumber, spelling, -, rfl⟩ := h
  obtain ⟨d, rest, rfl, hd⟩ := hnumber.exists_cons hdigits hne
  exact ⟨d, rest ++ spelling, rfl, hd⟩

/-- Where components begin, or none are left, no unit goes on. -/
theorem SpelledBy.head?_not_unit (h : SpelledBy components cs) :
    ∀ d ∈ cs.head?, isUnitChar d = false := by
  cases h with
  | nil => exact nofun
  | cons hc =>
    obtain ⟨d, rest, rfl, hd⟩ := hc.exists_cons
    exact fun e he => Option.some.inj he ▸ hd

/-! ## Adding components up -/

/-- What digits behind the point come to, when the first of them counts `scale / 10` and each next
one a tenth of that, rounded down. -/
def fractionValue (scale : Nat) : List Char → Nat
  | [] => 0
  | d :: r => (d.toNat - '0'.toNat) * (scale / 10) + fractionValue (scale / 10) r

/-- What a component adds to a total, had numbers no bounds. -/
def Component.amount (c : Component) : Nat :=
  Number.ofDigits c.whole * c.unit.nanoseconds + fractionValue c.unit.nanoseconds c.fraction

theorem digit_le {d : Char} (h : d.isDigit = true) : d.toNat - '0'.toNat ≤ 9 := by
  have h9 : d.toNat ≤ '9'.toNat := by
    simp only [Char.isDigit, Bool.and_eq_true, decide_eq_true_eq] at h
    exact h.2
  have hzero : '0'.toNat = 48 := rfl
  have hnine : '9'.toNat = 57 := rfl
  omega

theorem fractionValue_of_lt (h : scale / 10 = 0) (ds : List Char) : fractionValue scale ds = 0 := by
  induction ds generalizing scale with
  | nil => rfl
  | cons d ds ih =>
    have hnext : scale / 10 / 10 = 0 := by rw [h]
    rw [fractionValue, ih hnext, h, Nat.mul_zero]

/-- A fraction is no more than a whole. -/
theorem fractionValue_le (h : ∀ d ∈ ds, d.isDigit = true) (scale : Nat) :
    fractionValue scale ds ≤ scale := by
  induction ds generalizing scale with
  | nil => exact Nat.zero_le scale
  | cons d ds ih =>
    have hd : (d.toNat - '0'.toNat) * (scale / 10) ≤ 9 * (scale / 10) :=
      Nat.mul_le_mul_right _ (digit_le (h d List.mem_cons_self))
    have hrest : fractionValue (scale / 10) ds ≤ scale / 10 :=
      ih (fun e he => h e (List.mem_cons_of_mem d he)) _
    rw [fractionValue]
    omega

theorem within128_of_le (h : n ≤ max128) : within128 n = .ok n := if_pos h

/-- The digits behind the point are added up without an overflow. -/
theorem addFraction_eq (h : ∀ d ∈ ds, d.isDigit = true) {value : Nat}
    (hroom : value + scale ≤ max128) :
    addFraction value scale ds = .ok (value + fractionValue scale ds) := by
  induction ds generalizing value scale with
  | nil => rfl
  | cons d ds ih =>
    rw [addFraction]
    split
    · rename_i hscale
      rw [fractionValue_of_lt hscale]
      rfl
    · have hd : (d.toNat - '0'.toNat) * (scale / 10) ≤ 9 * (scale / 10) :=
        Nat.mul_le_mul_right _ (digit_le (h d List.mem_cons_self))
      have hpart : (d.toNat - '0'.toNat) * (scale / 10) ≤ max128 := by omega
      have hsum : value + (d.toNat - '0'.toNat) * (scale / 10) ≤ max128 := by omega
      have hrest : value + (d.toNat - '0'.toNat) * (scale / 10) + scale / 10 ≤ max128 := by omega
      rw [within128_of_le hpart]
      change (within128 _ >>= _) = _
      rw [within128_of_le hsum, fractionValue, ← Nat.add_assoc]
      exact ih (fun e he => h e (List.mem_cons_of_mem d he)) hrest

/-- **A component is computed without an overflow**: its whole part is looked at before. -/
theorem Component.nanoseconds_eq (h : ∀ d ∈ c.fraction, d.isDigit = true) :
    c.nanoseconds =
      if maxDuration < Number.ofDigits c.whole then .error .invalid else .ok c.amount := by
  rw [nanoseconds]
  split
  · rfl
  · rename_i hwhole
    have hroom : Number.ofDigits c.whole * c.unit.nanoseconds + c.unit.nanoseconds ≤ max128 := by
      rw [maxDuration] at hwhole
      cases c.unit <;> simp only [TimeUnit.nanoseconds, max128] <;> omega
    rw [within128_of_le (by omega)]
    exact addFraction_eq h hroom

theorem TimeUnit.nanoseconds_pos (u : TimeUnit) : 0 < u.nanoseconds := by
  cases u <;> decide

/-- **No product and no sum leaves the 128 bits.** A component is added, unless that makes the total
too large. -/
theorem addComponent_eq (h : ∀ d ∈ c.fraction, d.isDigit = true) (htotal : total ≤ maxDuration) :
    addComponent total c =
      if maxDuration < total + c.amount then .error .invalid else .ok (total + c.amount) := by
  have hwhole : Number.ofDigits c.whole ≤ c.amount := by
    have hle := Nat.le_mul_of_pos_right (Number.ofDigits c.whole) c.unit.nanoseconds_pos
    rw [Component.amount]
    omega
  rw [addComponent, Component.nanoseconds_eq h]
  split
  · rename_i hlarge
    rw [if_pos (by omega)]
    rfl
  · rename_i hsmall
    have hroom : total + c.amount ≤ max128 := by
      have hfraction := fractionValue_le h c.unit.nanoseconds
      rw [maxDuration] at hsmall htotal
      rw [Component.amount]
      cases hu : c.unit <;> simp only [hu, TimeUnit.nanoseconds, max128] at hfraction ⊢ <;> omega
    change (within128 _ >>= _) = _
    rw [within128_of_le hroom]
    rfl

theorem Component.SpelledBy.fraction_digits (h : c.SpelledBy cs) :
    ∀ d ∈ c.fraction, d.isDigit = true :=
  fun d hd => h.digits d (List.mem_append_right _ hd)

/-- A component in front is added, unless that makes the total too large, and the rest after it. -/
theorem addComponents_append (hc : c.SpelledBy cs) (hr : ∀ d ∈ r.head?, isUnitChar d = false)
    (htotal : total ≤ maxDuration) :
    addComponents total (cs ++ r) =
      if maxDuration < total + c.amount then .error .invalid
      else addComponents (total + c.amount) r := by
  have hread : readComponent (cs ++ r) = .ok (c, r) :=
    readComponent_eq_ok_iff.2 ⟨cs, hc, rfl, hr⟩
  have hadd := addComponent_eq hc.fraction_digits htotal
  have hne : ¬ (cs ++ r).isEmpty = true := by
    obtain ⟨d, rest, rfl, -⟩ := hc.exists_cons
    exact Bool.false_ne_true
  rw [addComponents, if_neg hne]
  split
  · rename_i f hf
    rw [hread] at hf
    cases hf
  · rename_i c' r' hf
    rw [hread] at hf
    cases hf
    rw [hadd]
    by_cases hlarge : maxDuration < total + c.amount
    · simp only [if_pos hlarge]
    · simp only [if_neg hlarge]

/-- **Components are added up**, unless they come to too much. -/
theorem addComponents_of_spelledBy (h : SpelledBy components cs) (htotal : total ≤ maxDuration) :
    addComponents total cs =
      if maxDuration < total + (components.map Component.amount).sum then .error .invalid
      else .ok (total + (components.map Component.amount).sum) := by
  induction h generalizing total with
  | nil =>
    rw [addComponents]
    exact (if_neg (Nat.not_lt.2 htotal)).symm
  | cons hc hrest ih =>
    rw [addComponents_append hc hrest.head?_not_unit htotal, List.map_cons, List.sum_cons,
      ← Nat.add_assoc]
    split
    · rename_i hlarge
      exact (if_pos (by omega)).symm
    · rename_i hsmall
      exact ih (by omega)

/-- What is added up is components. -/
theorem exists_of_addComponents (h : addComponents total cs = .ok n) :
    ∃ components, SpelledBy components cs := by
  fun_induction addComponents total cs with
  | case1 total cs hempty => exact ⟨[], List.isEmpty_iff.1 hempty ▸ .nil⟩
  | case2 => cases h
  | case3 => cases h
  | case4 total cs hempty c r hread next hstep ih =>
    obtain ⟨components, hcomponents⟩ := ih h
    obtain ⟨front, hc, rfl, -⟩ := readComponent_eq_ok_iff.1 hread
    exact ⟨c :: components, .cons hc hcomponents⟩

theorem readComponent_ne_overflow (cs : List Char) : readComponent cs ≠ .error .overflow := by
  intro h
  simp only [readComponent] at h
  split at h
  · cases h
  · split at h
    · cases h
    · split at h <;> cases h

/-- **No total leaves the 128 bits**, whatever the text. -/
theorem addComponents_ne_overflow (htotal : total ≤ maxDuration) (cs : List Char) :
    addComponents total cs ≠ .error .overflow := by
  fun_induction addComponents total cs with
  | case1 => nofun
  | case2 total cs hempty f hread =>
    intro h
    cases h
    exact readComponent_ne_overflow cs hread
  | case3 total cs hempty c r hread f hstep =>
    obtain ⟨front, hc, -⟩ := readComponent_eq_ok_iff.1 hread
    rw [addComponent_eq hc.fraction_digits htotal] at hstep
    split at hstep <;> cases hstep
    nofun
  | case4 total cs hempty c r hread next hstep ih =>
    obtain ⟨front, hc, -⟩ := readComponent_eq_ok_iff.1 hread
    rw [addComponent_eq hc.fraction_digits htotal] at hstep
    split at hstep <;> cases hstep
    rename_i hsmall
    exact ih (by omega)

/-! ## Reading a duration -/

variable {negative : Bool} {sign : List Char}

/-- A sign is taken off the front of what begins with none. -/
theorem splitSign_of_isSign (h : IsSign negative sign) (hr : ∀ d ∈ r.head?, isUnitChar d = false) :
    Number.splitSign (sign ++ r) = (negative, r) := by
  cases h with
  | plus => rfl
  | minus => rfl
  | none =>
    rw [List.nil_append]
    unfold Number.splitSign
    split
    · exact absurd (hr '-' rfl) (by decide)
    · exact absurd (hr '+' rfl) (by decide)
    · rfl

theorem exists_isSign (cs : List Char) : ∃ negative sign r, IsSign negative sign ∧
    cs = sign ++ r ∧ Number.splitSign cs = (negative, r) := by
  unfold Number.splitSign
  split
  · exact ⟨true, ['-'], _, .minus, rfl, rfl⟩
  · exact ⟨false, ['+'], _, .plus, rfl, rfl⟩
  · exact ⟨false, [], _, .none, rfl, rfl⟩

/-- Components are no lone zero, and not nothing. -/
theorem SpelledBy.ne (h : SpelledBy components r) (hne : components ≠ []) :
    r ≠ ['0'] ∧ ¬ r.isEmpty = true := by
  cases h with
  | nil => exact absurd rfl hne
  | cons hc hrest =>
    rename_i c components cs r
    have hread : readComponent (cs ++ r) = .ok (c, r) :=
      readComponent_eq_ok_iff.2 ⟨cs, hc, rfl, hrest.head?_not_unit⟩
    refine ⟨fun hzero => ?_, fun hnil => ?_⟩
    · rw [hzero] at hread
      cases hread
    · rw [List.isEmpty_iff.1 hnil] at hread
      cases hread

/-- **A duration is what its components add**, unless that is too much or less than nothing. -/
theorem durationOf_of_isDuration (h : IsDuration negative components cs) :
    durationOf cs = .ok n ↔ n = (components.map Component.amount).sum ∧ n ≤ maxDuration ∧
      (negative = true → n = 0) := by
  cases h with
  | zero hsign =>
    rw [durationOf, splitSign_of_isSign hsign fun d hd => by cases hd; decide]
    change Except.ok 0 = Except.ok n ↔ n = 0 ∧ _
    constructor
    · intro hn
      cases hn
      exact ⟨rfl, Nat.zero_le _, fun _ => rfl⟩
    · rintro ⟨rfl, -⟩
      rfl
  | components hsign hne hspelled =>
    obtain ⟨hzero, hempty⟩ := hspelled.ne hne
    rw [durationOf, splitSign_of_isSign hsign hspelled.head?_not_unit]
    dsimp only
    rw [if_neg hzero, if_neg hempty, addComponents_of_spelledBy hspelled (Nat.zero_le _),
      Nat.zero_add]
    generalize (components.map Component.amount).sum = amount
    split
    · rename_i hlarge
      refine iff_of_false nofun fun ⟨hn, hle, _⟩ => ?_
      omega
    · rename_i hsmall
      change (if _ then _ else _) = _ ↔ _
      split
      · rename_i hnegative
        simp only [Bool.and_eq_true, bne_iff_ne] at hnegative
        refine iff_of_false nofun fun ⟨hn, _, hnone⟩ => ?_
        exact hnegative.2 (hn ▸ hnone hnegative.1)
      · rename_i hpositive
        simp only [Bool.and_eq_true, bne_iff_ne, not_and, not_not] at hpositive
        constructor
        · intro hn
          cases hn
          exact ⟨rfl, by omega, hpositive⟩
        · rintro ⟨rfl, -⟩
          rfl

/-- What is read is a duration. -/
theorem exists_of_durationOf (h : durationOf cs = .ok n) :
    ∃ negative components, IsDuration negative components cs := by
  obtain ⟨negative, sign, r, hsign, rfl, hsplit⟩ := exists_isSign cs
  rw [durationOf, hsplit] at h
  dsimp only at h
  split at h
  · rename_i hzero
    rw [hzero]
    exact ⟨negative, [], .zero hsign⟩
  · split at h
    · cases h
    · rename_i hempty
      cases hadd : addComponents 0 r with
      | error f =>
        rw [hadd] at h
        cases h
      | ok total =>
        obtain ⟨components, hspelled⟩ := exists_of_addComponents hadd
        refine ⟨negative, components, .components hsign ?_ hspelled⟩
        rintro rfl
        cases hspelled
        exact hempty rfl

/-- **Nothing leaves the 128 bits**, whatever the text. -/
theorem durationOf_ne_overflow (cs : List Char) : durationOf cs ≠ .error .overflow := by
  unfold durationOf
  dsimp only
  split
  · nofun
  · split
    · nofun
    · have hadd := addComponents_ne_overflow (Nat.zero_le maxDuration) (Number.splitSign cs).2
      cases h : addComponents 0 (Number.splitSign cs).2 with
      | error f =>
        rw [h] at hadd
        exact hadd
      | ok total =>
        change (if _ then _ else _) ≠ _
        split <;> nofun

end WebScript.Http
