/-!
# Results

* `Result.isOk_iff`: a result that is there.
* `Result.bind_eq_ok_iff`, `Result.map_eq_ok_iff`, `Result.mapError_eq_ok_iff`,
  `Result.isOk_bind_iff`: what follows on a result.
* `Result.mapM_eq_ok_iff`, `Result.isOk_mapM_iff`, `Result.isOk_foldlM_iff`: lists and folds.
* `Result.mapM_eq_error_iff`, `Result.foldlM_eq_error_iff`: an error is that of the first step that
  has one.
-/

namespace WebScript

namespace Result

variable {ε α β : Type} {r : Except ε α} {g : α → Except ε β}

theorem isOk_iff : r.isOk ↔ ∃ a, r = .ok a := by
  cases r with
  | ok a => exact iff_of_true rfl ⟨a, rfl⟩
  | error f => exact iff_of_false (by simp [Except.toBool]) (by simp)

@[simp] theorem isOk_ok (a : α) : (.ok a : Except ε α).isOk = true := rfl

@[simp] theorem isOk_error (f : ε) : (.error f : Except ε α).isOk = false := rfl

theorem ok_bind (a : α) (g : α → Except ε β) : (.ok a >>= g) = g a := rfl

/-- What follows on a result has one if both do. -/
theorem bind_eq_ok_iff {b : β} : (r >>= g) = .ok b ↔ ∃ a, r = .ok a ∧ g a = .ok b := by
  cases r with
  | ok a => exact ⟨fun h => ⟨a, rfl, h⟩, fun ⟨_, ha, h⟩ => by cases ha; exact h⟩
  | error f => exact iff_of_false nofun fun ⟨_, ha, _⟩ => nomatch ha

theorem isOk_bind_iff : (r >>= g).isOk ↔ ∃ a, r = .ok a ∧ (g a).isOk := by
  cases r with
  | ok a => exact ⟨fun h => ⟨a, rfl, h⟩, fun ⟨_, ha, h⟩ => by cases ha; exact h⟩
  | error f => exact iff_of_false Bool.false_ne_true (by simp)

theorem map_eq_ok_iff {g : α → β} {b : β} : (g <$> r) = .ok b ↔ ∃ a, r = .ok a ∧ g a = b := by
  cases r with
  | ok a => exact ⟨fun h => ⟨a, rfl, Except.ok.inj h⟩, fun ⟨_, ha, h⟩ => by cases ha; cases h; rfl⟩
  | error f => exact iff_of_false nofun fun ⟨_, ha, _⟩ => nomatch ha

theorem mapError_eq_ok_iff {δ : Type} {k : ε → δ} {a : α} :
    r.mapError k = .ok a ↔ r = .ok a := by
  cases r with
  | ok b =>
    constructor <;>
    · intro h
      cases h
      rfl
  | error f =>
    constructor <;>
    · intro h
      cases h

theorem isOk_map (g : α → β) (r : Except ε α) : (g <$> r).isOk = r.isOk := by
  cases r <;> rfl

/-! ## Lists of results -/

section

variable {as : List α} {bs : List β}

/-- A list of results is there if each is. -/
theorem mapM_eq_ok_iff : as.mapM g = .ok bs ↔ as.map g = bs.map .ok := by
  induction as generalizing bs with
  | nil => simp [pure, Except.pure, eq_comm]
  | cons a as ih =>
    rw [List.mapM_cons, bind_eq_ok_iff, List.map_cons]
    constructor
    · rintro ⟨b, hb, hrest⟩
      obtain ⟨bs, hbs, h⟩ := bind_eq_ok_iff.1 hrest
      cases h
      rw [hb, ih.1 hbs, List.map_cons]
    · intro h
      obtain ⟨b, bs, rfl, hb, hbs⟩ := List.map_eq_cons_iff.1 h.symm
      exact ⟨b, hb.symm, bind_eq_ok_iff.2 ⟨bs, ih.2 hbs.symm, rfl⟩⟩

theorem mapM_eq_ok {f : α → β} (h : ∀ a ∈ as, g a = .ok (f a)) : as.mapM g = .ok (as.map f) := by
  rw [mapM_eq_ok_iff, List.map_map]
  exact List.map_congr_left h

theorem isOk_mapM_iff : (as.mapM g).isOk ↔ ∀ a ∈ as, (g a).isOk := by
  induction as with
  | nil => exact iff_of_true rfl nofun
  | cons a as ih =>
    rw [List.forall_mem_cons, ← ih, List.mapM_cons, isOk_bind_iff, isOk_iff]
    constructor
    · rintro ⟨b, hb, hrest⟩
      obtain ⟨bs, hbs, -⟩ := isOk_bind_iff.1 hrest
      exact ⟨⟨b, hb⟩, isOk_iff.2 ⟨bs, hbs⟩⟩
    · rintro ⟨⟨b, hb⟩, hrest⟩
      obtain ⟨bs, hbs⟩ := isOk_iff.1 hrest
      exact ⟨b, hb, isOk_bind_iff.2 ⟨bs, hbs, rfl⟩⟩

/-- A fold is there if each step is, where that does not depend on what came before. -/
theorem isOk_foldlM_iff {step : β → α → Except ε β} {P : α → Prop}
    (h : ∀ b a, (step b a).isOk ↔ P a) {b : β} :
    (as.foldlM step b).isOk ↔ ∀ a ∈ as, P a := by
  induction as generalizing b with
  | nil => exact iff_of_true rfl (List.forall_mem_nil P)
  | cons a as ih =>
    rw [List.foldlM_cons, isOk_bind_iff, List.forall_mem_cons, ← h b a, isOk_iff]
    constructor
    · rintro ⟨c, hc, hrest⟩
      exact ⟨⟨c, hc⟩, ih.1 hrest⟩
    · rintro ⟨⟨c, hc⟩, hrest⟩
      exact ⟨c, hc, ih.2 hrest⟩

end

/-! ## Errors -/

variable {w : ε} {as : List α}

theorem bind_eq_error_iff :
    (r >>= g) = .error w ↔ r = .error w ∨ ∃ a, r = .ok a ∧ g a = .error w := by
  cases r with
  | ok a => simp [ok_bind]
  | error f => simp [bind, Except.bind]

theorem map_eq_error_iff {g : α → β} : (g <$> r) = .error w ↔ r = .error w := by
  cases r with
  | ok a => exact iff_of_false nofun nofun
  | error f => exact ⟨fun h => by cases h; rfl, fun h => by cases h; rfl⟩

/-- A list of results has the error of the first that has one. -/
theorem mapM_eq_error_iff :
    as.mapM g = .error w ↔
      ∃ us a vs, as = us ++ a :: vs ∧ (us.mapM g).isOk ∧ g a = .error w := by
  induction as with
  | nil => simp [pure, Except.pure]
  | cons x as ih =>
    rw [List.mapM_cons, bind_eq_error_iff]
    constructor
    · rintro (hx | ⟨b, hb, hrest⟩)
      · exact ⟨[], x, as, rfl, rfl, hx⟩
      · rcases bind_eq_error_iff.1 hrest with hrest | ⟨_, _, hrest⟩
        · obtain ⟨us, a, vs, rfl, hus, ha⟩ := ih.1 hrest
          refine ⟨x :: us, a, vs, rfl, ?_, ha⟩
          obtain ⟨bs, hbs⟩ := isOk_iff.1 hus
          rw [List.mapM_cons, hb, ok_bind, hbs]
          rfl
        · cases hrest
    · rintro ⟨us, a, vs, hsplit, hus, ha⟩
      cases us with
      | nil =>
        cases hsplit
        exact .inl ha
      | cons u us =>
        cases hsplit
        rw [List.mapM_cons] at hus
        obtain ⟨b, hb, hus⟩ := isOk_bind_iff.1 hus
        obtain ⟨bs, hbs, -⟩ := isOk_bind_iff.1 hus
        have hrest := ih.2 ⟨us, a, vs, rfl, isOk_iff.2 ⟨bs, hbs⟩, ha⟩
        exact .inr ⟨b, hb, bind_eq_error_iff.2 (.inl hrest)⟩

/-- A fold has the error of the first step that has one. -/
theorem foldlM_eq_error_iff {step : β → α → Except ε β} {b : β} :
    as.foldlM step b = .error w ↔
      ∃ us a vs c, as = us ++ a :: vs ∧ us.foldlM step b = .ok c ∧ step c a = .error w := by
  induction as generalizing b with
  | nil => simp [pure, Except.pure]
  | cons x as ih =>
    rw [List.foldlM_cons, bind_eq_error_iff]
    constructor
    · rintro (hx | ⟨c, hc, hrest⟩)
      · exact ⟨[], x, as, b, rfl, rfl, hx⟩
      · obtain ⟨us, a, vs, d, rfl, hus, ha⟩ := ih.1 hrest
        refine ⟨x :: us, a, vs, d, rfl, ?_, ha⟩
        rw [List.foldlM_cons, hc, ok_bind, hus]
    · rintro ⟨us, a, vs, d, hsplit, hus, ha⟩
      cases us with
      | nil =>
        cases hsplit
        cases hus
        exact .inl ha
      | cons u us =>
        cases hsplit
        rw [List.foldlM_cons] at hus
        obtain ⟨c, hc, hus⟩ := bind_eq_ok_iff.1 hus
        exact .inr ⟨c, hc, ih.2 ⟨us, a, vs, d, rfl, hus, ha⟩⟩

end Result

end WebScript
