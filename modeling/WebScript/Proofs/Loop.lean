import WebScript.Proofs.Results

/-!
# Loops

A loop goes from state to state by passes, until one of them leaves it with a result.

* `after`: where a loop is after a number of passes.
* `after_induction`: **what every pass keeps holds in every state** that the loop comes to.
* `exists_ended`: **a loop whose passes lower a measure ends**, after no more passes than that and
  one; what they keep is its result.
* `eq_of_ended`: it has one result, however long it is looked at.
-/

namespace WebScript.Loop

variable {σ ρ : Type} {pass : σ → Except ρ σ} {start : Except ρ σ} {s s' : σ} {r r' : ρ} {n : Nat}

/-- Where a loop is after some passes: in a state, or at its end with a result, which it keeps. -/
def after (pass : σ → Except ρ σ) (start : Except ρ σ) : Nat → Except ρ σ
  | 0 => start
  | n + 1 => after pass start n >>= pass

/-- The first pass leads to where the others start. -/
theorem after_succ (n : Nat) : after pass start (n + 1) = after pass (start >>= pass) n := by
  induction n with
  | zero => rfl
  | succ n ih =>
    rw [after, ih]
    rfl

theorem after_succ_eq_ok_iff :
    after pass start (n + 1) = .ok s' ↔ ∃ s, after pass start n = .ok s ∧ pass s = .ok s' :=
  Result.bind_eq_ok_iff

/-- **What every pass keeps holds in every state** that the loop comes to. -/
theorem after_induction {I : σ → Prop} (hstart : ∀ s, start = .ok s → I s)
    (hpass : ∀ s s', I s → pass s = .ok s' → I s') (h : after pass start n = .ok s) : I s := by
  induction n generalizing s with
  | zero => exact hstart s h
  | succ n ih =>
    obtain ⟨s₀, hs₀, hs⟩ := after_succ_eq_ok_iff.1 h
    exact hpass s₀ s (ih hs₀) hs

/-- **A loop whose passes lower a measure ends**, with what they all keep: where a state has the
property `I`, a pass either leads to a state that has it too, with a lower measure and the same
value, or leaves the loop with the value as its result. -/
theorem exists_ended (I : σ → Prop) (measure : σ → Nat) (value : σ → ρ)
    (hpass : ∀ s s', I s → pass s = .ok s' → I s' ∧ measure s' < measure s ∧ value s' = value s)
    (hend : ∀ s r, I s → pass s = .error r → r = value s) (hs : I s) :
    ∃ n ≤ measure s + 1, after pass (.ok s) n = .error (value s) := by
  induction hm : measure s using Nat.strongRecOn generalizing s with
  | ind m ih =>
    cases hp : pass s with
    | error r =>
      refine ⟨1, by omega, ?_⟩
      rw [after_succ, Result.ok_bind, hp, hend s r hs hp]
      rfl
    | ok s' =>
      obtain ⟨hs', hlt, hvalue⟩ := hpass s s' hs hp
      obtain ⟨n, hn, hended⟩ := ih (measure s') (hm ▸ hlt) hs' rfl
      refine ⟨n + 1, by omega, ?_⟩
      rw [after_succ, Result.ok_bind, hp, hended, hvalue]

theorem after_add (m n : Nat) : after pass start (m + n) = after pass (after pass start m) n := by
  induction n with
  | zero => rfl
  | succ n ih =>
    rw [← Nat.add_assoc, after, ih]
    rfl

theorem after_error (n : Nat) : after pass (.error r) n = .error r := by
  induction n with
  | zero => rfl
  | succ n ih =>
    rw [after, ih]
    rfl

/-- A loop has one result. -/
theorem eq_of_ended {m : Nat} (h : after pass start m = .error r)
    (h' : after pass start n = .error r') : r = r' := by
  rcases Nat.le_total m n with hle | hle
  · obtain ⟨k, rfl⟩ := Nat.exists_eq_add_of_le hle
    rw [after_add, h, after_error] at h'
    exact Except.error.inj h'
  · obtain ⟨k, rfl⟩ := Nat.exists_eq_add_of_le hle
    rw [after_add, h', after_error] at h
    exact (Except.error.inj h).symm

end WebScript.Loop
