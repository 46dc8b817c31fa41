import Mathlib.Data.List.Nodup
import WebScript.Proofs.Results
import WebScript.Validator

/-!
# Reference data by name and by number

Data is refused for a name that stands twice, not for a number. So a name leads to the record that
has it, and a number to the first one.

* `find?_of_nodup`, `forall_find?_iff_nodup`: records that are found by a key.
* `Reference.of_eq_ok`: the data is what was given.
* `Number.Represents`: a double that is a whole number.
* `Validator.call_validVocation_name`, `Validator.call_validVocation_number`: what a script is told
  of a vocation.
* `lookups_agree_iff`: **lookups by number and by name agree exactly if no number stands twice**.
* `lookups_of_repeated_number`: two vocations of one number.
-/

namespace WebScript

/-! ## Records by a key -/

section Keys

variable {α κ : Type} [DecidableEq κ] {l : List α} {a : α}

/-- A key that stands once leads to its record. -/
theorem find?_of_nodup {key : α → κ} (hd : (l.map key).Nodup) (ha : a ∈ l) :
    l.find? (key · = key a) = some a := by
  cases hf : l.find? (key · = key a) with
  | none => simpa using List.find?_eq_none.1 hf a ha
  | some b =>
    have hb : key b = key a := by simpa using List.find?_some hf
    rw [List.inj_on_of_nodup_map hd (List.mem_of_find?_eq_some hf) ha hb]

/-- **Every record is found by its key exactly if no key stands twice.** -/
theorem forall_find?_iff_nodup (key : α → κ) (hl : l.Nodup) :
    (∀ a ∈ l, l.find? (key · = key a) = some a) ↔ (l.map key).Nodup := by
  refine ⟨fun h => hl.map_on fun a ha b hb hab => ?_, fun hd a ha => find?_of_nodup hd ha⟩
  -- one lookup finds both records, so they are the same
  have hfound := h a ha
  rw [hab, h b hb] at hfound
  exact (Option.some.inj hfound).symm

end Keys

/-! ## The data -/

namespace Reference

variable {vs : List Vocation} {ts : List Town} {r : Reference}

/-- The data is what was given, in that order. -/
theorem of_eq_ok (h : of vs ts = .ok r) : r.vocations = vs ∧ r.towns = ts := by
  unfold of at h
  split at h
  · cases h
  · split at h
    · cases h
    · cases h
      exact ⟨rfl, rfl⟩

end Reference

/-! ## Numbers -/

namespace Number

/-- **The double is the whole number**: it is finite, has no fraction, and has this value. -/
def Represents (x : Float) (n : Int) : Prop := isWhole x = true ∧ truncate? x = some n

instance (x : Float) (n : Int) : Decidable (Represents x n) :=
  inferInstanceAs (Decidable (_ ∧ _))

theorem clamp64_of_fits {n : Int} (h : fitsInt64 n = true) : clamp64 n = n := by
  rw [fitsInt64, Bool.and_eq_true, decide_eq_true_eq, decide_eq_true_eq] at h
  unfold clamp64
  omega

/-- A whole number of 64 bits is read as it is. -/
theorem Represents.toInteger {x : Float} {n : Int} (hx : Represents x n)
    (hn : fitsInt64 n = true) : (Value.number x).toInteger = n := by
  obtain ⟨-, hvalue⟩ := hx
  unfold truncate? at hvalue
  rw [Value.toInteger, isFinite, toInt64]
  split at hvalue
  · rename_i hform
    obtain rfl := Option.some.inj hvalue
    rw [hform]
    exact clamp64_of_fits hn
  · cases hvalue

end Number

namespace Validator

theorem call_validVocation_name (k : Validator) (name : String) (flag : Value) :
    k.call "validVocation" [.string name, flag] =
      .ok [.bool ((k.reference.vocationByName? name).any fun v => ! flag.truthy || v.isBase)] :=
  rfl

theorem call_validVocation_number (k : Validator) (x : Float) (flag : Value) :
    k.call "validVocation" [.number x, flag] =
      .ok [.bool ((k.reference.vocationById? (Value.number x).toInteger).any
        fun v => ! flag.truthy || v.isBase)] :=
  rfl

end Validator

/-- **Lookups by number and by name.** Of data that is accepted, a name leads to the record that has
it, and so does a number for all vocations, or for all towns, exactly if no number stands twice
among them. For a vocation and a double that is its number, `validVocation` answers for its name and
for the double alike, unless a base vocation is asked for and the first vocation with the number is
one and this one is not, or the other way round. -/
theorem lookups_agree_iff {vs : List Vocation} {ts : List Town} {r : Reference}
    (hr : Reference.of vs ts = .ok r) :
    ((∀ v ∈ vs, r.vocationByName? v.name = some v) ∧ ∀ t ∈ ts, r.townByName? t.name = some t) ∧
    ((∀ v ∈ vs, r.vocationById? v.id = some v) ↔ (vs.map (·.id)).Nodup) ∧
    ((∀ t ∈ ts, r.townById? t.id = some t) ↔ (ts.map (·.id)).Nodup) ∧
    ∀ v ∈ vs, Number.fitsInt64 v.id = true → ∀ x, Number.Represents x v.id →
      ∃ first ∈ vs, r.vocationById? v.id = some first ∧
        ∀ (k : Validator) (flag : Value), k.reference = r →
          let byName := k.call "validVocation" [.string v.name, flag]
          let byNumber := k.call "validVocation" [.number x, flag]
          byName = .ok [.bool (! flag.truthy || v.isBase)] ∧
            (byNumber = byName ↔ (flag.truthy = true → first.isBase = v.isBase)) := by
  obtain ⟨rfl, rfl⟩ := Reference.of_eq_ok hr
  have hvocation : ∀ v ∈ r.vocations, r.vocationByName? v.name = some v :=
    fun v hv => find?_of_nodup r.distinctVocations hv
  have htown : ∀ t ∈ r.towns, r.townByName? t.name = some t :=
    fun t ht => find?_of_nodup r.distinctTowns ht
  refine ⟨⟨hvocation, htown⟩, ?_, ?_, fun v hv hfits x hx => ?_⟩
  · exact forall_find?_iff_nodup Vocation.id r.distinctVocations.of_map
  · have htowns := forall_find?_iff_nodup Town.id r.distinctTowns.of_map
    simp only [Reference.townById?, Int.ofNat_inj]
    exact htowns
  · have hsome : (r.vocationById? v.id).isSome := by
      rw [Reference.vocationById?, List.find?_isSome]
      exact ⟨v, hv, by simp⟩
    obtain ⟨first, hfirst⟩ := Option.isSome_iff_exists.1 hsome
    refine ⟨first, List.mem_of_find?_eq_some hfirst, hfirst, ?_⟩
    rintro k flag rfl byName byNumber
    have hname : byName = .ok [.bool (! flag.truthy || v.isBase)] := by
      change k.call "validVocation" [.string v.name, flag] = _
      rw [k.call_validVocation_name, hvocation v hv, Option.any_some]
    have hnumber : byNumber = .ok [.bool (! flag.truthy || first.isBase)] := by
      change k.call "validVocation" [.number x, flag] = _
      rw [k.call_validVocation_number, hx.toInteger hfits, hfirst, Option.any_some]
    refine ⟨hname, ?_⟩
    rw [hname, hnumber]
    cases flag.truthy <;> simp

/-- A monk is found by name and by number, and asked for as a base vocation by both. -/
theorem lookups_agree_of_distinct_numbers :
    let knight : Vocation := ⟨1, "Knight", "", 1⟩
    let monk : Vocation := ⟨3, "Monk", "", 1⟩
    ∃ r, Reference.of [knight, monk] [] = .ok r ∧ monk ∈ [knight, monk] ∧
      Number.fitsInt64 monk.id = true ∧ Number.Represents 3.0 monk.id ∧
      r.vocationByName? "Monk" = some monk ∧ r.vocationById? 3 = some monk ∧
      ∀ k : Validator, k.reference = r →
        k.call "validVocation" [.number 3.0, .bool true] =
          k.call "validVocation" [.string "Monk", .bool true] := by
  intro knight monk
  obtain ⟨r, hr⟩ := Result.isOk_iff.1 (show (Reference.of [knight, monk] []).isOk by decide)
  have hmem : monk ∈ [knight, monk] := by decide
  have hfits : Number.fitsInt64 monk.id = true := by decide
  have hx : Number.Represents 3.0 monk.id := by decide +kernel
  obtain ⟨⟨hnames, -⟩, hnumbers, -, hanswers⟩ := lookups_agree_iff hr
  have hbyId : r.vocationById? 3 = some monk := hnumbers.2 (by decide) monk hmem
  obtain ⟨first, -, hfirst, hagree⟩ := hanswers monk hmem hfits 3.0 hx
  have heq : first = monk := Option.some.inj (hfirst.symm.trans hbyId)
  refine ⟨r, hr, hmem, hfits, hx, hnames monk hmem, hbyId, fun k hk => ?_⟩
  exact ((hagree k (.bool true) hk).2).2 fun _ => congrArg Vocation.isBase heq

/-- **Two vocations may have one number**, and the second is found by its name alone: a script that
asks for a base vocation is told that the number is one and that the name is not. -/
theorem lookups_of_repeated_number :
    let knight : Vocation := ⟨1, "Knight", "", 1⟩
    let squire : Vocation := ⟨1, "Squire", "", 2⟩
    ∃ r, Reference.of [knight, squire] [] = .ok r ∧
      ¬ (∀ v ∈ [knight, squire], r.vocationById? v.id = some v) ∧
      r.vocationByName? squire.name = some squire ∧ r.vocationById? squire.id = some knight ∧
      Number.Represents 1.0 squire.id ∧ ∀ k : Validator, k.reference = r →
        k.call "validVocation" [.number 1.0, .bool true] = .ok [.bool true] ∧
        k.call "validVocation" [.string squire.name, .bool true] = .ok [.bool false] := by
  intro knight squire
  obtain ⟨r, hr⟩ := Result.isOk_iff.1 (show (Reference.of [knight, squire] []).isOk by decide)
  obtain ⟨hvs, -⟩ := Reference.of_eq_ok hr
  have hx : Number.Represents 1.0 squire.id := by decide +kernel
  have hname : r.vocationByName? squire.name = some squire := by
    rw [Reference.vocationByName?, hvs]
    decide
  have hid : r.vocationById? squire.id = some knight := by
    rw [Reference.vocationById?, hvs]
    decide
  refine ⟨r, hr, fun hall => ?_, hname, hid, hx, ?_⟩
  · have hsquire := hall squire (by decide)
    rw [hid] at hsquire
    exact absurd (Option.some.inj hsquire) (by decide)
  · rintro k rfl
    rw [k.call_validVocation_name, k.call_validVocation_number, hname, hx.toInteger (by decide),
      hid]
    exact ⟨rfl, rfl⟩

end WebScript
