import Mathlib.Algebra.Order.Field.Power
import Mathlib.Data.Rat.Floor
import WebScript.Host
import WebScript.Proofs.Reference

/-!
# Which records a double names

A script may ask for a vocation or a town by a double. It is looked up under the whole number that
is left of it without its fraction; but a number that is out of range is moved to the nearest one of
64 bits, and NaN and the infinities count as zero, so that each of them may find a record whose
number it is not.

* `Number.value?`, `Number.Truncates`: what a double is as a rational number, and without its
  fraction.
* `Number.truncate?_eq`: **what is read off the bits is that number rounded toward zero**.
* `Number.sought`, `Number.toInteger_eq_sought`: the number that is looked up.
* `Number.sought_iff`: when a property of numbers of 64 bits is found of a double exactly if the
  double has it.
* `Reference.HasVocation`, `Reference.HasTown`: what there is under a number.
* `Reference.isSized_of_load`: the numbers of data that is loaded have 64 and 32 bits.
* `numeric_ids_iff`: **a double names what it denotes**, unless it is out of range and what is found
  in its place is there.
* `numeric_id_of_nan`: NaN names the vocation with the number zero.
-/

namespace WebScript

/-! ## Doubles as rational numbers -/

namespace Number

variable {x : Float} {n : Int} {q : ℚ}

/-- The rational number that a finite double is. -/
def value? (x : Float) : Option ℚ :=
  match form x with
  | .finite negative m e => some (if negative then -(m * 2 ^ e) else m * 2 ^ e)
  | _ => none

/-- A rational number without its fraction. -/
def towardZero (q : ℚ) : Int := if 0 ≤ q then ⌊q⌋ else ⌈q⌉

/-- **The double is finite, and this is what is left of it without its fraction.** -/
def Truncates (x : Float) (n : Int) : Prop := ∃ q, value? x = some q ∧ towardZero q = n

theorem towardZero_of_nonneg (h : 0 ≤ q) : towardZero q = ⌊q⌋ := if_pos h

theorem towardZero_neg (h : 0 ≤ q) : towardZero (-q) = -⌊q⌋ := by
  unfold towardZero
  split
  · -- a number that is neither negative nor positive
    obtain rfl : q = 0 := by linarith
    simp
  · exact Int.ceil_neg

theorem floor_mul_two_zpow (m : Nat) (e : Int) : ⌊(m * 2 ^ e : ℚ)⌋ = wholePart m e := by
  unfold wholePart
  split
  · rename_i he
    obtain ⟨k, rfl⟩ := Int.eq_ofNat_of_zero_le he
    rw [zpow_natCast, Int.toNat_natCast, Nat.shiftLeft_eq]
    exact_mod_cast Int.floor_natCast (R := ℚ) (m * 2 ^ k)
  · rename_i he
    obtain ⟨k, hk⟩ := Int.eq_ofNat_of_zero_le (show 0 ≤ -e by omega)
    have hdiv : (m * 2 ^ e : ℚ) = (m : ℚ) / (2 ^ k : Nat) := by
      rw [← neg_neg e, hk, zpow_neg, zpow_natCast, Nat.cast_pow, div_eq_mul_inv]
      rfl
    rw [hdiv, Rat.floor_natCast_div_natCast, hk, Int.toNat_natCast, Nat.shiftRight_eq_div_pow]
    exact (Int.natCast_div m (2 ^ k)).symm

/-- **What is read off the bits is the double rounded toward zero.** -/
theorem truncate?_eq (x : Float) : truncate? x = (value? x).map towardZero := by
  unfold truncate? value?
  cases form x with
  | nan => rfl
  | infinite negative => rfl
  | finite negative m e =>
    have hq : (0 : ℚ) ≤ m * 2 ^ e := by positivity
    cases negative with
    | false => exact congrArg some ((towardZero_of_nonneg hq).trans (floor_mul_two_zpow m e)).symm
    | true =>
      have hneg := towardZero_neg hq
      rw [floor_mul_two_zpow] at hneg
      exact congrArg some hneg.symm

theorem truncate?_eq_some_iff : truncate? x = some n ↔ Truncates x n := by
  rw [truncate?_eq, Option.map_eq_some_iff]
  rfl

/-- The number under which records are looked up: the double without its fraction, or the nearest
number of 64 bits. What is not finite counts as zero. -/
def sought (x : Float) : Int := ((value? x).map fun q => clamp64 (towardZero q)).getD 0

theorem toInteger_eq_sought (x : Float) : (Value.number x).toInteger = sought x := by
  have hsought : sought x = ((truncate? x).map clamp64).getD 0 := by
    rw [truncate?_eq, Option.map_map]
    rfl
  rw [hsought, Value.toInteger, isFinite, toInt64, truncate?]
  cases form x <;> rfl

theorem Truncates.sought_eq (h : Truncates x n) : sought x = clamp64 n := by
  obtain ⟨q, hq, rfl⟩ := h
  rw [sought, hq]
  rfl

theorem Truncates.eq {n' : Int} (h : Truncates x n) (h' : Truncates x n') : n = n' := by
  rw [← truncate?_eq_some_iff] at h h'
  exact Option.some.inj (h.symm.trans h')

theorem sought_of_not_finite (h : ¬ ∃ n, Truncates x n) : sought x = 0 := by
  rw [sought]
  cases hq : value? x with
  | none => rfl
  | some q => exact absurd ⟨_, q, hq, rfl⟩ h

/-- **Found, and found rightly.** A property that only numbers of 64 bits have is that of the number
sought exactly if it is that of the double, unless the double is out of range and the number sought
in its place has it. -/
theorem sought_iff {P : Int → Prop} (hP : ∀ n, P n → fitsInt64 n = true) (x : Float) :
    (P (sought x) ↔ ∃ n, Truncates x n ∧ P n) ↔
      (∃ n, Truncates x n ∧ fitsInt64 n = true) ∨ ¬ P (sought x) := by
  constructor
  · intro h
    -- what is found is the double's own, and so a number of 64 bits
    by_cases hfound : P (sought x)
    · obtain ⟨n, hn, hPn⟩ := h.1 hfound
      exact .inl ⟨n, hn, hP n hPn⟩
    · exact .inr hfound
  · rintro (⟨n, hn, hfits⟩ | hnot)
    · have hs : sought x = n := hn.sought_eq.trans (clamp64_of_fits hfits)
      rw [hs]
      refine ⟨fun h => ⟨n, hn, h⟩, fun ⟨n', hn', h⟩ => ?_⟩
      rw [hn.eq hn']
      exact h
    · refine iff_of_false hnot fun ⟨n, hn, h⟩ => hnot ?_
      rw [hn.sought_eq, clamp64_of_fits (hP n h)]
      exact h

end Number

/-! ## Records by number -/

namespace Reference

variable (r : Reference)

/-- **Some vocation has this number**, and the first that has it derives from itself if a base
vocation is asked for. -/
def HasVocation (n : Int) (base : Bool) : Prop :=
  ∃ front v back, r.vocations = front ++ v :: back ∧ (∀ w ∈ front, w.id ≠ n) ∧ v.id = n ∧
    (base = true → v.source = v.id)

/-- **Some town has this number.** -/
def HasTown (n : Int) : Prop := ∃ t ∈ r.towns, (t.id : Int) = n

/-- Vocations have signed numbers of 64 bits, and towns unsigned ones of 32. -/
structure IsSized : Prop where
  vocations : ∀ v ∈ r.vocations, Number.fitsInt64 v.id = true
  towns : ∀ t ∈ r.towns, t.id < 2 ^ 32

variable {r} {n : Int} {base : Bool}

theorem any_vocationById?_iff :
    (r.vocationById? n).any (fun v => ! base || v.isBase) = true ↔ r.HasVocation n base := by
  have hbase (v : Vocation) : (! base || v.isBase) = true ↔ (base = true → v.source = v.id) := by
    rw [Vocation.isBase]
    cases base <;> simp
  simp only [Option.any_eq_true, hbase, vocationById?, List.find?_eq_some_iff_append,
    decide_eq_true_eq, Bool.not_eq_true', decide_eq_false_iff_not]
  constructor
  · rintro ⟨v, ⟨hv, front, back, hvs, hfront⟩, hsource⟩
    exact ⟨front, v, back, hvs, hfront, hv, hsource⟩
  · rintro ⟨front, v, back, hvs, hfront, hv, hsource⟩
    exact ⟨v, ⟨hv, front, back, hvs, hfront⟩, hsource⟩

theorem isSome_townById?_iff : (r.townById? n).isSome = true ↔ r.HasTown n := by
  simp only [townById?, List.find?_isSome, decide_eq_true_eq, HasTown]

theorem HasVocation.fits (h : r.HasVocation n base) (hr : r.IsSized) :
    Number.fitsInt64 n = true := by
  obtain ⟨front, v, back, hvs, -, rfl, -⟩ := h
  refine hr.vocations v ?_
  rw [hvs]
  exact List.mem_append_right front List.mem_cons_self

theorem HasTown.bounds (h : r.HasTown n) (hr : r.IsSized) : 0 ≤ n ∧ n < 2 ^ 32 := by
  obtain ⟨t, ht, rfl⟩ := h
  have hlt := hr.towns t ht
  omega

theorem HasTown.fits (h : r.HasTown n) (hr : r.IsSized) : Number.fitsInt64 n = true := by
  obtain ⟨h0, hlt⟩ := h.bounds hr
  rw [Number.fitsInt64, Number.int64Min, Number.int64Max, Bool.and_eq_true, decide_eq_true_eq,
    decide_eq_true_eq]
  omega

/-- No town is found in place of a number that is out of range. -/
theorem HasTown.fits_of_clamp (h : r.HasTown (Number.clamp64 n)) (hr : r.IsSized) :
    Number.fitsInt64 n = true := by
  -- the numbers that others are moved to are far from any that a town has
  obtain ⟨h0, hlt⟩ := h.bounds hr
  rw [Number.clamp64, Number.int64Min, Number.int64Max] at h0 hlt
  rw [Number.fitsInt64, Number.int64Min, Number.int64Max, Bool.and_eq_true, decide_eq_true_eq,
    decide_eq_true_eq]
  omega

end Reference

/-! ## Data that is loaded -/

/-- What a reader gives is in every item of a list that is read with it. -/
theorem forall_of_mapM {α β : Type} {f : α → Option β} {P : β → Prop}
    (hf : ∀ a b, f a = some b → P b) {as : List α} {bs : List β} (h : as.mapM f = some bs) :
    ∀ b ∈ bs, P b := by
  induction as generalizing bs with
  | nil =>
    obtain rfl : [] = bs := Option.some.inj h
    exact fun _ hb => absurd hb List.not_mem_nil
  | cons a as ih =>
    rw [List.mapM_cons] at h
    obtain ⟨b, hb, h⟩ := Option.bind_eq_some_iff.1 h
    obtain ⟨bs', hbs', h⟩ := Option.bind_eq_some_iff.1 h
    obtain rfl : b :: bs' = bs := Option.some.inj h
    exact List.forall_mem_cons.2 ⟨hf a b hb, ih hbs'⟩

theorem Vocation.fits_of_ofSource? (s : Json.Source) (v : Vocation) (h : ofSource? s = some v) :
    Number.fitsInt64 v.id = true := by
  unfold ofSource? at h
  split at h
  · rename_i id name description source _
    have hfits (text : String) (h : (number? id).bind (fun i => name.string?.bind fun s =>
        (number? source).bind fun j => some (⟨i, s, text, j⟩ : Vocation)) = some v) :
        Number.fitsInt64 v.id = true := by
      obtain ⟨i, hi, h⟩ := Option.bind_eq_some_iff.1 h
      obtain ⟨s, -, h⟩ := Option.bind_eq_some_iff.1 h
      obtain ⟨j, -, h⟩ := Option.bind_eq_some_iff.1 h
      cases h
      exact (Option.filter_eq_some_iff.1 hi).2
    cases description with
    | none => exact hfits "" h
    | some d =>
      obtain ⟨text, -, h⟩ := Option.bind_eq_some_iff.1 h
      exact hfits text h
  · cases h

theorem Town.lt_of_ofSource? (s : Json.Source) (t : Town) (h : ofSource? s = some t) :
    t.id < 2 ^ 32 := by
  unfold ofSource? at h
  split at h
  · obtain ⟨n, -, h⟩ := Option.bind_eq_some_iff.1 h
    split at h
    · rename_i hn
      obtain ⟨name, -, h⟩ := Option.bind_eq_some_iff.1 h
      obtain rfl : (⟨n.toNat, name⟩ : Town) = t := Option.some.inj h
      change n.toNat < 2 ^ 32
      omega
    · cases h
  · cases h

/-- What a document of records is read as, each of its records is. -/
theorem forall_of_document {α : Type} {name : String} {f : Json.Source → Option α} {P : α → Prop}
    (hf : ∀ s a, f s = some a → P a) {source : Option Json.Source} {as : List α}
    (h : (do
      match ← (← source).record? [name] with
      | [some records] => (← records.array?).mapM f
      | _ => none) = some as) :
    ∀ a ∈ as, P a := by
  obtain ⟨document, -, h⟩ := Option.bind_eq_some_iff.1 h
  obtain ⟨members, -, h⟩ := Option.bind_eq_some_iff.1 h
  split at h
  · obtain ⟨records, -, h⟩ := Option.bind_eq_some_iff.1 h
    exact forall_of_mapM hf h
  · cases h

theorem Vocation.fits_of_listOf {text : String} {vs : List Vocation} (h : listOf text = .ok vs) :
    ∀ v ∈ vs, Number.fitsInt64 v.id = true := by
  unfold listOf at h
  dsimp only at h
  split at h
  · cases h
  · rename_i read hread
    split at h
    · cases h
    · cases h
      exact forall_of_document fits_of_ofSource? hread

theorem Town.lt_of_listOf {text : String} {ts : List Town} (h : listOf text = .ok ts) :
    ∀ t ∈ ts, t.id < 2 ^ 32 := by
  unfold listOf at h
  dsimp only at h
  split at h
  · cases h
  · rename_i read hread
    split at h
    · cases h
    · cases h
      exact forall_of_document lt_of_ofSource? hread

/-- What is read from a file, or from none, has what every list that can be read has. -/
theorem forall_of_file {α : Type} {files : FileReader} {path : Option String}
    {listOf : String → Result (List α)} {P : α → Prop}
    (hf : ∀ text as, listOf text = .ok as → ∀ a ∈ as, P a) {as : List α}
    (h : (match path with
      | some path => files.text path >>= listOf
      | none => .ok []) = .ok as) : ∀ a ∈ as, P a := by
  cases path with
  | none =>
    cases h
    exact fun _ ha => absurd ha List.not_mem_nil
  | some path =>
    obtain ⟨text, -, hlist⟩ := Result.bind_eq_ok_iff.1 h
    exact hf text as hlist

/-- **Data that is loaded is sized**: a number that is too large is refused with its document. -/
theorem Reference.isSized_of_load {files : FileReader} {s : Settings} {r : Reference}
    (h : load files s = .ok r) : r.IsSized := by
  have hload : load files s =
      (match s.vocationsFile with
        | some path => files.text path >>= Vocation.listOf
        | none => .ok []) >>= fun vs =>
      (match s.townsFile with
        | some path => files.text path >>= Town.listOf
        | none => .ok []) >>= fun ts => of vs ts := by
    unfold load
    cases s.vocationsFile <;> cases s.townsFile <;> rfl
  rw [hload] at h
  obtain ⟨vs, hvs, h⟩ := Result.bind_eq_ok_iff.1 h
  obtain ⟨ts, hts, h⟩ := Result.bind_eq_ok_iff.1 h
  obtain ⟨rfl, rfl⟩ := of_eq_ok h
  exact ⟨forall_of_file (fun _ _ => Vocation.fits_of_listOf) hvs,
    forall_of_file (fun _ _ => Town.lt_of_listOf) hts⟩

/-! ## What a script is told -/

theorem Validator.call_validTown_number (k : Validator) (x : Float) :
    k.call "validTown" [.number x] =
      .ok [.bool (k.reference.townById? (Value.number x).toInteger).isSome] :=
  rfl

/-- **The records that a double names.** A script that asks for a vocation or a town by a double is
told of the number that is looked up for it. Of a vocation that is the right answer (the double is
finite, and the number left of it without its fraction is that of a vocation, of which the first is
a base vocation if one is asked for) exactly if this number has 64 bits or there is nothing under
the number looked up in its place; of a town, exactly if the double is finite or no town has the
number zero. -/
theorem numeric_ids_iff {k : Validator} (hr : k.reference.IsSized) (x : Float) (flag : Value) :
    ∃ vocation town : Bool,
      k.call "validVocation" [.number x, flag] = .ok [.bool vocation] ∧
      k.call "validTown" [.number x] = .ok [.bool town] ∧
      (vocation = true ↔ k.reference.HasVocation (Number.sought x) flag.truthy) ∧
      (town = true ↔ k.reference.HasTown (Number.sought x)) ∧
      ((vocation = true ↔
          ∃ n, Number.Truncates x n ∧ k.reference.HasVocation n flag.truthy) ↔
        (∃ n, Number.Truncates x n ∧ Number.fitsInt64 n = true) ∨
          ¬ k.reference.HasVocation (Number.sought x) flag.truthy) ∧
      ((town = true ↔ ∃ n, Number.Truncates x n ∧ k.reference.HasTown n) ↔
        (∃ n, Number.Truncates x n) ∨ ¬ k.reference.HasTown 0) := by
  refine ⟨_, _, k.call_validVocation_number x flag, k.call_validTown_number x, ?_⟩
  rw [Number.toInteger_eq_sought, Reference.any_vocationById?_iff, Reference.isSome_townById?_iff]
  refine ⟨Iff.rfl, Iff.rfl,
    Number.sought_iff (fun n (h : k.reference.HasVocation n flag.truthy) => h.fits hr) x, ?_⟩
  rw [Number.sought_iff (fun n (h : k.reference.HasTown n) => h.fits hr) x]
  -- for towns, being out of range does no harm: only zero, for what is not finite, may be one
  by_cases hfinite : ∃ n, Number.Truncates x n
  · obtain ⟨n, hn⟩ := hfinite
    refine iff_of_true ?_ (.inl ⟨n, hn⟩)
    by_cases hfound : k.reference.HasTown (Number.sought x)
    · have hclamp := hfound
      rw [hn.sought_eq] at hclamp
      exact .inl ⟨n, hn, hclamp.fits_of_clamp hr⟩
    · exact .inr hfound
  · rw [Number.sought_of_not_finite hfinite]
    have hnot : ¬ ∃ n, Number.Truncates x n ∧ Number.fitsInt64 n = true :=
      fun ⟨n, hn, _⟩ => hfinite ⟨n, hn⟩
    simp [hfinite, hnot]

/-- What is left of 2.9 is the number of the second vocation, which is no base vocation, and of a
town. -/
theorem numeric_ids_of_fraction :
    let knight : Vocation := ⟨1, "Knight", "", 1⟩
    let elite : Vocation := ⟨2, "Elite Knight", "", 1⟩
    let r : Reference := ⟨[knight, elite], [⟨2, "Carlin"⟩], by decide, by decide⟩
    let k : Validator := ⟨r, dropListed, none, .full⟩
    k.reference.IsSized ∧ Number.Truncates 2.9 2 ∧
      k.call "validVocation" [.number 2.9, .bool false] = .ok [.bool true] ∧
      k.call "validVocation" [.number 2.9, .bool true] = .ok [.bool false] ∧
      k.call "validTown" [.number 2.9] = .ok [.bool true] := by
  intro knight elite r k
  have hr : k.reference.IsSized := ⟨by decide, by decide⟩
  have hx : Number.Truncates 2.9 2 := Number.truncate?_eq_some_iff.1 (by decide +kernel)
  have hfits : ∃ n, Number.Truncates 2.9 n ∧ Number.fitsInt64 n = true := ⟨2, hx, by decide⟩
  have hfound : k.reference.HasVocation 2 false :=
    ⟨[knight], elite, [], rfl, by decide, rfl, nofun⟩
  have hnot : ¬ k.reference.HasVocation 2 true := by
    rw [← Reference.any_vocationById?_iff]
    decide
  obtain ⟨any, town, hany, htown, -, -, hiff, htowns⟩ := numeric_ids_iff hr 2.9 (.bool false)
  obtain ⟨base, -, hbase, -, -, -, hiff', -⟩ := numeric_ids_iff hr 2.9 (.bool true)
  obtain rfl : any = true := (hiff.2 (.inl hfits)).2 ⟨2, hx, hfound⟩
  obtain rfl : town = true := (htowns.2 (.inl ⟨2, hx⟩)).2 ⟨2, hx, ⟨2, "Carlin"⟩, by decide, rfl⟩
  have hfalse : base = false := by
    rw [← Bool.not_eq_true, hiff'.2 (.inl hfits)]
    rintro ⟨n, hn, h⟩
    rw [hn.eq hx] at h
    exact hnot h
  rw [hfalse] at hbase
  exact ⟨hr, hx, hany, hbase, htown⟩

/-- **NaN names the vocation with the number zero**, and a double out of range the one with the
farthest number, though neither is what the double stands for. -/
theorem numeric_id_of_nan :
    let none : Vocation := ⟨0, "None", "", 0⟩
    let last : Vocation := ⟨0x7FFFFFFFFFFFFFFF, "Last", "", 0x7FFFFFFFFFFFFFFF⟩
    let r : Reference := ⟨[none, last], [], by decide, by decide⟩
    let k : Validator := ⟨r, dropListed, .none, .full⟩
    let nan := Float.ofBits 0x7FF8000000000000
    k.call "validVocation" [.number nan, .bool true] = .ok [.bool true] ∧
      (¬ ∃ n, Number.Truncates nan n) ∧
      k.call "validVocation" [.number 1e300, .bool true] = .ok [.bool true] ∧
      ¬ ∃ n, Number.Truncates 1e300 n ∧ k.reference.HasVocation n true := by
  intro none last r k nan
  have hr : k.reference.IsSized := ⟨by decide, by decide⟩
  have hnan : (Value.number nan).toInteger = 0 := by decide +kernel
  have hlarge : (Value.number 1e300).toInteger = 0x7FFFFFFFFFFFFFFF := by decide +kernel
  rw [k.call_validVocation_number, k.call_validVocation_number, hnan, hlarge]
  refine ⟨rfl, ?_, rfl, ?_⟩
  · rintro ⟨n, hn⟩
    have htruncate : Number.truncate? nan = .none := by decide +kernel
    rw [← Number.truncate?_eq_some_iff, htruncate] at hn
    cases hn
  · rintro ⟨n, hn, h⟩
    have hout : ∀ n ∈ Number.truncate? 1e300, Number.fitsInt64 n = false := by decide +kernel
    have hfits := h.fits hr
    rw [hout n (Number.truncate?_eq_some_iff.2 hn)] at hfits
    exact Bool.false_ne_true hfits

end WebScript
