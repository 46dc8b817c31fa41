import Mathlib.Data.Nat.Bitwise
import WebScript.Proofs.Case

/-!
# Forms of letters

What a case mapping makes of a letter has no letter left for it to change, but for one thing: the
capitals behind the first character of an upper-case form, as in the two letters of the sharp s.
So the forms are a matter of which characters the tables map from and to. Each of these sets is
written as the bits of one number, and two sets have no member in common if their numbers have no
bit in common.

* `bits`, `not_mem_of_bits`: sets of numbers as bits.
* `upper_eq_mapWith`, `lower_eq_mapWith`: **the case mappings are their tables**, with a run for the
  ASCII letters in front.
* `exists_upper_eq_cons`: an upper-case form begins with a character that is its own.
* `lower_of_mem_lower`: the characters of a lower-case form are their own.
* `hyphen_not_mem_upper`, `hyphen_not_mem_lower`: no form of another character has a hyphen.
-/

namespace WebScript.Text.Case

/-! ## Sets as bits -/

/-- The number whose bits are at these places. -/
def bits (ns : List Nat) : Nat := ns.foldr (fun n b => 2 ^ n ||| b) 0

theorem testBit_bits (ns : List Nat) (n : Nat) : (bits ns).testBit n = decide (n ∈ ns) := by
  induction ns with
  | nil => simp [bits]
  | cons m ns ih =>
    rw [bits, List.foldr_cons, ← bits, Nat.testBit_or, ih, Nat.testBit_two_pow]
    simp [eq_comm]

/-- **Numbers without a common bit** are sets without a common member. -/
theorem not_mem_of_bits {ns ms : List Nat} (h : bits ns &&& bits ms = 0) {n : Nat} (hn : n ∈ ns) :
    n ∉ ms := by
  intro hm
  have hbit : (bits ns &&& bits ms).testBit n = true := by
    rw [Nat.testBit_and, testBit_bits, testBit_bits, decide_eq_true hn, decide_eq_true hm]
    rfl
  rw [h, Nat.zero_testBit] at hbit
  cases hbit

/-! ## Tables -/

/-- The characters that a run maps. -/
def Run.sources (r : Run) : List Nat := List.range' r.low ((r.high - r.low) / r.step + 1) r.step

/-- The characters that a run maps to. -/
def Run.targets (r : Run) : List Nat := r.sources.map fun n : Nat => (n + r.shift).toNat

/-- The characters that tables map. -/
def sources (runs : List Run) (expansions : List (Nat × List Nat)) : List Nat :=
  runs.flatMap Run.sources ++ expansions.map (·.1)

variable {r : Run} {runs : List Run} {expansions : List (Nat × List Nat)} {n m : Nat} {c d : Char}

theorem Run.mem_sources (h : r.map? n = some m) : n ∈ r.sources := by
  unfold map? at h
  split at h
  · rename_i hn
    obtain ⟨hlow, hhigh, hstep⟩ := hn
    refine List.mem_range'.2 ⟨(n - r.low) / r.step, ?_, ?_⟩
    · exact Nat.lt_succ_of_le (Nat.div_le_div_right (Nat.sub_le_sub_right hhigh r.low))
    · have hdist := Nat.div_add_mod (n - r.low) r.step
      omega
  · cases h

theorem Run.mem_targets (h : r.map? n = some m) : m ∈ r.targets := by
  have hm : m = (n + r.shift).toNat := by
    unfold map? at h
    split at h
    · exact (Option.some.inj h).symm
    · cases h
  rw [hm]
  exact List.mem_map_of_mem (mem_sources h)

/-- The characters of which the mapped forms consist, and the one that a number stands for that is
of no character. -/
def targets (runs : List Run) (expansions : List (Nat × List Nat)) : List Nat :=
  0 :: (runs.flatMap Run.targets ++ expansions.flatMap (·.2))

/-- The characters with which the mapped forms begin, and the one that a number stands for that is
of no character. -/
def heads (runs : List Run) (expansions : List (Nat × List Nat)) : List Nat :=
  0 :: (runs.flatMap Run.targets ++ expansions.map (·.2.headD 0))

theorem toNat_ofNat_mem {ns : List Nat} (h : n ∈ ns) : (Char.ofNat n).toNat ∈ 0 :: ns := by
  by_cases hn : n.isValidChar
  · have hchar : Char.ofNat n = Char.ofNatAux n hn := dif_pos hn
    rw [hchar]
    exact List.mem_cons_of_mem 0 h
  · have hzero : (Char.ofNat n).toNat = 0 := congrArg Char.toNat (dif_neg hn)
    rw [hzero]
    exact List.mem_cons_self

/-- A character is left as it is, or mapped by a run, or listed with its expansion. -/
theorem mapWith_cases (runs : List Run) (expansions : List (Nat × List Nat)) (c : Char) :
    mapWith runs expansions c = [c] ∨
      (∃ n ∈ runs.flatMap Run.targets, mapWith runs expansions c = [Char.ofNat n]) ∨
      ∃ e ∈ expansions, e.1 = c.toNat ∧ mapWith runs expansions c = e.2.map Char.ofNat := by
  unfold mapWith
  cases hr : runs.findSome? (·.map? c.toNat) with
  | some n =>
    obtain ⟨r, hmem, hmap⟩ := List.exists_of_findSome?_eq_some hr
    exact .inr (.inl ⟨n, List.mem_flatMap.2 ⟨r, hmem, Run.mem_targets hmap⟩, rfl⟩)
  | none =>
    cases he : expansions.lookup c.toNat with
    | some ns =>
      obtain ⟨before, after, rfl, -⟩ := List.lookup_eq_some_iff.1 he
      exact .inr (.inr ⟨(c.toNat, ns), by simp, rfl, rfl⟩)
    | none => exact .inl rfl

theorem mapWith_eq_self (h : c.toNat ∉ sources runs expansions) :
    mapWith runs expansions c = [c] := by
  have hruns : runs.findSome? (·.map? c.toNat) = none := by
    refine List.findSome?_eq_none_iff.2 fun r hr => ?_
    cases hmap : r.map? c.toNat with
    | none => rfl
    | some n =>
      have hmem := List.mem_flatMap.2 ⟨r, hr, Run.mem_sources hmap⟩
      exact absurd (List.mem_append_left _ hmem) h
  have hexp : expansions.lookup c.toNat = none := by
    cases he : expansions.lookup c.toNat with
    | none => rfl
    | some ns =>
      obtain ⟨before, after, rfl, -⟩ := List.lookup_eq_some_iff.1 he
      exact absurd (List.mem_append_right _ (by simp)) h
  rw [mapWith, hruns, hexp]

theorem mem_mapWith (h : d ∈ mapWith runs expansions c) :
    d = c ∧ mapWith runs expansions c = [c] ∨ d.toNat ∈ targets runs expansions := by
  rcases mapWith_cases runs expansions c with hself | ⟨n, hn, hrun⟩ | ⟨e, he, -, hexp⟩
  · rw [hself] at h
    exact .inl ⟨List.mem_singleton.1 h, hself⟩
  · rw [hrun] at h
    obtain rfl := List.mem_singleton.1 h
    exact .inr (toNat_ofNat_mem (List.mem_append_left _ hn))
  · rw [hexp] at h
    obtain ⟨n, hn, rfl⟩ := List.mem_map.1 h
    have hmem : n ∈ expansions.flatMap (·.2) := List.mem_flatMap.2 ⟨e, he, hn⟩
    exact .inr (toNat_ofNat_mem (List.mem_append_right _ hmem))

/-- A character that is not listed with an expansion is mapped to one character. -/
theorem length_mapWith (h : ∀ e ∈ expansions, e.1 ≠ c.toNat) :
    (mapWith runs expansions c).length = 1 := by
  rcases mapWith_cases runs expansions c with hself | ⟨u, -, hrun⟩ | ⟨e, he, hkey, -⟩
  · rw [hself, List.length_singleton]
  · rw [hrun, List.length_singleton]
  · exact absurd hkey (h e he)

/-- A run of ASCII letters, in front of the tables of the others, makes one mapping of all. -/
theorem mapWith_cons (hlow : bits (List.range 0x80) &&& bits (sources runs expansions) = 0)
    (hhigh : r.high < 0x80) (c : Char) :
    mapWith (r :: runs) expansions c =
      if c.toNat < 0x80 then [((r.map? c.toNat).map Char.ofNat).getD c]
      else mapWith runs expansions c := by
  split
  · -- the other tables know no ASCII character
    rename_i hc
    have hself : mapWith runs expansions c = [c] :=
      mapWith_eq_self (not_mem_of_bits hlow (List.mem_range.2 hc))
    cases hr : r.map? c.toNat with
    | some n =>
      rw [mapWith, List.findSome?_cons, hr]
      rfl
    | none =>
      rw [mapWith, List.findSome?_cons, hr]
      exact hself
  · rename_i hc
    have hr : r.map? c.toNat = none := if_neg fun h => absurd h.2.1 (by omega)
    rw [mapWith, List.findSome?_cons, hr]
    rfl

/-! ## Upper and lower case -/

/-- The runs of upper case, that of the ASCII letters in front. -/
def allUpperRuns : List Run := ⟨97, 122, 1, -32⟩ :: upperRuns

/-- The runs of lower case, that of the ASCII letters in front. -/
def allLowerRuns : List Run := ⟨65, 90, 1, 32⟩ :: lowerRuns

theorem Run.map?_of_step_one (low high : Nat) (shift : Int) (n : Nat) :
    Run.map? ⟨low, high, 1, shift⟩ n =
      if low ≤ n ∧ n ≤ high then some (n + shift).toNat else none := by
  simp [map?, Nat.mod_one]

/-- **Upper case is what its tables say.** -/
theorem upper_eq_mapWith (c : Char) : upper c = mapWith allUpperRuns upperExpansions c := by
  have hascii : c.toUpper = ((Run.map? ⟨97, 122, 1, -32⟩ c.toNat).map Char.ofNat).getD c := by
    rw [← Char.ofNat_toNat c.toUpper, toNat_toUpper, Run.map?_of_step_one]
    split
    · rw [Option.map_some, Option.getD_some]
      congr 1
      omega
    · exact Char.ofNat_toNat c
  rw [allUpperRuns, mapWith_cons (by decide +kernel) (by decide), upper, hascii]

/-- **Lower case is what its tables say.** -/
theorem lower_eq_mapWith (c : Char) : lower c = mapWith allLowerRuns lowerExpansions c := by
  have hascii : c.toLower = ((Run.map? ⟨65, 90, 1, 32⟩ c.toNat).map Char.ofNat).getD c := by
    rw [← Char.ofNat_toNat c.toLower, toNat_toLower, Run.map?_of_step_one]
    split
    · rfl
    · exact Char.ofNat_toNat c
  rw [allLowerRuns, mapWith_cons (by decide +kernel) (by decide), lower, hascii]

theorem upperHeads_apart : bits (heads allUpperRuns upperExpansions) &&&
    bits (sources allUpperRuns upperExpansions) = 0 := by decide +kernel

theorem upperTargets_apart : bits (targets allUpperRuns upperExpansions) &&&
    bits ['-'.toNat] = 0 := by decide +kernel

theorem lowerTargets_apart : bits (targets allLowerRuns lowerExpansions) &&&
    bits ('-'.toNat :: sources allLowerRuns lowerExpansions) = 0 := by decide +kernel

theorem upperExpansions_tail : ∀ e ∈ upperExpansions, e.2 ≠ [] ∧
    ∀ n ∈ e.2.tail, Char.ofNat n ≠ '-' ∧
      ∀ e' ∈ lowerExpansions, e'.1 ≠ (Char.ofNat n).toNat := by decide +kernel

/-- **An upper-case form begins with a character that is its own upper-case form.** Those behind it
are not hyphens, and none of them becomes several characters in lower case. -/
theorem exists_upper_eq_cons (c : Char) :
    ∃ u us, upper c = u :: us ∧ upper u = [u] ∧ ∀ d ∈ us, d ≠ '-' ∧ (lower d).length = 1 := by
  have hsteady : ∀ n ∈ (heads allUpperRuns upperExpansions).tail,
      upper (Char.ofNat n) = [Char.ofNat n] := by
    intro n hn
    rw [upper_eq_mapWith]
    exact mapWith_eq_self (not_mem_of_bits upperHeads_apart (toNat_ofNat_mem hn))
  have hcases := mapWith_cases allUpperRuns upperExpansions c
  rw [← upper_eq_mapWith] at hcases
  -- left as it is, mapped to one character, or expanded
  rcases hcases with hself | ⟨n, hn, hrun⟩ | ⟨e, he, -, hexp⟩
  · exact ⟨c, [], hself, hself, by simp⟩
  · exact ⟨Char.ofNat n, [], hrun, hsteady n (List.mem_append_left _ hn), by simp⟩
  · obtain ⟨hne, htail⟩ := upperExpansions_tail e he
    obtain ⟨n, ns, hns⟩ := List.exists_cons_of_ne_nil hne
    have hhead : n ∈ (heads allUpperRuns upperExpansions).tail :=
      List.mem_append_right _ (List.mem_map.2 ⟨e, he, by rw [hns]; rfl⟩)
    refine ⟨Char.ofNat n, ns.map Char.ofNat, by rw [hexp, hns]; rfl, hsteady n hhead, ?_⟩
    intro d hd
    obtain ⟨m, hm, rfl⟩ := List.mem_map.1 hd
    rw [hns] at htail
    rw [lower_eq_mapWith]
    exact ⟨(htail m hm).1, length_mapWith (htail m hm).2⟩

/-- **The characters of a lower-case form are their own lower-case forms.** -/
theorem lower_of_mem_lower (h : d ∈ lower c) : lower d = [d] := by
  rw [lower_eq_mapWith] at h ⊢
  rcases mem_mapWith h with ⟨rfl, hself⟩ | htarget
  · exact hself
  · have hapart := not_mem_of_bits lowerTargets_apart htarget
    exact mapWith_eq_self (List.not_mem_of_not_mem_cons hapart)

theorem hyphen_not_mem_upper (h : c ≠ '-') : '-' ∉ upper c := by
  intro hmem
  rw [upper_eq_mapWith] at hmem
  rcases mem_mapWith hmem with ⟨heq, -⟩ | htarget
  · exact h heq.symm
  · exact not_mem_of_bits upperTargets_apart htarget List.mem_cons_self

theorem hyphen_not_mem_lower (h : c ≠ '-') : '-' ∉ lower c := by
  intro hmem
  rw [lower_eq_mapWith] at hmem
  rcases mem_mapWith hmem with ⟨heq, -⟩ | htarget
  · exact h heq.symm
  · exact not_mem_of_bits lowerTargets_apart htarget List.mem_cons_self

end WebScript.Text.Case
