import Mathlib.Data.List.Induction
import WebScript.Proofs.Case
import WebScript.Proofs.Fields
import WebScript.Proofs.Headers

/-!
# What headers remember

Headers after any calls that add, set and remove. A header is known by the canonical form of its
name, which the case of ASCII letters does not change. What it has is told from the calls alone.

* `Headers.Respells`, `Headers.canonicalName_congr`: **names that differ in the case of letters are
  one header**; `Headers.canonicalName_eq_iff`: ASCII names are only then.
* `Headers.given`: the values given to a header since it was last set or removed.
* `Headers.Records`, `Headers.Call.records_apply`: **headers are what the calls say**, kept by a
  call.
* `headers_are_multimap`: both together, for any calls.
-/

namespace WebScript

namespace Headers

/-! ## Spelling -/

variable {a b : String} {as bs : List Char}

/-- **One name is the other in another mix of upper and lower case** of ASCII letters. -/
def Respells (a b : String) : Prop := Text.Case.lowerAscii a = Text.Case.lowerAscii b

instance (a b : String) : Decidable (Respells a b) :=
  inferInstanceAs (Decidable (Text.Case.lowerAscii a = Text.Case.lowerAscii b))

theorem respells_iff : Respells a b ↔ a.toList.map Char.toLower = b.toList.map Char.toLower :=
  String.ofList_inj

theorem canonicalChars_cons (first : Bool) (c : Char) (cs : List Char) :
    canonicalChars first (c :: cs) =
      (if first then Text.Case.upper c else Text.Case.lower c) ++
        canonicalChars (c == '-') cs := rfl

/-- Hyphens have no case, so words begin at the same places. -/
theorem isHyphen_congr {c d : Char} (h : c.toLower = d.toLower) : (c == '-') = (d == '-') := by
  have hyphen : ∀ c : Char, c.toLower = '-' ↔ c = '-' :=
    fun c => Text.Case.toLower_eq_iff (by decide)
  rw [Bool.eq_iff_iff, beq_iff_eq, beq_iff_eq, ← hyphen c, ← hyphen d, h]

theorem canonicalChars_congr (first : Bool) (h : as.map Char.toLower = bs.map Char.toLower) :
    canonicalChars first as = canonicalChars first bs := by
  induction as generalizing first bs with
  | nil =>
    rw [List.map_nil, eq_comm, List.map_eq_nil_iff] at h
    rw [h]
  | cons c as ih =>
    obtain ⟨d, bs, rfl, hd, hbs⟩ := List.map_eq_cons_iff.1 h.symm
    rw [canonicalChars_cons, canonicalChars_cons, Text.Case.upper_congr hd.symm,
      Text.Case.lower_congr hd.symm, isHyphen_congr hd.symm, ih _ hbs.symm]

/-- **Names that differ in the case of letters are one header.** -/
theorem canonicalName_congr (h : Respells a b) : canonicalName a = canonicalName b :=
  congrArg String.ofList (canonicalChars_congr true (respells_iff.1 h))

/-- An ASCII character is written as one character. -/
theorem canonicalChars_cons_of_ascii (first : Bool) {c : Char} (hc : c.toNat < 0x80)
    (cs : List Char) : canonicalChars first (c :: cs) =
      (if first then c.toUpper else c.toLower) :: canonicalChars (c == '-') cs := by
  rw [canonicalChars_cons, Text.Case.upper, Text.Case.lower, if_pos hc, if_pos hc]
  cases first <;> rfl

theorem toLower_eq_of_canonicalChars {first : Bool} (ha : ∀ c ∈ as, c.toNat < 0x80)
    (hb : ∀ c ∈ bs, c.toNat < 0x80) (h : canonicalChars first as = canonicalChars first bs) :
    as.map Char.toLower = bs.map Char.toLower := by
  induction as generalizing first bs with
  | nil =>
    cases bs with
    | nil => rfl
    | cons d bs =>
      rw [canonicalChars_cons_of_ascii first (hb d List.mem_cons_self)] at h
      exact absurd h (List.cons_ne_nil _ _).symm
  | cons c as ih =>
    obtain ⟨hc, has⟩ := List.forall_mem_cons.1 ha
    rw [canonicalChars_cons_of_ascii first hc] at h
    cases bs with
    | nil => exact absurd h (List.cons_ne_nil _ _)
    | cons d bs =>
      obtain ⟨hd, hbs⟩ := List.forall_mem_cons.1 hb
      rw [canonicalChars_cons_of_ascii first hd, List.cons.injEq] at h
      obtain ⟨hhead, hrest⟩ := h
      have hlower : c.toLower = d.toLower := by
        cases first with
        | true => exact Text.Case.toUpper_eq_iff_toLower_eq.1 hhead
        | false => exact hhead
      rw [isHyphen_congr hlower] at hrest
      rw [List.map_cons, List.map_cons, hlower, ih has hbs hrest]

/-- ASCII names are one header only if they differ in the case of letters. -/
theorem canonicalName_eq_iff (ha : ∀ c ∈ a.toList, c.toNat < 0x80)
    (hb : ∀ c ∈ b.toList, c.toNat < 0x80) :
    canonicalName a = canonicalName b ↔ Respells a b := by
  refine ⟨fun h => ?_, canonicalName_congr⟩
  exact respells_iff.2 (toLower_eq_of_canonicalChars ha hb (String.ofList_inj.1 h))

/-! ## Calls -/

/-- A call that changes headers. -/
inductive Call where
  | add (name value : String)
  | set (name value : String)
  | remove (name : String)

namespace Call

/-- What a call does to headers. -/
def apply (h : Headers) : Call → Headers
  | .add name value => h.add name value
  | .set name value => h.set name value
  | .remove name => h.remove name

/-- A call sets or removes the header of this canonical name. -/
def resets (header : String) : Call → Bool
  | .add _ _ => false
  | .set name _ | .remove name => header = canonicalName name

/-- The value that a call gives to the header of this canonical name. -/
def value? (header : String) : Call → Option String
  | .add name value | .set name value => if header = canonicalName name then some value else none
  | .remove _ => none

/-- One call is the other, but for the case of ASCII letters in the name. -/
inductive Respells : Call → Call → Prop
  | add {a b : String} (value : String) :
    Headers.Respells a b → Respells (.add a value) (.add b value)
  | set {a b : String} (value : String) :
    Headers.Respells a b → Respells (.set a value) (.set b value)
  | remove {a b : String} : Headers.Respells a b → Respells (.remove a) (.remove b)

end Call

/-- The headers after some calls. -/
def after (calls : List Call) : Headers := calls.foldl Call.apply empty

/-- The calls from the last one on that sets or removes the header; all calls if none does. -/
def since (header : String) : List Call → List Call
  | [] => []
  | c :: calls => if calls.any (·.resets header) then since header calls else c :: calls

/-- **The values given to a header since it was last set or removed**, the one it was set to first.
-/
def given (calls : List Call) (header : String) : List String :=
  (since header calls).filterMap (·.value? header)

variable {calls : List Call} {c : Call} {header : String} {h : Headers}

theorem since_concat (calls : List Call) (c : Call) (header : String) :
    since header (calls ++ [c]) =
      if c.resets header then [c] else since header calls ++ [c] := by
  -- the last call that resets is the new one, or one of the others, or there is none
  induction calls with
  | nil => simp [since]
  | cons d calls ih =>
    rw [List.cons_append, since, List.any_append, ih]
    by_cases hc : c.resets header = true
    · simp [hc]
    · by_cases hany : calls.any (·.resets header) = true
      · simp [hc, hany, since]
      · simp [hc, hany, since]

theorem given_concat (calls : List Call) (c : Call) (header : String) :
    given (calls ++ [c]) header =
      (if c.resets header then [] else given calls header) ++ (c.value? header).toList := by
  have hvalue : [c].filterMap (·.value? header) = (c.value? header).toList := by
    cases hv : c.value? header <;> simp [hv]
  rw [given, since_concat]
  split
  · rw [hvalue, List.nil_append]
  · rw [List.filterMap_append, hvalue, given]

/-! ## Headers and calls -/

/-- **Headers are what the calls say**: each has the values given to it, and their names stand in
the order in which they came to stay. -/
structure Records (h : Headers) (calls : List Call) : Prop where
  getAll : ∀ header, h.fields.getAll header = given calls header
  names : Chronological (fun calls header => given calls header ≠ []) calls h.fields.entries.keys

theorem Call.getAll_apply (c : Call) (h : Headers) (header : String) :
    (c.apply h).fields.getAll header =
      (if c.resets header then [] else h.fields.getAll header) ++ (c.value? header).toList := by
  cases c with
  | add name value =>
    by_cases hn : header = canonicalName name <;>
      simp [apply, Headers.add, Fields.getAll_add, resets, value?, hn]
  | set name value =>
    by_cases hn : header = canonicalName name <;>
      simp [apply, Headers.set, Fields.getAll_set, resets, value?, hn]
  | remove name =>
    by_cases hn : header = canonicalName name <;>
      simp [apply, Headers.remove, Fields.getAll_remove, resets, value?, hn]

/-- **A call is recorded.** -/
theorem Call.records_apply (c : Call) (hr : h.Records calls) :
    (c.apply h).Records (calls ++ [c]) := by
  have hall : ∀ header, (c.apply h).fields.getAll header = given (calls ++ [c]) header := by
    intro header
    rw [c.getAll_apply, given_concat, hr.getAll]
  have hmem : ∀ header, header ∈ (c.apply h).fields.entries.keys ↔
      given (calls ++ [c]) header ≠ [] := by
    intro header
    rw [Fields.mem_keys_iff, hall]
  refine ⟨hall, ?_⟩
  -- in place or behind all others; and taken out
  cases c with
  | add name value => exact hr.names.insert hmem
  | set name value => exact hr.names.insert hmem
  | remove name => exact hr.names.erase hmem

theorem records_after (calls : List Call) : (after calls).Records calls := by
  induction calls using List.reverseRecOn with
  | nil => exact ⟨fun _ => rfl, Chronological.nil fun _ h => h rfl⟩
  | append_singleton calls c ih =>
    rw [after, List.foldl_append]
    exact c.records_apply ih

/-- The headers are their names with the values given to each. -/
theorem Records.toList_eq (hr : h.Records calls) :
    h.fields.toList = h.fields.entries.keys.map fun header => (header, given calls header) := by
  refine OrderedMap.entries_eq_map h.fields.distinct fun header hmem => ?_
  obtain ⟨vs, hvs⟩ := Option.isSome_iff_exists.1 (OrderedMap.mem_keys_iff.1 hmem)
  rw [← hr.getAll, Fields.getAll, hvs, Option.getD_some]

/-- **Calls that differ in the case of letters do the same.** -/
theorem Call.apply_congr {d : Call} (hcd : c.Respells d) (h : Headers) : c.apply h = d.apply h := by
  cases hcd with
  | add value hab => rw [apply, apply, Headers.add, canonicalName_congr hab, Headers.add]
  | set value hab => rw [apply, apply, Headers.set, canonicalName_congr hab, Headers.set]
  | remove hab => rw [apply, apply, Headers.remove, canonicalName_congr hab, Headers.remove]

theorem after_congr {ds : List Call} (hcs : List.Forall₂ Call.Respells calls ds) :
    after calls = after ds := by
  have hfold : ∀ h : Headers, calls.foldl Call.apply h = ds.foldl Call.apply h := by
    induction hcs with
    | nil => exact fun _ => rfl
    | cons hcd _ ih =>
      intro h
      rw [List.foldl_cons, List.foldl_cons, Call.apply_congr hcd, ih]
  exact hfold empty

end Headers

/-- **Headers are ordered multimaps whose names have no case.** Take any calls that add, set and
remove headers, of whatever names. Calls with names in another mix of upper and lower case of ASCII
letters make the same headers, and a lookup by such a name finds the same. A header has exactly the
values given to it since it was last set or removed, the one it was set to first. The names that are
listed are distinct, those of the headers that have values, in the order in which each most recently
went from absent to present, each with its values, of which there is at least one. ASCII names are
one header only if they differ in the case of letters. -/
theorem headers_are_multimap (calls : List Headers.Call) :
    ((∀ ds, List.Forall₂ Headers.Call.Respells calls ds → Headers.after calls = Headers.after ds) ∧
      ∀ (h : Headers) (a b : String), Headers.Respells a b →
        h.getAll a = h.getAll b ∧ h.get a = h.get b ∧ h.contains a = h.contains b) ∧
    (∀ name, (Headers.after calls).getAll name =
      Headers.given calls (Headers.canonicalName name)) ∧
    (Chronological (fun calls header => Headers.given calls header ≠ []) calls
        (Headers.after calls).fields.entries.keys ∧
      (Headers.after calls).fields.toList = (Headers.after calls).fields.entries.keys.map
        (fun header => (header, Headers.given calls header)) ∧
      ∀ e ∈ (Headers.after calls).fields.toList, e.2 ≠ []) ∧
    ∀ a b : String, (∀ c ∈ a.toList, c.toNat < 0x80) → (∀ c ∈ b.toList, c.toNat < 0x80) →
      (Headers.canonicalName a = Headers.canonicalName b ↔ Headers.Respells a b) := by
  have hr := Headers.records_after calls
  refine ⟨⟨fun ds => Headers.after_congr, ?_⟩, ?_, ⟨hr.names, hr.toList_eq, ?_⟩, ?_⟩
  · intro h a b hab
    have hall : h.getAll a = h.getAll b := by
      rw [Headers.getAll, Headers.canonicalName_congr hab, Headers.getAll]
    exact ⟨hall, by rw [Headers.get, hall, Headers.get],
      by rw [Headers.contains, hall, Headers.contains]⟩
  · intro name
    exact hr.getAll (Headers.canonicalName name)
  · exact (Headers.after calls).fields.valued
  · intro a b
    exact Headers.canonicalName_eq_iff

/-- The second value is added under another spelling, and the header that was removed comes last. -/
theorem headers_are_multimap_of_respelled :
    let calls : List Headers.Call := [.add "x-État" "1", .add "set-cookie" "a=1",
      .remove "X-ÉTAT", .add "Set-Cookie" "b=2", .set "x-état" "2", .add "X-État" "3"]
    let ds : List Headers.Call := [.add "X-ÉtAT" "1", .add "SET-cookie" "a=1",
      .remove "x-ÉTAT", .add "set-COOKIE" "b=2", .set "X-état" "2", .add "x-ÉtAt" "3"]
    List.Forall₂ Headers.Call.Respells calls ds ∧ Headers.after calls = Headers.after ds ∧
      Headers.Respells "SET-COOKIE" "set-cookie" ∧
      (Headers.after ds).getAll "SET-COOKIE" = (Headers.after ds).getAll "set-cookie" ∧
      (Headers.after calls).getAll "SET-COOKIE" = ["a=1", "b=2"] ∧
      (Headers.after calls).getAll "x-ÉTAT" = ["2", "3"] ∧
      Headers.canonicalName "set-cookie" ≠ Headers.canonicalName "set-cookie2" := by
  intro calls ds
  have hcs : List.Forall₂ Headers.Call.Respells calls ds :=
    .cons (.add _ (by decide)) (.cons (.add _ (by decide)) (.cons (.remove (by decide))
      (.cons (.add _ (by decide)) (.cons (.set _ (by decide)) (.cons (.add _ (by decide)) .nil)))))
  have hname : Headers.Respells "SET-COOKIE" "set-cookie" := by decide
  obtain ⟨⟨hsame, hlookup⟩, hvalues, -, hascii⟩ := headers_are_multimap calls
  refine ⟨hcs, hsame ds hcs, hname, (hlookup _ _ _ hname).1, ?_, ?_, ?_⟩
  · rw [hvalues]
    decide +kernel
  · rw [hvalues]
    decide +kernel
  · have hall : ∀ s : String, s.toList.all (·.toNat < 0x80) = true →
        ∀ c ∈ s.toList, c.toNat < 0x80 := by
      intro s hs
      simpa using hs
    rw [ne_eq, hascii "set-cookie" "set-cookie2" (hall _ (by decide)) (hall _ (by decide))]
    decide

end WebScript
