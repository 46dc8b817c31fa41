import WebScript.Proofs.Case.Forms
import WebScript.Proofs.Headers.History

/-!
# Names in canonical form

The canonical form of a name can have another canonical form. A word of it that begins with a
character of several capitals, as the sharp s, keeps them all, and written again it keeps the first
of them alone. Names without such words are steady, ASCII names among them, and nothing changes any
more when a name is written in canonical form for the third time.

* `Headers.IsSteady`: no word of a name begins with a character of several capitals.
* `Headers.byWords`: what is made of a name character by character, told where words begin.
* `Headers.canonicalName_eq_self_iff`: **a canonical form is its own only if the name is steady**.
* `Headers.isSteady_canonicalName`: a canonical form is always steady.
* `Headers.Addresses`, `Headers.addresses_iff`: a listed name addresses the entry for which it was
  listed only if it is its own canonical form.
* `canonical_names`: all together, for headers after any calls.
-/

namespace WebScript

namespace Headers

open Text.Case

/-! ## Words -/

/-- What `f` makes of the characters of a name, told of each whether a word begins with it; `first`
says that one begins here. -/
def byWords (f : Bool → Char → List Char) (first : Bool) : List Char → List Char
  | [] => []
  | c :: cs => f first c ++ byWords f (c == '-') cs

/-- What is written for a character. -/
def form (first : Bool) (c : Char) : List Char := if first then upper c else lower c

/-- The characters with which words begin. -/
def initials (first : Bool) (cs : List Char) : List Char :=
  byWords (fun first c => if first then [c] else []) first cs

/-- **No word of the name begins with a character of several capitals**: what stands behind the
first character of an upper-case form is in lower case. -/
def IsSteady (name : String) : Prop :=
  ∀ c ∈ initials true name.toList, isLower (upper c).tail = true

instance (name : String) : Decidable (IsSteady name) :=
  decidable_of_iff ((initials true name.toList).all fun c => isLower (upper c).tail)
    List.all_eq_true

variable {f : Bool → Char → List Char} {first : Bool} {c d : Char} {bs cs us : List Char}

theorem canonicalChars_eq_byWords (first : Bool) (cs : List Char) :
    canonicalChars first cs = byWords form first cs := by
  induction cs generalizing first with
  | nil => rfl
  | cons c cs ih => rw [canonicalChars_cons, ih, byWords, form]

theorem form_hyphen (first : Bool) : form first '-' = ['-'] := by
  cases first <;> decide

theorem hyphen_not_mem_form (first : Bool) (h : c ≠ '-') : '-' ∉ form first c := by
  cases first with
  | true => exact hyphen_not_mem_upper h
  | false => exact hyphen_not_mem_lower h

/-- Characters other than a hyphen begin no word. -/
theorem beq_hyphen (h : '-' ∉ c :: cs) : (c == '-') = false :=
  beq_false_of_ne (List.ne_of_not_mem_cons h).symm

theorem byWords_append (h : '-' ∉ bs) :
    byWords f first (bs ++ cs) = byWords f first bs ++ byWords f (first && bs.isEmpty) cs := by
  induction bs generalizing first with
  | nil =>
    rw [List.isEmpty_nil, Bool.and_true]
    rfl
  | cons b bs ih =>
    rw [List.cons_append, byWords, byWords, beq_hyphen h, ih (List.not_mem_of_not_mem_cons h),
      List.append_assoc, List.isEmpty_cons, Bool.and_false, Bool.false_and]

/-- Within a word no other begins. -/
theorem byWords_of_hyphen_not_mem (h : '-' ∉ bs) : byWords f false bs = bs.flatMap (f false) := by
  induction bs with
  | nil => rfl
  | cons b bs ih =>
    rw [byWords, beq_hyphen h, ih (List.not_mem_of_not_mem_cons h), List.flatMap_cons]

/-- **What is written for a character makes a part of its own**, and what follows begins a word or
not as it did. -/
theorem byWords_form_append (f : Bool → Char → List Char) (first : Bool) (c : Char)
    (cs : List Char) :
    byWords f first (form first c ++ cs) =
      byWords f first (form first c) ++ byWords f (c == '-') cs := by
  by_cases hc : c = '-'
  · subst hc
    rw [form_hyphen, List.singleton_append, byWords, byWords, List.append_assoc]
    rfl
  · have hflag : (first && (form first c).isEmpty) = (c == '-') := by
      rw [beq_false_of_ne hc]
      cases first with
      | true =>
        obtain ⟨u, us, hu, -⟩ := exists_upper_eq_cons c
        rw [form, if_pos rfl, hu]
        rfl
      | false => rfl
    rw [byWords_append (hyphen_not_mem_form first hc), hflag]

/-! ## Written again -/

/-- The form of a character with which a word begins, where it is written again. -/
theorem exists_form_true (c : Char) : ∃ u us, form true c = u :: us ∧ upper u = [u] ∧
    (∀ d ∈ us, (lower d).length = 1) ∧ initials true (u :: us) = [u] ∧
    byWords form true (u :: us) = u :: us.flatMap lower := by
  obtain ⟨u, us, hform, hu, hus⟩ := exists_upper_eq_cons c
  have hhyphen : '-' ∉ us := fun h => (hus _ h).1 rfl
  refine ⟨u, us, hform, hu, fun d hd => (hus d hd).2, ?_⟩
  by_cases hc : c = '-'
  · -- a hyphen is its own form, with nothing behind it
    subst hc
    obtain ⟨rfl, rfl⟩ := List.cons_eq_cons.1 ((form_hyphen true).symm.trans hform)
    exact ⟨rfl, by decide⟩
  · have hne : '-' ∉ u :: us := hform ▸ hyphen_not_mem_upper hc
    rw [initials, byWords, byWords, beq_hyphen hne, byWords_of_hyphen_not_mem hhyphen,
      byWords_of_hyphen_not_mem hhyphen, form, if_pos rfl, hu]
    exact ⟨by simp, rfl⟩

theorem byWords_form_false (c : Char) : byWords form false (form false c) = form false c := by
  by_cases hc : c = '-'
  · subst hc
    decide
  · rw [byWords_of_hyphen_not_mem (hyphen_not_mem_form false hc)]
    have hself : (lower c).flatMap lower = (lower c).flatMap fun d => [d] :=
      List.flatMap_congr fun d hd => lower_of_mem_lower hd
    exact hself.trans (List.flatMap_singleton' _)

theorem length_flatMap_lower (h : ∀ d ∈ us, (lower d).length = 1) :
    (us.flatMap lower).length = us.length := by
  rw [List.length_flatMap, List.map_congr_left h, List.map_const', List.sum_replicate_nat,
    Nat.mul_one]

theorem flatMap_lower_eq_self_iff (h : ∀ d ∈ us, (lower d).length = 1) :
    us.flatMap lower = us ↔ isLower us = true := by
  induction us with
  | nil => simp [isLower]
  | cons d us ih =>
    obtain ⟨hd, hus⟩ := List.forall_mem_cons.1 h
    obtain ⟨l, hl⟩ := List.length_eq_one_iff.1 hd
    rw [List.flatMap_cons, hl, List.singleton_append, List.cons.injEq, ih hus]
    simp [isLower, hl]

theorem length_byWords_form (first : Bool) (c : Char) :
    (byWords form first (form first c)).length = (form first c).length := by
  cases first with
  | true =>
    obtain ⟨u, us, hform, -, hus, -, hagain⟩ := exists_form_true c
    rw [hform, hagain, List.length_cons, List.length_cons, length_flatMap_lower hus]
  | false => rw [byWords_form_false]

theorem byWords_form_eq_self_iff (first : Bool) (c : Char) :
    byWords form first (form first c) = form first c ↔
      ∀ d ∈ (if first then [c] else []), isLower (upper d).tail = true := by
  cases first with
  | true =>
    obtain ⟨u, us, hform, -, hus, -, hagain⟩ := exists_form_true c
    have hupper : upper c = u :: us := hform
    rw [hform, hagain, List.cons.injEq, flatMap_lower_eq_self_iff hus]
    simp [hupper]
  | false => simp [byWords_form_false]

/-- **A canonical form is its own only if no word begins with a character of several capitals.** -/
theorem byWords_eq_self_iff (first : Bool) (cs : List Char) :
    byWords form first (byWords form first cs) = byWords form first cs ↔
      ∀ c ∈ initials first cs, isLower (upper c).tail = true := by
  -- what is written for one character keeps its length, so the two passes agree piece by piece
  induction cs generalizing first with
  | nil => exact iff_of_true rfl fun c hc => absurd hc List.not_mem_nil
  | cons c cs ih =>
    have hsplit : ∀ as bs : List Char,
        byWords form first (form first c) ++ as = form first c ++ bs ↔
          byWords form first (form first c) = form first c ∧ as = bs :=
      fun as bs => ⟨fun h => List.append_inj h (length_byWords_form first c),
        fun h => by rw [h.1, h.2]⟩
    have hinitials : initials first (c :: cs) =
        (if first then [c] else []) ++ initials (c == '-') cs := rfl
    rw [byWords, byWords_form_append, hsplit, byWords_form_eq_self_iff, ih, hinitials,
      List.forall_mem_append]

/-- The words of a canonical form begin with characters that are their own capitals. -/
theorem upper_of_mem_initials (h : d ∈ initials first (byWords form first cs)) :
    upper d = [d] := by
  induction cs generalizing first with
  | nil => cases h
  | cons c cs ih =>
    rw [byWords, initials, byWords_form_append, List.mem_append] at h
    rcases h with h | h
    · -- of what is written for one character only the first can begin a word
      cases first with
      | true =>
        obtain ⟨u, us, hform, hu, -, hfirst, -⟩ := exists_form_true c
        rw [hform, ← initials, hfirst, List.mem_singleton] at h
        rw [h, hu]
      | false =>
        by_cases hc : c = '-'
        · subst hc
          cases h
        · rw [byWords_of_hyphen_not_mem (hyphen_not_mem_form false hc)] at h
          simp at h
    · exact ih h

theorem canonicalName_eq_self_iff (name : String) :
    canonicalName (canonicalName name) = canonicalName name ↔ IsSteady name := by
  have hchars : canonicalName (canonicalName name) =
      String.ofList (canonicalChars true (canonicalChars true name.toList)) := by
    rw [canonicalName, canonicalName, String.toList_ofList]
  rw [hchars, canonicalName, String.ofList_inj, canonicalChars_eq_byWords,
    canonicalChars_eq_byWords]
  exact byWords_eq_self_iff true name.toList

/-- **A canonical form is steady.** -/
theorem isSteady_canonicalName (name : String) : IsSteady (canonicalName name) := by
  intro c hc
  rw [canonicalName, String.toList_ofList, canonicalChars_eq_byWords] at hc
  rw [upper_of_mem_initials hc]
  rfl

theorem mem_of_mem_initials (h : c ∈ initials first cs) : c ∈ cs := by
  induction cs generalizing first with
  | nil => exact h
  | cons d cs ih =>
    rw [initials, byWords, List.mem_append] at h
    rcases h with h | h
    · cases first with
      | true => exact List.mem_singleton.1 h ▸ List.mem_cons_self
      | false => cases h
    · exact List.mem_cons_of_mem d (ih h)

/-- ASCII names are steady. -/
theorem isSteady_of_ascii {name : String} (h : ∀ c ∈ name.toList, c.toNat < 0x80) :
    IsSteady name := by
  intro c hc
  rw [upper, if_pos (h c (mem_of_mem_initials hc))]
  rfl

/-! ## Entries -/

/-- **The name addresses the entry**: it has the values of the entry, setting it gives the entry
one value in its place, and removing it takes out the entry and nothing else. -/
structure Addresses (h : Headers) (name : String) (e : String × List String) : Prop where
  getAll : h.getAll name = e.2
  contains : h.contains name = true
  set : ∀ value, (h.set name value).fields.toList =
    h.fields.toList.map fun f => if f = e then (e.1, [value]) else f
  remove : (h.remove name).fields.toList = h.fields.toList.filter (· ≠ e)

variable {h : Headers} {e f : String × List String} {calls : List Call}

/-- Entries with one name are one entry. -/
theorem eq_of_mem_toList (he : e ∈ h.fields.toList) (hf : f ∈ h.fields.toList) (hn : f.1 = e.1) :
    f = e :=
  List.inj_on_of_nodup_map h.fields.distinct hf he hn

theorem addresses_of_canonicalName (he : e ∈ h.fields.toList) (hn : canonicalName e.1 = e.1) :
    h.Addresses e.1 e := by
  have hsame : ∀ f ∈ h.fields.toList, f.1 = e.1 ↔ f = e :=
    fun f hf => ⟨eq_of_mem_toList he hf, fun h => h ▸ rfl⟩
  have hall : h.getAll e.1 = e.2 := by
    rw [Headers.getAll, hn, Fields.getAll_of_mem_toList he]
  refine ⟨hall, ?_, ?_, ?_⟩
  · rw [Headers.contains, hall]
    simpa using h.fields.valued e he
  · intro value
    have hkey : e.1 ∈ h.fields.entries.keys := List.mem_map_of_mem he
    have hset : (h.set e.1 value).fields.toList =
        h.fields.toList.map fun f => if f.1 = e.1 then (e.1, [value]) else f := by
      rw [Headers.set, hn]
      exact OrderedMap.entries_insert_of_mem h.fields.distinct hkey
    rw [hset]
    exact List.map_congr_left fun f hf => by simp only [hsame f hf]
  · have hremove : (h.remove e.1).fields.toList = h.fields.toList.filter (·.1 ≠ e.1) := by
      rw [Headers.remove, hn]
      rfl
    rw [hremove]
    exact List.filter_congr fun f hf => by simp only [ne_eq, hsame f hf]

/-- **A listed name addresses its entry only if it is its own canonical form.** -/
theorem addresses_iff (he : e ∈ h.fields.toList) :
    h.Addresses e.1 e ↔ canonicalName e.1 = e.1 := by
  refine ⟨fun ha => ?_, addresses_of_canonicalName he⟩
  by_contra hn
  -- what is removed is another header, and the entry stays
  have hstays : e ∈ (h.remove e.1).fields.toList :=
    List.mem_filter.2 ⟨he, decide_eq_true (Ne.symm hn)⟩
  rw [ha.remove] at hstays
  simpa using (List.mem_filter.1 hstays).2

/-- The name that a call is about. -/
def Call.name : Call → String
  | .add name _ | .set name _ | .remove name => name

theorem Call.eq_of_value? (c : Call) {header value : String} (h : c.value? header = some value) :
    header = canonicalName c.name := by
  cases c with
  | add name v => exact (Option.ite_none_right_eq_some.1 h).1
  | set name v => exact (Option.ite_none_right_eq_some.1 h).1
  | remove name => cases h

/-- A header that has values is that of a call. -/
theorem exists_call_of_given {header : String} (h : given calls header ≠ []) :
    ∃ c ∈ calls, header = canonicalName c.name := by
  induction calls using List.reverseRecOn with
  | nil => exact absurd rfl h
  | append_singleton calls c ih =>
    cases hv : c.value? header with
    | some value => exact ⟨c, by simp, c.eq_of_value? hv⟩
    | none =>
      have hold : given calls header ≠ [] := by
        intro hnil
        rw [given_concat, hnil, hv, ite_self] at h
        exact h rfl
      obtain ⟨d, hd, hname⟩ := ih hold
      exact ⟨d, List.mem_append_left _ hd, hname⟩

end Headers

/-- **A canonical name may not be canonical.** The canonical form of a name is its own exactly if
the name is steady, as all ASCII names are; a canonical form is steady, so written a third time a
name changes no more. Take headers after any calls that add, set and remove. Each name that is
listed is the canonical form of a name in one of the calls, and used as a name itself it addresses
exactly the entry for which it was listed if that name is steady, and does not if it is not. -/
theorem canonical_names (calls : List Headers.Call) :
    (∀ name, (Headers.canonicalName (Headers.canonicalName name) = Headers.canonicalName name ↔
        Headers.IsSteady name) ∧
      Headers.IsSteady (Headers.canonicalName name) ∧
      ((∀ c ∈ name.toList, c.toNat < 0x80) → Headers.IsSteady name)) ∧
    ∀ e ∈ (Headers.after calls).fields.toList, ∃ c ∈ calls, e.1 = Headers.canonicalName c.name ∧
      ((Headers.after calls).Addresses e.1 e ↔ Headers.IsSteady c.name) := by
  refine ⟨fun name => ⟨?_, ?_, ?_⟩, fun e he => ?_⟩
  · exact Headers.canonicalName_eq_self_iff name
  · exact Headers.isSteady_canonicalName name
  · exact Headers.isSteady_of_ascii
  · have hgiven : Headers.given calls e.1 ≠ [] :=
      ((Headers.records_after calls).names.mem_iff e.1).1 (List.mem_map_of_mem he)
    obtain ⟨c, hc, hname⟩ := Headers.exists_call_of_given hgiven
    refine ⟨c, hc, hname, (Headers.addresses_iff he).trans ?_⟩
    rw [hname]
    exact Headers.canonicalName_eq_self_iff c.name

/-- The second of two words begins with a sharp s; the other name is written with it inside. -/
theorem canonical_names_of_sharp_s :
    let calls : List Headers.Call := [.add "x-ßa" "1", .add "groß" "2"]
    let es := (Headers.after calls).fields.toList
    es = [("X-SSa", ["1"]), ("Groß", ["2"])] ∧
    (∃ c ∈ calls, "X-SSa" = Headers.canonicalName c.name ∧
      ((Headers.after calls).Addresses "X-SSa" ("X-SSa", ["1"]) ↔ Headers.IsSteady c.name)) ∧
    (∃ c ∈ calls, "Groß" = Headers.canonicalName c.name ∧
      ((Headers.after calls).Addresses "Groß" ("Groß", ["2"]) ↔ Headers.IsSteady c.name)) ∧
    ¬ Headers.IsSteady "x-ßa" ∧ Headers.IsSteady "groß" ∧ Headers.IsSteady "x-a" := by
  intro calls es
  have hes : es = [("X-SSa", ["1"]), ("Groß", ["2"])] := by decide +kernel
  obtain ⟨hnames, hentries⟩ := canonical_names calls
  have hascii : ∀ c ∈ "x-a".toList, c.toNat < 0x80 := by simp
  refine ⟨hes, hentries ("X-SSa", ["1"]) ?_, hentries ("Groß", ["2"]) ?_, by decide +kernel,
    by decide +kernel, (hnames "x-a").2.2 hascii⟩
  · change _ ∈ es
    rw [hes]
    exact List.mem_cons_self
  · change _ ∈ es
    rw [hes]
    exact List.mem_cons_of_mem _ List.mem_cons_self

/-- **The canonical form of a name is not always its own**: the two capitals of a sharp s become
one, and the header that is listed under them is not found under them. -/
theorem canonicalName_of_sharp_s :
    ¬ (∀ name, Headers.canonicalName (Headers.canonicalName name) = Headers.canonicalName name) ∧
    Headers.canonicalName "ß" = "SS" ∧ Headers.canonicalName "SS" = "Ss" ∧
    (Headers.after [.add "ß" "1"]).fields.toList = [("SS", ["1"])] ∧
    (Headers.after [.add "ß" "1"]).getAll "SS" = [] ∧
    ¬ (Headers.after [.add "ß" "1"]).Addresses "SS" ("SS", ["1"]) := by
  have hsharp : Headers.canonicalName "ß" = "SS" := by decide +kernel
  have hagain : Headers.canonicalName "SS" = "Ss" := by decide +kernel
  have hnone : (Headers.after [.add "ß" "1"]).getAll "SS" = [] := by decide +kernel
  refine ⟨fun h => ?_, hsharp, hagain, by decide +kernel, hnone, fun h => ?_⟩
  · have hfixed := h "ß"
    rw [hsharp, hagain] at hfixed
    exact absurd hfixed (by decide)
  · have hvalues := h.getAll
    rw [hnone] at hvalues
    cases hvalues

end WebScript
