import Mathlib.Data.List.Induction
import WebScript.Proofs.Fields
import WebScript.Proofs.Tables.Sequence
import WebScript.Value.Conversion

/-!
# Fields as tables and back

* `Table.ofSequence_eq_foldl_push`: a sequence is what pushing its values one by one gives.
* `Table.sequence?_ofSequence`: **a sequence is read in the order in which it was pushed**.
* `Table.entries_ofFields`: the table of some fields, entry by entry.
* `fields_table_round_trip`: **fields are read back from their table**, in which one value stands
  as a string and several as a sequence.
-/

namespace WebScript

namespace Table

/-! ## Sequences -/

variable {vs : List Value} {v : Value}

theorem numbered_append (n : Nat) (vs : List Value) (v : Value) :
    numbered n (vs ++ [v]) = numbered n vs ++ [(.index ((n + vs.length : Nat) + 1), v)] := by
  induction vs generalizing n with
  | nil => rfl
  | cons u vs ih =>
    rw [List.cons_append, numbered, numbered, ih, List.cons_append, List.length_cons]
    have hn : n + 1 + vs.length = n + (vs.length + 1) := by omega
    rw [hn]

theorem find?_numbered (n i : Nat) (vs : List Value) :
    (numbered n vs).find? (·.1 = .index ((n + i : Nat) + 1)) =
      vs[i]?.map fun v => (.index ((n + i : Nat) + 1), v) := by
  induction vs generalizing n i with
  | nil => rfl
  | cons v vs ih =>
    cases i with
    | zero => simp [numbered]
    | succ i =>
      have hne : ¬ (Key.index (n + 1) = .index ((n + (i + 1) : Nat) + 1)) := by
        intro he
        have hi := Key.index.inj he
        omega
      have hn : n + (i + 1) = n + 1 + i := by omega
      rw [numbered, List.find?_cons_of_neg (by simpa using hne), hn, ih, List.getElem?_cons_succ]

/-- The values of a sequence stand under `1, 2, …`. -/
theorem get?_numbered (vs : List Value) (i : Nat) :
    (⟨numbered 0 vs⟩ : Table).get? (.index (i + 1)) = vs[i]? := by
  have hf := find?_numbered 0 i vs
  rw [Nat.zero_add] at hf
  rw [OrderedMap.get?, hf, Option.map_map]
  cases vs[i]? <;> rfl

/-- The keys of a sequence are `1, 2, …`. -/
theorem keys_numbered (vs : List Value) :
    (⟨numbered 0 vs⟩ : Table).keys = Key.numbers vs.length := by
  induction vs using List.reverseRecOn with
  | nil => rfl
  | append_singleton vs v ih =>
    have hkeys : (⟨numbered 0 (vs ++ [v])⟩ : Table).keys =
        (⟨numbered 0 vs⟩ : Table).keys ++ [.index (vs.length + 1)] := by
      rw [OrderedMap.keys, numbered_append, List.map_append, Nat.zero_add]
      rfl
    rw [hkeys, ih, List.length_append, List.length_singleton, Key.numbers_succ]

theorem size_numbered (vs : List Value) : (⟨numbered 0 vs⟩ : Table).size = vs.length := by
  rw [← OrderedMap.length_keys, keys_numbered, Key.length_numbers]

theorem keys_numbered_perm (vs : List Value) :
    (⟨numbered 0 vs⟩ : Table).keys.Perm (Key.numbers (⟨numbered 0 vs⟩ : Table).size) := by
  rw [keys_numbered, size_numbered]

theorem sequenceLength_numbered (vs : List Value) :
    (⟨numbered 0 vs⟩ : Table).sequenceLength = vs.length := by
  rw [(OrderedMap.sequenceLength_eq_size_iff _).2 (keys_numbered_perm vs), size_numbered]

/-- A value is pushed behind those of a sequence; nil is not. -/
theorem push_numbered (vs : List Value) (v : Value) :
    push ⟨numbered 0 vs⟩ v = ⟨numbered 0 (vs ++ if v.isNil then [] else [v])⟩ := by
  rw [push_eq, sequenceLength_numbered]
  split
  · rw [List.append_nil, List.append_nil]
  · rw [numbered_append, Nat.zero_add]

/-- **A sequence is what pushing its values one by one gives.** -/
theorem ofSequence_eq_foldl_push (vs : List Value) : ofSequence vs = vs.foldl push .empty := by
  have hfold (us : List Value) :
      vs.foldl push ⟨numbered 0 us⟩ = ⟨numbered 0 (us ++ vs.filter (! ·.isNil))⟩ := by
    induction vs generalizing us with
    | nil => rw [List.filter_nil, List.append_nil]; rfl
    | cons v vs ih =>
      rw [List.foldl_cons, push_numbered, ih, List.append_assoc]
      cases v <;> rfl
  exact (hfold []).symm

theorem shape_numbered (hne : vs ≠ []) : (⟨numbered 0 vs⟩ : Table).shape = .sequence := by
  refine OrderedMap.shape_eq_sequence_iff.2 ⟨?_, keys_numbered_perm vs⟩
  obtain ⟨v, vs, rfl⟩ := List.exists_cons_of_ne_nil hne
  exact List.cons_ne_nil _ _

theorem isSequence_numbered (vs : List Value) : (⟨numbered 0 vs⟩ : Table).IsSequence vs where
  keys := by rw [keys_numbered]
  values := by
    refine List.ext_getElem (by simp [Key.length_numbers]) fun i _ _ => ?_
    simp [Key.numbers, get?_numbered]

theorem sequence?_numbered (vs : List Value) : (⟨numbered 0 vs⟩ : Table).sequence? = some vs :=
  OrderedMap.sequence?_eq_some_iff.2 (isSequence_numbered vs)

/-- **A sequence is read in the order in which it was pushed**, without the nils. -/
theorem sequence?_ofSequence (vs : List Value) :
    (ofSequence vs).sequence? = some (vs.filter (! ·.isNil)) :=
  sequence?_numbered _

/-! ## Fields -/

theorem filter_strings (ss : List String) :
    (ss.map Value.string).filter (! ·.isNil) = ss.map .string := by
  rw [List.filter_eq_self]
  intro v hv
  obtain ⟨s, -, rfl⟩ := List.mem_map.1 hv
  rfl

theorem sequence?_ofStrings (ss : List String) :
    (ofStrings ss).sequence? = some (ss.map .string) := by
  rw [ofStrings, sequence?_ofSequence, filter_strings]

theorem ofValues_of_two {ss : List String} (h : 2 ≤ ss.length) :
    ofValues ss = .table (ofStrings ss) := by
  match ss with
  | _ :: _ :: _ => rfl

theorem isNil_ofValues (ss : List String) : (ofValues ss).isNil = false := by
  unfold ofValues
  split <;> rfl

/-- The table of some fields, entry by entry. -/
theorem entries_ofFields (f : Fields) :
    (ofFields f).entries = f.toList.map fun e => (.name e.1, ofValues e.2) := by
  have hset (t : Table) (e : String × List String) :
      t.set (.name e.1) (ofValues e.2) = t.insert (.name e.1) (ofValues e.2) := by
    rw [set, isNil_ofValues, if_neg Bool.false_ne_true]
  have hdistinct : ((f.toList.map fun e => (Key.name e.1, ofValues e.2)).map (·.1)).Nodup := by
    have hinj : Function.Injective Key.name := fun _ _ h => Key.name.inj h
    have hnames : (f.entries.keys.map Key.name).Nodup := f.distinct.map hinj
    rw [OrderedMap.keys, List.map_map] at hnames
    rw [List.map_map]
    exact hnames
  have hfold := OrderedMap.entries_foldl_insert (.empty : Table) hdistinct
  rw [List.foldl_map] at hfold
  simp only [ofFields, hset]
  exact hfold

/-- What the table of some fields has under a name. -/
theorem get_ofFields (f : Fields) (name : String) :
    (ofFields f).get (.name name) =
      if f.getAll name = [] then .nil else ofValues (f.getAll name) := by
  have hfind : (ofFields f).entries.find? (·.1 = .name name) =
      (f.toList.find? (·.1 = name)).map fun e => (.name e.1, ofValues e.2) := by
    rw [entries_ofFields, List.find?_map]
    congr 2
    funext e
    simp
  rw [get, OrderedMap.get?, hfind, Fields.getAll, OrderedMap.get?]
  cases he : f.toList.find? (·.1 = name) with
  | none =>
    have he : f.entries.entries.find? (·.1 = name) = none := he
    rw [he]
    rfl
  | some e =>
    have he : f.entries.entries.find? (·.1 = name) = some e := he
    have hne : e.2 ≠ [] := f.valued e (List.mem_of_find?_eq_some he)
    rw [he]
    exact (if_neg hne).symm

theorem mapM_scalarText (name : String) (ss : List String) :
    (ss.map Value.string).mapM (scalarText name) = .ok ss := by
  have htext : scalarText name ∘ Value.string = fun s => pure s := rfl
  rw [List.mapM_map, htext, List.mapM_pure, List.map_id']
  rfl

/-- The values of a name are read back. -/
theorem entryTexts_ofValues (name : String) (ss : List String) :
    entryTexts name (ofValues ss) = .ok ss := by
  have htable : entryTexts name (.table (ofStrings ss)) = .ok ss := by
    rw [entryTexts, sequence?_ofStrings]
    exact mapM_scalarText name ss
  match ss with
  | [] => exact htable
  | [s] => rfl
  | _ :: _ :: _ => exact htable

/-- **Fields are read back from their table.** -/
theorem toFields_ofFields (f : Fields) : (ofFields f).toFields = .ok f := by
  have hadd (g : Fields) (e : String × List String) :
      addEntry g (.name e.1, ofValues e.2) = .ok (e.2.foldl (·.add e.1 ·) g) := by
    rw [addEntry]
    dsimp only
    rw [entryTexts_ofValues]
    rfl
  have hfold (es : List (String × List String)) (g : Fields) :
      (es.map fun e => (Key.name e.1, ofValues e.2)).foldlM addEntry g =
        .ok (es.foldl (fun g e => e.2.foldl (·.add e.1 ·) g) g) := by
    induction es generalizing g with
    | nil => rfl
    | cons e es ih =>
      rw [List.map_cons, List.foldlM_cons, hadd]
      exact ih _
  rw [toFields, entries_ofFields, hfold, f.foldl_toList]

/-- A table shows fields: it has their names in order, one value as a string, and several as the
sequence that pushing them one by one gives. -/
structure Shows (t : Table) (f : Fields) : Prop where
  keys : t.keys = f.entries.keys.map .name
  one : ∀ name s, t.get (.name name) = .string s ↔ f.getAll name = [s]
  several : ∀ name, 2 ≤ (f.getAll name).length →
    ∃ inner, t.get (.name name) = .table inner ∧
      inner = ((f.getAll name).map .string).foldl push .empty ∧ inner.shape = .sequence ∧
      inner.sequence? = some ((f.getAll name).map .string)

theorem shows_ofFields (f : Fields) : (ofFields f).Shows f where
  keys := by
    rw [OrderedMap.keys, entries_ofFields, OrderedMap.keys, List.map_map, List.map_map]
    rfl
  one name s := by
    rw [get_ofFields]
    match f.getAll name with
    | [] => simp
    | [v] => simp [ofValues]
    | _ :: _ :: _ => simp [ofValues]
  several name h := by
    have hne : f.getAll name ≠ [] := by
      intro he
      rw [he] at h
      exact absurd h (by decide)
    refine ⟨ofStrings (f.getAll name), ?_, ofSequence_eq_foldl_push _, ?_, sequence?_ofStrings _⟩
    · rw [get_ofFields, if_neg hne, ofValues_of_two h]
    · refine shape_numbered ?_
      rw [filter_strings]
      simpa using hne

end Table

/-- **Fields and headers are read back from their tables**, with the order of the names and that
of the values of each name. In the table a name has a string exactly if it has one value, and
otherwise the sequence of its values in the order in which they came. -/
theorem fields_table_round_trip :
    (∀ f : Fields, (Table.ofFields f).toFields = .ok f ∧ (Table.ofFields f).Shows f) ∧
    ∀ h : Headers, (Table.ofHeaders h).toFields = .ok h.fields ∧
      (Table.ofHeaders h).Shows h.fields :=
  ⟨fun f => ⟨Table.toFields_ofFields f, Table.shows_ofFields f⟩,
    fun h => ⟨Table.toFields_ofFields h.fields, Table.shows_ofFields h.fields⟩⟩

end WebScript
