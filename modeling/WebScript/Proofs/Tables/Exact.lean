import WebScript.Proofs.FormBodies
import WebScript.Proofs.Tables.Growth

/-!
# What a table is read as, exactly

A table is read as fields entry by entry. An entry is a scalar or a sequence of scalars, which are
read by number in whatever order their keys came in. Anything else is refused, with the reason why.

* `Value.Lists`: the scalars of an entry.
* `Table.Refuses`, `Table.toFields_eq_error_iff`: **a failure is that of the first entry refused**.
* `Table.Reads`, `Table.reads_of_toFields`: the fields that are read.
* `table_reading`: **a table is read exactly if all its entries list scalars**, as the fields that
  have these in order; else it is ambiguous.
-/

namespace WebScript

open Result

theorem Key.name_display {k : Key} (h : k.isName = true) : .name k.display = k := by
  cases k with
  | index i => cases h
  | name s => rfl

namespace Fields

variable {f : Fields} {name : String} {ss : List String} {ps : List (String × List String)}

/-- The values of a name are those that stand with it, be they none. -/
theorem getAll_of_mem (hf : f.toList = ps.filter (·.2 ≠ [])) (hn : (ps.map (·.1)).Nodup)
    (hp : (name, ss) ∈ ps) : f.getAll name = ss := by
  rw [getAll]
  cases hg : f.entries.get? name with
  | none =>
    -- a name is missing only if no value stands with it
    rw [Option.getD_none]
    by_contra hss
    have hmem : (name, ss) ∈ f.toList := by
      rw [hf, List.mem_filter]
      exact ⟨hp, by simpa using Ne.symm hss⟩
    rw [(OrderedMap.get?_eq_some_iff f.distinct).2 hmem] at hg
    cases hg
  | some ts =>
    have hmem : (name, ts) ∈ f.toList := (OrderedMap.get?_eq_some_iff f.distinct).1 hg
    rw [hf, List.mem_filter] at hmem
    cases List.inj_on_of_nodup_map hn hmem.1 hp rfl
    rfl

end Fields

/-! ## Entries -/

/-- **The scalars of an entry**: a scalar alone, or those of a sequence. The empty table has
none. -/
inductive Value.Lists : Value → List Value → Prop
  | scalar {v : Value} : v.IsScalar → Lists v [v]
  | sequence {t : Table} {vs : List Value} :
    t.IsSequence vs → (∀ v ∈ vs, v.IsScalar) → Lists (.table t) vs

/-- The empty table. -/
def Value.isEmptyTable : Value → Bool
  | .table t => t.entries.isEmpty
  | _ => false

namespace Value

variable {v : Value} {vs : List Value}

/-- What an entry is as values of a field are the texts of its scalars. -/
theorem Lists.texts_eq (h : v.Lists vs) : v.texts = vs.map display := by
  rcases h with hv | ⟨hs, -⟩
  · cases hv <;> rfl
  · rw [texts, OrderedMap.sequence?_eq_some_iff.2 hs, Option.getD_some]

/-- Only the empty table lists nothing. -/
theorem Lists.eq_nil_iff (h : v.Lists vs) : vs = [] ↔ v.isEmptyTable = true := by
  rcases h with hv | @⟨t, _, hs, -⟩
  · cases hv <;> exact iff_of_false (List.cons_ne_nil _ _) Bool.false_ne_true
  · have hlen : t.entries.length = vs.length := hs.size_eq
    rw [isEmptyTable, List.isEmpty_iff, ← List.length_eq_zero_iff, ← List.length_eq_zero_iff, hlen]

end Value

namespace Table

variable {name : String} {v : Value} {w : TableFault} {f : Fields} {t : Table} {e : Key × Value}

theorem isFormEntry_iff (e : Key × Value) :
    IsFormEntry e ↔ e.1.isName = true ∧ ∃ vs, e.2.Lists vs := by
  constructor
  · rintro (hv | ⟨hs, hvs⟩)
    · exact ⟨rfl, _, .scalar hv⟩
    · exact ⟨rfl, _, .sequence (OrderedMap.sequence?_eq_some_iff.1 hs) hvs⟩
  · obtain ⟨k, v⟩ := e
    rintro ⟨hk, vs, hv⟩
    cases k with
    | index i => cases hk
    | name name =>
      rcases hv with hv | ⟨hs, hvs⟩
      · exact .scalar hv
      · exact .sequence (OrderedMap.sequence?_eq_some_iff.2 hs) hvs

/-- **Why an entry is refused**: its key is a number; it is a table, but not a sequence; it, or the
first item of it that is no scalar, is nothing that has a text. -/
inductive Refuses : Key × Value → TableFault → Prop
  | index {i : Int} {v : Value} : Refuses (.index i, v) (.indexKey (.index i))
  | shape {name : String} {t : Table} :
    (∀ vs, ¬ t.IsSequence vs) → Refuses (.name name, .table t) (.notScalars name)
  | value {name : String} {v : Value} :
    (∀ t, v ≠ .table t) → ¬ v.IsScalar → Refuses (.name name, v) (.notScalar name v.typeName)
  | item {name : String} {t : Table} {us vs : List Value} {v : Value} :
    t.IsSequence (us ++ v :: vs) → (∀ u ∈ us, u.IsScalar) → ¬ v.IsScalar →
      Refuses (.name name, .table t) (.notScalar name v.typeName)

theorem scalarText_eq_error_iff :
    scalarText name v = .error w ↔ ¬ v.IsScalar ∧ w = .notScalar name v.typeName := by
  rw [← isOk_scalarText_iff name v]
  cases v <;> simp [scalarText, eq_comm]

/-- A table is refused if it is not a sequence, or else for the first item that is no scalar. -/
theorem entryTexts_table_eq_error_iff :
    entryTexts name (.table t) = .error w ↔ Refuses (.name name, .table t) w := by
  rw [entryTexts]
  cases hs : t.sequence? with
  | none =>
    have hnot : ∀ vs, ¬ t.IsSequence vs := OrderedMap.sequence?_eq_none_iff.1 hs
    constructor
    · intro h
      cases h
      exact .shape hnot
    · intro h
      cases h with
      | shape _ => rfl
      | value htable _ => exact absurd rfl (htable t)
      | item hitems _ _ => exact absurd hitems (hnot _)
  | some vs =>
    have hvs : t.IsSequence vs := OrderedMap.sequence?_eq_some_iff.1 hs
    dsimp only
    rw [mapM_eq_error_iff]
    constructor
    · rintro ⟨us, v, rest, rfl, hus, hv⟩
      obtain ⟨hscalar, rfl⟩ := scalarText_eq_error_iff.1 hv
      have hscalars : ∀ u ∈ us, u.IsScalar := (isOk_mapM_scalarText_iff name us).1 hus
      exact .item hvs hscalars hscalar
    · intro h
      cases h with
      | shape hnot => exact absurd hvs (hnot vs)
      | value htable _ => exact absurd rfl (htable t)
      | @item _ _ us rest v hitems hus hv =>
        have hsplit : vs = us ++ v :: rest := by
          rw [OrderedMap.sequence?_eq_some_iff.2 hitems] at hs
          exact (Option.some.inj hs).symm
        have hscalars : (us.mapM (scalarText name)).isOk := (isOk_mapM_scalarText_iff name us).2 hus
        exact ⟨us, v, rest, hsplit, hscalars, scalarText_eq_error_iff.2 ⟨hv, rfl⟩⟩

theorem entryTexts_eq_error_iff :
    entryTexts name v = .error w ↔ Refuses (.name name, v) w := by
  by_cases htable : ∃ t, v = .table t
  · obtain ⟨t, rfl⟩ := htable
    exact entryTexts_table_eq_error_iff
  · have htext : entryTexts name v = (fun s => [s]) <$> scalarText name v := by
      cases v with
      | table t => exact absurd ⟨t, rfl⟩ htable
      | _ => rfl
    rw [htext, map_eq_error_iff, scalarText_eq_error_iff]
    constructor
    · rintro ⟨hv, rfl⟩
      exact .value (fun t ht => htable ⟨t, ht⟩) hv
    · intro h
      cases h with
      | shape _ => exact absurd ⟨_, rfl⟩ htable
      | value _ hv => exact ⟨hv, rfl⟩
      | item _ _ _ => exact absurd ⟨_, rfl⟩ htable

theorem addEntry_eq_error_iff : addEntry f e = .error w ↔ Refuses e w := by
  obtain ⟨k, v⟩ := e
  cases k with
  | index i =>
    constructor
    · intro h
      cases h
      exact .index
    · rintro ⟨⟩
      rfl
  | name name =>
    rw [addEntry]
    dsimp only
    rw [map_eq_error_iff, entryTexts_eq_error_iff]

/-- **A failure is that of the first entry that is refused.** -/
theorem toFields_eq_error_iff :
    t.toFields = .error w ↔ ∃ before e after, t.entries = before ++ e :: after ∧
      (∀ d ∈ before, IsFormEntry d) ∧ Refuses e w := by
  -- the entries before it make a table of their own, which is read
  have hread (es : List (Key × Value)) :
      (∃ g, es.foldlM addEntry .empty = .ok g) ↔ ∀ d ∈ es, IsFormEntry d := by
    rw [← isOk_iff]
    exact isOk_toFields_iff ⟨es⟩
  rw [toFields, foldlM_eq_error_iff]
  refine exists_congr fun before => exists_congr fun e => exists_congr fun after => ?_
  rw [← hread before]
  constructor
  · rintro ⟨g, hsplit, hbefore, he⟩
    exact ⟨hsplit, ⟨g, hbefore⟩, addEntry_eq_error_iff.1 he⟩
  · rintro ⟨hsplit, ⟨g, hbefore⟩, he⟩
    exact ⟨g, hsplit, hbefore, addEntry_eq_error_iff.2 he⟩

/-! ## Fields -/

/-- **The fields that a table is read as**: the names of its entries in order, but for those of
empty tables, each with the texts of the scalars of its entry. -/
structure Reads (t : Table) (f : Fields) : Prop where
  keys : f.entries.keys.map .name = (t.entries.filter (! ·.2.isEmptyTable)).map (·.1)
  values : ∀ name v, (.name name, v) ∈ t.entries →
    ∃ vs, v.Lists vs ∧ f.getAll name = vs.map Value.display

theorem reads_of_toFields (hd : t.keys.Nodup) (h : t.toFields = .ok f) : t.Reads f := by
  have hlists : ∀ e ∈ t.entries, e.1.isName = true ∧ ∃ vs, e.2.Lists vs := fun e he =>
    (isFormEntry_iff e).1 ((isOk_toFields_iff t).1 (isOk_iff.2 ⟨f, h⟩) e he)
  obtain ⟨hnames, hfields⟩ := toList_toFields hd h
  constructor
  -- an entry is left out for having no texts, which are as many as its scalars
  · have hsome : ∀ e ∈ t.entries, decide (e.2.texts ≠ []) = ! e.2.isEmptyTable := by
      intro e he
      obtain ⟨-, vs, hvs⟩ := hlists e he
      rw [hvs.texts_eq, Bool.eq_iff_iff, decide_eq_true_iff, ne_eq, List.map_eq_nil_iff,
        hvs.eq_nil_iff, Bool.not_eq_true, Bool.not_eq_true']
    calc f.entries.keys.map Key.name
      _ = (f.toList.map (·.1)).map Key.name := rfl
      _ = (t.entries.filter fun e => e.2.texts ≠ []).map fun e => .name e.1.display := by
        rw [hfields, List.filter_map, List.map_map, List.map_map]
        rfl
      _ = (t.entries.filter (! ·.2.isEmptyTable)).map fun e => .name e.1.display := by
        rw [List.filter_congr hsome]
      _ = (t.entries.filter (! ·.2.isEmptyTable)).map (·.1) :=
        List.map_congr_left fun e he => Key.name_display (hlists e (List.mem_filter.1 he).1).1
  · intro name v hv
    obtain ⟨-, vs, hvs⟩ := hlists _ hv
    refine ⟨vs, hvs, ?_⟩
    rw [← hvs.texts_eq]
    refine Fields.getAll_of_mem hfields (by rwa [List.map_map]) ?_
    exact List.mem_map.2 ⟨_, hv, rfl⟩

end Table

/-- **What a table is read as, exactly.** A table is read as fields exactly if every key is a name
and every entry a scalar, or a table that is empty or a sequence of scalars, whatever order its keys
came in. The fields have the names in order, without those of empty tables, each with the texts of
the scalars by number. Otherwise the reason is that of the first entry refused, and a request with
the table as its form fails as it does for any ambiguous table. -/
theorem table_reading {t : Table} (ht : t.Reachable) :
    (t.toFields.isOk ↔ ∀ e ∈ t.entries, e.1.isName = true ∧ ∃ vs, e.2.Lists vs) ∧
    (∀ f, t.toFields = .ok f → t.Reads f) ∧
    ∀ w, t.toFields = .error w →
      (∃ before e after, t.entries = before ++ e :: after ∧
        (∀ d ∈ before, d.1.isName = true ∧ ∃ vs, d.2.Lists vs) ∧ Table.Refuses e w) ∧
      ∀ url, OutboundRequest.ofForm url (some t) = .error (.ambiguousTable w.message) := by
  refine ⟨?_, fun f hf => Table.reads_of_toFields ht.nodup_keys hf, fun w hw => ⟨?_, fun url => ?_⟩⟩
  · rw [Table.isOk_toFields_iff, Table.IsForm]
    exact forall₂_congr fun e _ => Table.isFormEntry_iff e
  · obtain ⟨before, e, after, hsplit, hbefore, he⟩ := Table.toFields_eq_error_iff.1 hw
    exact ⟨before, e, after, hsplit, fun d hd => (Table.isFormEntry_iff d).1 (hbefore d hd), he⟩
  · rw [OutboundRequest.ofForm, Option.getD_some, hw]
    rfl

/-- The items of a sequence are read by number, though the second came first, an empty table is left
out, and a number is the text that it is shown as. -/
theorem table_reading_of_out_of_order :
    let items : Table := .set (.set .empty (.index 2) (.bool true)) (.index 1) (.string "x")
    let t : Table := .set (.set (.set (.set .empty (.name "a") (.table items))
      (.name "b") (.table .empty)) (.name "c") (.string "y")) (.name "d") (.number 1.5)
    t.Reachable ∧ ∃ f, t.toFields = .ok f ∧ f.entries.keys = ["a", "c", "d"] ∧
      f.getAll "a" = ["x", "true"] ∧ f.getAll "c" = ["y"] ∧ f.getAll "d" = ["1.5"] := by
  intro items t
  have ht : t.Reachable := .set _ _ (.set _ _ (.set _ _ (.set _ _ .empty)))
  have hentries : t.entries =
      [(.name "a", .table items), (.name "b", .table .empty), (.name "c", .string "y"),
        (.name "d", .number 1.5)] := rfl
  have hitems : (Value.table items).Lists [.string "x", .bool true] :=
    .sequence ⟨by decide, rfl⟩
      (List.forall_mem_cons.2 ⟨.string "x", List.forall_mem_singleton.2 (.bool true)⟩)
  have hempty : (Value.table .empty).Lists [] := .sequence ⟨.nil, rfl⟩ nofun
  have hy : (Value.string "y").Lists [.string "y"] := .scalar (.string "y")
  have hnumber : (Value.number 1.5).Lists [.number 1.5] := .scalar (.number 1.5)
  have hall : ∀ e ∈ t.entries, e.1.isName = true ∧ ∃ vs, e.2.Lists vs := by
    rw [hentries]
    intro e he
    simp only [List.mem_cons, List.not_mem_nil, or_false] at he
    rcases he with rfl | rfl | rfl | rfl
    · exact ⟨rfl, _, hitems⟩
    · exact ⟨rfl, _, hempty⟩
    · exact ⟨rfl, _, hy⟩
    · exact ⟨rfl, _, hnumber⟩
  obtain ⟨hok, hfields, -⟩ := table_reading ht
  obtain ⟨f, hf⟩ := isOk_iff.1 (hok.2 hall)
  obtain ⟨hkeys, hvalues⟩ := hfields f hf
  obtain ⟨as, has, ha⟩ := hvalues "a" (.table items) (by simp [hentries])
  obtain ⟨cs, hcs, hc⟩ := hvalues "c" (.string "y") (by simp [hentries])
  obtain ⟨ds, hds, hd⟩ := hvalues "d" (.number 1.5) (by simp [hentries])
  refine ⟨ht, f, hf, ?_, ?_, ?_, ?_⟩
  · have hname : Function.Injective Key.name := fun _ _ h => Key.name.inj h
    exact List.map_injective_iff.2 hname hkeys
  · rw [ha, ← has.texts_eq]
    rfl
  · rw [hc, ← hcs.texts_eq]
    rfl
  · rw [hd, ← hds.texts_eq]
    decide +kernel

end WebScript
