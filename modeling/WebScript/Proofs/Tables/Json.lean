import WebScript.Proofs.Results
import WebScript.Proofs.Tables.Growth

/-!
# Values as JSON, exactly

Values are converted from the leaves up. A table is converted by what its keys make of it, and fails
with an entry that does, so a value has a reading exactly if none of its nodes refuses it.

* `Value.HasNode`, `Value.Refuses`: the nodes of a value, and why a node has no reading.
* `Value.isOk_toJson_iff`, `Value.exists_refuses`: **a value is converted exactly if no node
  refuses**, and a failure is that of some node.
* `Value.ShownAs`, `Value.shownAs_of_toJson`: **what the JSON of a value is**, at any depth.
* `json_conversion`: the same for values of tables made by assignments and pushes, and for a table
  as the members of an object.
-/

namespace WebScript

open Result

namespace Value

/-! ## Nodes -/

section

variable {P : Value → Prop}

mutual

/-- What holds of all values that are no tables, and of a table if it holds of its entries, holds of
all values. -/
@[elab_as_elim]
theorem tree_induction (leaf : ∀ v, (∀ t, v ≠ .table t) → P v)
    (table : ∀ t : Table, (∀ e ∈ t.entries, P e.2) → P (.table t)) : ∀ v, P v
  | .nil => leaf _ nofun
  | .bool _ => leaf _ nofun
  | .number _ => leaf _ nofun
  | .string _ => leaf _ nofun
  | .handle _ => leaf _ nofun
  | .table ⟨es⟩ => table ⟨es⟩ (entries_induction leaf table es)

theorem entries_induction (leaf : ∀ v, (∀ t, v ≠ .table t) → P v)
    (table : ∀ t : Table, (∀ e ∈ t.entries, P e.2) → P (.table t)) :
    ∀ (es : List (Key × Value)), ∀ e ∈ es, P e.2
  -- entries lie below the table only through their list, so that is gone through alongside
  | [] => List.forall_mem_nil _
  | (_, v) :: es => List.forall_mem_cons.2
    ⟨tree_induction leaf table v, entries_induction leaf table es⟩

end

end

/-- **The nodes of a value**: itself, and those of the entries of a table. -/
inductive HasNode : Value → Value → Prop
  | self (v : Value) : HasNode v v
  | entry {t : Table} {e : Key × Value} {u : Value} :
    e ∈ t.entries → HasNode e.2 u → HasNode (.table t) u

/-- **Why a node has no reading**: it is a handle, a number that is not finite, or a table of names
and numbers or with gaps. -/
inductive Refuses : Value → TableFault → Prop
  | handle (h : Handle) : Refuses (.handle h) (.handle h.kind)
  | number {x : Float} : Number.isFinite x = false → Refuses (.number x) .nonFinite
  | table {t : Table} : t.shape = .ambiguous → Refuses (.table t) .mixedKeys

/-- Every table of the value, at any depth, is made by assignments and pushes. -/
def Made (v : Value) : Prop := ∀ t : Table, v.HasNode (.table t) → t.Reachable

variable {t : Table} {u v : Value} {w : TableFault} {x : Float} {j : Json}

theorem HasNode.eq_of_leaf (h : v.HasNode u) (hv : ∀ t, v ≠ .table t) : u = v := by
  cases h with
  | self => rfl
  | entry he _ => exact absurd rfl (hv _)

theorem Made.entry (h : (Value.table t).Made) {e : Key × Value} (he : e ∈ t.entries) :
    e.2.Made := fun s hs => h s (.entry he hs)

theorem made_of_leaf (hv : ∀ t, v ≠ .table t) : v.Made :=
  fun t h => absurd (h.eq_of_leaf hv).symm (hv t)

theorem made_empty : (Value.table .empty).Made := by
  intro s hs
  cases hs with
  | self => exact .empty
  | entry he _ => exact absurd he List.not_mem_nil

theorem Made.set (ht : (Value.table t).Made) (k : Key) (hv : v.Made) :
    (Value.table (t.set k v)).Made := by
  intro s hs
  cases hs with
  | self => exact .set k v (ht t (.self _))
  | entry he hs =>
    rcases Table.of_mem_entries_set he with ⟨-, rfl⟩ | he
    · exact hv s hs
    · exact ht.entry he s hs

/-! ## Numbers -/

theorem isFinite_of_wholeBelow? {bound : Nat} {n : Int} (h : Number.wholeBelow? bound x = some n) :
    Number.isFinite x = true := by
  unfold Number.wholeBelow? at h
  split_ifs at h with hw
  unfold Number.isWhole at hw
  unfold Number.isFinite
  split at hw
  · rfl
  · cases hw

theorem numberToJson_eq_error_iff :
    numberToJson x = .error w ↔ Number.isFinite x = false ∧ w = .nonFinite := by
  unfold numberToJson
  cases hn : Number.wholeBelow? (9 * Number.tenPow 15) x with
  | some n => simp [isFinite_of_wholeBelow? hn]
  | none =>
    cases hf : Number.isFinite x with
    | true => simp
    | false => simp [eq_comm]

/-! ## Tables -/

theorem entriesToJson_eq (es : List (Key × Value)) :
    entriesToJson es = es.map fun e => (e.1, e.2.toJson) := by
  induction es with
  | nil => rw [entriesToJson, List.map_nil]
  | cons e es ih =>
    obtain ⟨k, v⟩ := e
    rw [entriesToJson, ih, List.map_cons]

theorem toJson_table (t : Table) : (Value.table t).toJson = arrange (t.mapValues toJson) := by
  obtain ⟨es⟩ := t
  rw [toJson, entriesToJson_eq]
  rfl

theorem toJsonMembers_eq (t : Table) : t.toJsonMembers = members (t.mapValues toJson) := by
  rw [Table.toJsonMembers, entriesToJson_eq]
  rfl

/-- The members of an object are the entries of a table, if all are names with a reading. A name
that comes again replaces the value. -/
theorem foldlM_addMember_eq_ok_iff {es : List (Key × Except TableFault Json)}
    {m r : OrderedMap String Json} :
    es.foldlM addMember m = .ok r ↔ ∃ ps : List (String × Json),
      es = ps.map (fun p => (.name p.1, .ok p.2)) ∧
        r = ps.foldl (fun m p => m.insert p.1 p.2) m := by
  -- the members so far change with every entry, so they are arbitrary in the induction
  induction es generalizing m with
  | nil =>
    constructor
    · intro h
      cases h
      exact ⟨[], rfl, rfl⟩
    · rintro ⟨ps, hps, rfl⟩
      cases List.map_eq_nil_iff.1 hps.symm
      rfl
  | cons e es ih =>
    rw [List.foldlM_cons, bind_eq_ok_iff]
    constructor
    · rintro ⟨n, he, hrest⟩
      obtain ⟨ps, rfl, rfl⟩ := ih.1 hrest
      obtain ⟨k, c⟩ := e
      cases k with
      | index i => cases he
      | name name =>
        obtain ⟨j, rfl, rfl⟩ := map_eq_ok_iff.1 he
        exact ⟨(name, j) :: ps, rfl, rfl⟩
    · rintro ⟨ps, hps, rfl⟩
      obtain ⟨p, ps, rfl, rfl, rfl⟩ := List.map_eq_cons_iff.1 hps.symm
      exact ⟨m.insert p.1 p.2, rfl, ih.2 ⟨ps, rfl, rfl⟩⟩

variable {c : OrderedMap Key (Except TableFault Json)} {ms : List (String × Json)}

/-- **Where keys are distinct, no member takes the place of another.** -/
theorem members_eq_ok_iff (hd : c.keys.Nodup) :
    members c = .ok ms ↔ c.entries = ms.map fun m => (.name m.1, .ok m.2) := by
  have hentries : ∀ ps : List (String × Json),
      c.entries = ps.map (fun p => (.name p.1, .ok p.2)) →
        (ps.foldl (fun m p => m.insert p.1 p.2) OrderedMap.empty).entries = ps := by
    intro ps hps
    -- names are distinct because keys are, so each is inserted behind the others
    have hkeys : ((ps.map (·.1)).map Key.name).Nodup := by
      rw [OrderedMap.keys, hps, List.map_map] at hd
      rwa [List.map_map]
    exact OrderedMap.entries_foldl_insert .empty hkeys.of_map
  rw [members, map_eq_ok_iff]
  constructor
  · rintro ⟨r, hr, rfl⟩
    obtain ⟨ps, hps, rfl⟩ := foldlM_addMember_eq_ok_iff.1 hr
    rw [hentries ps hps]
    exact hps
  · intro hms
    exact ⟨_, foldlM_addMember_eq_ok_iff.2 ⟨ms, hms, rfl⟩, hentries ms hms⟩

theorem isOk_members_iff :
    (members c).isOk ↔ ∀ e ∈ c.entries, e.1.isName = true ∧ e.2.isOk := by
  have hstep : ∀ (m : OrderedMap String Json) (e : Key × Except TableFault Json),
      (addMember m e).isOk ↔ e.1.isName = true ∧ e.2.isOk := by
    intro m e
    obtain ⟨k, r⟩ := e
    cases k with
    | index i => exact iff_of_false nofun fun h => nomatch h.1
    | name name => simp [addMember, isOk_map, Key.isName]
  rw [members, isOk_map]
  exact isOk_foldlM_iff hstep

/-- A failure is that of an entry, or says that there is a number among the keys. -/
theorem of_members_eq_error (h : members c = .error w) :
    ∃ e ∈ c.entries, e.1.isName = false ∨ e.2 = .error w := by
  rw [members, map_eq_error_iff, foldlM_eq_error_iff] at h
  obtain ⟨before, ⟨k, r⟩, later, m, hsplit, -, he⟩ := h
  refine ⟨(k, r), by simp [hsplit], ?_⟩
  cases k with
  | index i => exact .inl rfl
  | name name => exact .inr (map_eq_error_iff.1 he)

/-! ## What a table is converted as -/

theorem shape_of_names (hnames : ∀ k ∈ t.keys, k.isName = true) :
    t.shape = .empty ∨ t.shape = .map := by
  by_cases hne : t.keys = []
  · exact .inl (OrderedMap.shape_eq_empty_iff.2 (List.map_eq_nil_iff.1 hne))
  · exact .inr (OrderedMap.shape_eq_map_iff.2 ⟨hne, hnames⟩)

theorem toJson_sequence {vs : List Value} (hne : t.entries ≠ []) (hvs : t.IsSequence vs) :
    (Value.table t).toJson = .array <$> vs.mapM toJson := by
  have hread := OrderedMap.sequence?_eq_some_iff.2 hvs
  rw [toJson_table, arrange, OrderedMap.shape_mapValues, hvs.shape_eq hne]
  dsimp only
  rw [OrderedMap.sequence?_mapValues, hread, Option.map_some, Option.getD_some, List.mapM_map,
    Function.id_comp]

theorem toJson_names (hnames : ∀ k ∈ t.keys, k.isName = true) :
    (Value.table t).toJson = .object <$> t.toJsonMembers := by
  rw [toJson_table, arrange, OrderedMap.shape_mapValues, toJsonMembers_eq]
  rcases shape_of_names hnames with h | h <;> rw [h]

theorem toJson_ambiguous (h : t.shape = .ambiguous) :
    (Value.table t).toJson = .error .mixedKeys := by
  rw [toJson_table, arrange, OrderedMap.shape_mapValues, h]

/-- **A table is ambiguous, a list of names, or a sequence that is not empty.** -/
theorem table_cases (t : Table) :
    t.shape = .ambiguous ∨ (∀ k ∈ t.keys, k.isName = true) ∨
      t.entries ≠ [] ∧ ∃ vs, t.IsSequence vs := by
  cases hs : t.shape with
  | ambiguous => exact .inl rfl
  | empty =>
    refine .inr (.inl ?_)
    rw [OrderedMap.keys, OrderedMap.shape_eq_empty_iff.1 hs]
    exact List.forall_mem_nil _
  | map => exact .inr (.inl (OrderedMap.shape_eq_map_iff.1 hs).2)
  | sequence =>
    obtain ⟨hne, hperm⟩ := OrderedMap.shape_eq_sequence_iff.1 hs
    have hread : t.sequence? = some ((Key.numbers t.size).filterMap t.get?) := by
      rw [OrderedMap.sequence?_eq, if_pos hperm]
    exact .inr (.inr ⟨hne, _, OrderedMap.sequence?_eq_some_iff.1 hread⟩)

/-! ## Success and failure -/

theorem isOk_toJsonMembers_iff (t : Table) :
    t.toJsonMembers.isOk ↔ (∀ k ∈ t.keys, k.isName = true) ∧ ∀ e ∈ t.entries, e.2.toJson.isOk := by
  rw [toJsonMembers_eq, isOk_members_iff, OrderedMap.mapValues, OrderedMap.keys]
  simp only [List.forall_mem_map, forall₂_and]

/-- **A table is converted exactly if it is not ambiguous and its entries are.** -/
theorem isOk_toJson_table_iff (t : Table) :
    (Value.table t).toJson.isOk ↔ t.shape ≠ .ambiguous ∧ ∀ e ∈ t.entries, e.2.toJson.isOk := by
  rcases table_cases t with ha | hnames | ⟨hne, vs, hvs⟩
  · rw [toJson_ambiguous ha]
    simp [ha]
  · have hshape : t.shape ≠ .ambiguous := by
      rcases shape_of_names hnames with h | h <;> simp [h]
    rw [toJson_names hnames, isOk_map, isOk_toJsonMembers_iff]
    exact and_congr_left' (iff_of_true hnames hshape)
  · have hshape : t.shape ≠ .ambiguous := by simp [hvs.shape_eq hne]
    rw [toJson_sequence hne hvs, isOk_map, isOk_mapM_iff]
    constructor
    · intro h
      exact ⟨hshape, fun e he => h e.2 (hvs.mem_iff.2 ⟨e, he, rfl⟩)⟩
    · rintro ⟨-, h⟩ v hv
      obtain ⟨e, he, rfl⟩ := hvs.mem_iff.1 hv
      exact h e he

/-- A table that is not ambiguous fails with one of its entries. -/
theorem of_toJson_table_eq_error (h : (Value.table t).toJson = .error w) :
    t.shape = .ambiguous ∧ w = .mixedKeys ∨ ∃ e ∈ t.entries, e.2.toJson = .error w := by
  rcases table_cases t with ha | hnames | ⟨hne, vs, hvs⟩
  · rw [toJson_ambiguous ha] at h
    cases h
    exact .inl ⟨ha, rfl⟩
  · rw [toJson_names hnames, map_eq_error_iff, toJsonMembers_eq] at h
    obtain ⟨e', he', hfault⟩ := of_members_eq_error h
    obtain ⟨e, he, rfl⟩ := List.mem_map.1 he'
    -- no key is a number
    have hname : e.1.isName = true := hnames e.1 (List.mem_map_of_mem he)
    rcases hfault with hnumber | hfault
    · rw [hname] at hnumber
      cases hnumber
    · exact .inr ⟨e, he, hfault⟩
  · rw [toJson_sequence hne hvs, map_eq_error_iff, mapM_eq_error_iff] at h
    obtain ⟨us, v, rest, rfl, -, hv⟩ := h
    have hmem : v ∈ us ++ v :: rest := by simp
    obtain ⟨e, he, rfl⟩ := hvs.mem_iff.1 hmem
    exact .inr ⟨e, he, hv⟩

theorem toJson_of_refuses (h : v.Refuses w) : v.toJson = .error w := by
  cases h with
  | handle h => rw [toJson]
  | number hx =>
    rw [toJson]
    exact numberToJson_eq_error_iff.2 ⟨hx, rfl⟩
  | table ha => exact toJson_ambiguous ha

/-- **A failure is that of a node**, at whatever depth. -/
theorem exists_refuses (h : v.toJson = .error w) : ∃ u, v.HasNode u ∧ u.Refuses w := by
  induction v using tree_induction with
  | leaf v hv =>
    refine ⟨v, .self v, ?_⟩
    cases v with
    | nil | bool _ | string _ =>
      -- these have a reading
      rw [toJson] at h
      cases h
    | number x =>
      rw [toJson] at h
      obtain ⟨hx, rfl⟩ := numberToJson_eq_error_iff.1 h
      exact .number hx
    | table t => exact absurd rfl (hv t)
    | handle k =>
      rw [toJson] at h
      cases h
      exact .handle k
  | table t ih =>
    rcases of_toJson_table_eq_error h with ⟨ha, rfl⟩ | ⟨e, he, hfault⟩
    · exact ⟨_, .self _, .table ha⟩
    · obtain ⟨u, hu, hrefuses⟩ := ih e he hfault
      exact ⟨u, .entry he hu, hrefuses⟩

/-- What is converted has all its nodes converted. -/
theorem HasNode.isOk_toJson (h : v.HasNode u) (hv : v.toJson.isOk) : u.toJson.isOk := by
  induction h with
  | self => exact hv
  | entry he _ ih => exact ih (((isOk_toJson_table_iff _).1 hv).2 _ he)

/-- **A value is converted exactly if no node refuses.** -/
theorem isOk_toJson_iff : v.toJson.isOk ↔ ¬ ∃ u w, v.HasNode u ∧ u.Refuses w := by
  constructor
  · rintro hv ⟨u, w, hu, hw⟩
    have hok := hu.isOk_toJson hv
    rw [toJson_of_refuses hw] at hok
    cases hok
  · intro hnone
    cases hj : v.toJson with
    | ok j => rfl
    | error w =>
      obtain ⟨u, hu, hw⟩ := exists_refuses hj
      exact absurd ⟨u, w, hu, hw⟩ hnone

/-! ## The reading -/

/-- **The value as JSON.** A table of names is an object with exactly these as its names, each once;
a sequence is an array as long, by number. What stands under a name or a number is what the entry
under that key is. -/
inductive ShownAs : Value → Json → Prop
  | nil : ShownAs .nil .null
  | bool (b : Bool) : ShownAs (.bool b) (.bool b)
  | string (s : String) : ShownAs (.string s) (.string s)
  | whole {x : Float} {n : Int} :
    Number.wholeBelow? (9 * Number.tenPow 15) x = some n → ShownAs (.number x) (.integer n)
  | real {x : Float} : Number.wholeBelow? (9 * Number.tenPow 15) x = none →
    Number.isFinite x = true → ShownAs (.number x) (.real x)
  | object {t : Table} {ms : List (String × Json)} :
    (∀ k, k ∈ t.keys ↔ ∃ m ∈ ms, k = .name m.1) → (ms.map (·.1)).Nodup →
      (∀ m ∈ ms, ShownAs (t.get (.name m.1)) m.2) → ShownAs (.table t) (.object ms)
  | array {t : Table} {js : List Json} :
    js ≠ [] → t.KeysUpTo js.length →
      (∀ (i : Nat) j, js[i]? = some j → ShownAs (t.get (.index (i + 1))) j) →
        ShownAs (.table t) (.array js)

theorem toJsonMembers_eq_ok_iff (hd : t.keys.Nodup) :
    t.toJsonMembers = .ok ms ↔
      t.entries.map (fun e => (e.1, e.2.toJson)) = ms.map fun m => (.name m.1, .ok m.2) := by
  have hd' : (t.mapValues toJson).keys.Nodup := by rwa [OrderedMap.keys_mapValues]
  rw [toJsonMembers_eq]
  exact members_eq_ok_iff hd'

/-- The members are named as the entries are. -/
theorem keys_of_toJsonMembers (hd : t.keys.Nodup) (h : t.toJsonMembers = .ok ms) :
    t.keys = ms.map fun m => Key.name m.1 := by
  have hfst := congrArg (List.map (·.1)) ((toJsonMembers_eq_ok_iff hd).1 h)
  rwa [List.map_map, List.map_map] at hfst

theorem nodup_of_toJsonMembers (hd : t.keys.Nodup) (h : t.toJsonMembers = .ok ms) :
    (ms.map (·.1)).Nodup := by
  have hnames : ((ms.map (·.1)).map Key.name).Nodup := by
    rw [List.map_map]
    rwa [keys_of_toJsonMembers hd h] at hd
  exact hnames.of_map

/-- **A member is an entry of its name**, converted. -/
theorem mem_of_toJsonMembers (hd : t.keys.Nodup) (h : t.toJsonMembers = .ok ms) {name : String} :
    (name, j) ∈ ms ↔ ∃ v, t.get? (.name name) = some v ∧ v.toJson = .ok j := by
  have hentries := (toJsonMembers_eq_ok_iff hd).1 h
  constructor
  · intro hm
    have hmem : (Key.name name, Except.ok j) ∈ t.entries.map fun e => (e.1, e.2.toJson) := by
      rw [hentries]
      exact List.mem_map.2 ⟨(name, j), hm, rfl⟩
    obtain ⟨⟨k, v⟩, he, heq⟩ := List.mem_map.1 hmem
    obtain ⟨rfl, hv⟩ := Prod.mk.inj heq
    exact ⟨v, (OrderedMap.get?_eq_some_iff hd).2 he, hv⟩
  · rintro ⟨v, hget, hv⟩
    have he := OrderedMap.mem_entries_of_get? hget
    have hmem : (Key.name name, v.toJson) ∈ t.entries.map fun e => (e.1, e.2.toJson) :=
      List.mem_map.2 ⟨_, he, rfl⟩
    rw [hentries, hv] at hmem
    obtain ⟨⟨name', j'⟩, hm, heq⟩ := List.mem_map.1 hmem
    cases heq
    exact hm

/-- No entry is lost and none takes the place of another, since names are distinct. -/
theorem shownAs_object (hd : t.keys.Nodup) (h : t.toJsonMembers = .ok ms)
    (ih : ∀ e ∈ t.entries, ∀ j, e.2.toJson = .ok j → e.2.ShownAs j) :
    (Value.table t).ShownAs (.object ms) := by
  refine .object (fun k => ?_) (nodup_of_toJsonMembers hd h) fun m hm => ?_
  · rw [keys_of_toJsonMembers hd h, List.mem_map]
    simp only [eq_comm]
  · obtain ⟨v, hget?, hv⟩ := (mem_of_toJsonMembers hd h).1 hm
    have hget : t.get (.name m.1) = v := by rw [Table.get, hget?, Option.getD_some]
    rw [hget]
    exact ih _ (OrderedMap.mem_entries_of_get? hget?) m.2 hv

theorem shownAs_array {vs : List Value} {js : List Json} (hne : t.entries ≠ [])
    (hvs : t.IsSequence vs) (h : vs.mapM toJson = .ok js)
    (ih : ∀ e ∈ t.entries, ∀ j, e.2.toJson = .ok j → e.2.ShownAs j) :
    (Value.table t).ShownAs (.array js) := by
  have hitems : vs.map toJson = js.map .ok := mapM_eq_ok_iff.1 h
  have hlen : vs.length = js.length := by
    have hlength := congrArg List.length hitems
    rwa [List.length_map, List.length_map] at hlength
  have hsize : t.size = js.length := hvs.size_eq.trans hlen
  refine .array ?_ ?_ fun i j hj => ?_
  · intro hnil
    rw [hnil] at hsize
    exact hne (List.length_eq_zero_iff.1 hsize)
  · rw [OrderedMap.keysUpTo_iff_perm hvs.nodup_keys, ← hlen]
    exact hvs.keys
  · -- the item is what the value with its number is
    have hread : (vs.map toJson)[i]? = some (.ok j) := by
      rw [hitems, List.getElem?_map, hj, Option.map_some]
    rw [List.getElem?_map, Option.map_eq_some_iff] at hread
    obtain ⟨v, hv, hok⟩ := hread
    have hget? : t.get? (.index (i + 1)) = some v := (hvs.get?_eq i).trans hv
    have hget : t.get (.index (i + 1)) = v := by rw [Table.get, hget?, Option.getD_some]
    rw [hget]
    exact ih _ (OrderedMap.mem_entries_of_get? hget?) j hok

/-- **What a value is converted to**, where keys are distinct at every level. -/
theorem shownAs_of_toJson (hv : v.Made) (h : v.toJson = .ok j) : v.ShownAs j := by
  induction v using tree_induction generalizing j with
  | leaf v hleaf =>
    cases v with
    | nil =>
      rw [toJson] at h
      cases h
      exact .nil
    | bool b =>
      rw [toJson] at h
      cases h
      exact .bool b
    | string s =>
      rw [toJson] at h
      cases h
      exact .string s
    | number x =>
      rw [toJson, numberToJson] at h
      cases hn : Number.wholeBelow? (9 * Number.tenPow 15) x with
      | some n =>
        rw [hn] at h
        cases h
        exact .whole hn
      | none =>
        rw [hn] at h
        dsimp only at h
        split_ifs at h with hf
        cases h
        exact .real hn hf
    | table t => exact absurd rfl (hleaf t)
    | handle k =>
      rw [toJson] at h
      cases h
  | table t ih =>
    have hd : t.keys.Nodup := (hv t (.self _)).nodup_keys
    have hchildren : ∀ e ∈ t.entries, ∀ j, e.2.toJson = .ok j → e.2.ShownAs j :=
      fun e he _ => ih e he (hv.entry he)
    rcases table_cases t with ha | hnames | ⟨hne, vs, hvs⟩
    · rw [toJson_ambiguous ha] at h
      cases h
    · rw [toJson_names hnames, map_eq_ok_iff] at h
      obtain ⟨ms, hms, rfl⟩ := h
      exact shownAs_object hd hms hchildren
    · rw [toJson_sequence hne hvs, map_eq_ok_iff] at h
      obtain ⟨js, hjs, rfl⟩ := h
      exact shownAs_array hne hvs hjs hchildren

/-- **A table is the members of an object exactly if it is converted to that object.** -/
theorem toJsonMembers_eq_ok_iff_toJson :
    t.toJsonMembers = .ok ms ↔ (Value.table t).toJson = .ok (.object ms) := by
  constructor
  · intro h
    have hok : t.toJsonMembers.isOk := isOk_iff.2 ⟨ms, h⟩
    have hnames := ((isOk_toJsonMembers_iff t).1 hok).1
    rw [toJson_names hnames, h]
    rfl
  · intro h
    -- only a list of names becomes an object
    rcases table_cases t with ha | hnames | ⟨hne, vs, hvs⟩
    · rw [toJson_ambiguous ha] at h
      cases h
    · rw [toJson_names hnames, map_eq_ok_iff] at h
      obtain ⟨_, hms, heq⟩ := h
      cases heq
      exact hms
    · rw [toJson_sequence hne hvs, map_eq_ok_iff] at h
      obtain ⟨_, -, heq⟩ := h
      cases heq

end Value

/-- **Values as JSON.** Let every table of a value, at any depth, be made by assignments and pushes.
The value is converted exactly if none of its nodes is a handle, a number that is not finite or an
ambiguous table, and a failure says which of these a node is. What it is converted to has an object
for every table of names, with these names, and an array for every sequence, by number; and under
each of these what the entry under that key is. A table is the members of an object exactly if all
its keys are names and all its entries are converted, and then the table is converted to that
object. -/
theorem json_conversion {v : Value} (hv : v.Made) :
    (v.toJson.isOk ↔ ¬ ∃ u w, v.HasNode u ∧ u.Refuses w) ∧
    (∀ w, v.toJson = .error w →
      (∃ u, v.HasNode u ∧ u.Refuses w) ∧ Failure.ofTableFault w = .ambiguousTable w.message) ∧
    (∀ j, v.toJson = .ok j → v.ShownAs j) ∧
    ∀ t : Table, v = .table t →
      (t.toJsonMembers.isOk ↔
        (∀ k ∈ t.keys, k.isName = true) ∧ ∀ e ∈ t.entries, e.2.toJson.isOk) ∧
      ∀ ms, t.toJsonMembers = .ok ms ↔ v.toJson = .ok (.object ms) := by
  refine ⟨Value.isOk_toJson_iff, fun w hw => ⟨Value.exists_refuses hw, rfl⟩,
    fun j hj => Value.shownAs_of_toJson hv hj, ?_⟩
  rintro t rfl
  exact ⟨Value.isOk_toJsonMembers_iff t, fun ms => Value.toJsonMembers_eq_ok_iff_toJson⟩

/-- A sequence whose second item came first stands beside the empty table. With a handle for a third
item the whole has no reading. -/
theorem json_conversion_of_nested :
    let items : Table :=
      Table.set (Table.set .empty (.index 2) (.string "b")) (.index 1) (.bool true)
    let page (items : Table) : Table :=
      Table.set (Table.set .empty (.name "items") (.table items)) (.name "none") (.table .empty)
    let v : Value := .table (page items)
    let bad : Value := .table (page (items.set (.index 3) (.handle .request)))
    let j : Json := .object [("items", .array [.bool true, .string "b"]), ("none", .object [])]
    (v.Made ∧ v.toJson = .ok j ∧ v.ShownAs j) ∧ bad.Made ∧ bad.toJson.isOk = false := by
  intro items page v bad j
  have hone : (Value.bool true).Made := Value.made_of_leaf nofun
  have htwo : (Value.string "b").Made := Value.made_of_leaf nofun
  have hthree : (Value.handle .request).Made := Value.made_of_leaf nofun
  have hitems : (Value.table items).Made := (Value.made_empty.set _ htwo).set _ hone
  have hpage : ∀ items : Table, (Value.table items).Made → (Value.table (page items)).Made :=
    fun items h => (Value.made_empty.set _ h).set _ Value.made_empty
  have hv : v.Made := hpage items hitems
  have hbad : bad.Made := hpage _ (hitems.set _ hthree)
  have hj : v.toJson = .ok j := rfl
  obtain ⟨-, -, hshown, -⟩ := json_conversion hv
  obtain ⟨hok, -⟩ := json_conversion hbad
  have hnode : bad.HasNode (.handle .request) :=
    .entry (OrderedMap.mem_entries_of_get? (k := .name "items") rfl)
      (.entry (OrderedMap.mem_entries_of_get? (k := .index 3) rfl) (.self _))
  refine ⟨⟨hv, hj, hshown j hj⟩, hbad, ?_⟩
  rw [← Bool.not_eq_true, hok, not_not]
  exact ⟨_, _, hnode, .handle _⟩

end WebScript
