import WebScript.Proofs.Tables

/-!
# Tables that grow

The tables that scripts and the host build up by assignments and pushes, in any order. Their keys
are distinct, so how many there are and how far they count tell whether they are `1, 2, … n`.

* `Table.Reachable`: the tables that assignments and pushes make.
* `OrderedMap.shape_eq_sequence_iff_keysUpTo`, `OrderedMap.shape_eq_map_iff`: **what the keys make
  of a table**.
* `OrderedMap.sequence?_of_keysUpTo`: **the values of a sequence**, by number.
* `table_sequences`: sequences are recognised in whatever order they came in, read by number, and
  extended at the first number that is free.
-/

namespace WebScript

namespace Table

variable {t : Table}

/-- **The tables that assignments and pushes make.** -/
inductive Reachable : Table → Prop
  | empty : Reachable .empty
  | set {t : Table} (k : Key) (v : Value) : Reachable t → Reachable (t.set k v)
  | push {t : Table} (v : Value) : Reachable t → Reachable (t.push v)

/-- No key stands twice in such a table. -/
theorem Reachable.nodup_keys (h : t.Reachable) : t.keys.Nodup := by
  induction h with
  | empty => exact List.nodup_nil
  | set k v _ ih => exact nodup_set ih k v
  | push v _ ih => exact nodup_set ih _ v

/-- What is in a table after an assignment was assigned or there before. -/
theorem of_mem_entries_set {k : Key} {v : Value} {e : Key × Value}
    (he : e ∈ (t.set k v).entries) : (v.isNil = false ∧ e = (k, v)) ∨ e ∈ t.entries := by
  unfold set at he
  split at he
  · exact .inr (List.mem_filter.1 he).1
  · rename_i hv
    have hv : v.isNil = false := by simpa using hv
    rcases OrderedMap.mem_entries_insert he with rfl | he
    · exact .inl ⟨hv, rfl⟩
    · exact .inr he

end Table

namespace OrderedMap

variable {α : Type} {t : OrderedMap Key α} {n : Nat}

/-- **The keys are exactly `1, 2, … n`.** -/
def KeysUpTo (t : OrderedMap Key α) (n : Nat) : Prop :=
  ∀ k, k ∈ t.keys ↔ ∃ i : Nat, 1 ≤ i ∧ i ≤ n ∧ k = .index i

theorem keysUpTo_iff_mem_numbers : t.KeysUpTo n ↔ ∀ k, k ∈ t.keys ↔ k ∈ Key.numbers n := by
  have hnumbers : ∀ k, k ∈ Key.numbers n ↔ ∃ i : Nat, 1 ≤ i ∧ i ≤ n ∧ k = .index i := by
    intro k
    rw [Key.mem_numbers_iff]
    constructor
    · rintro ⟨i, hi, rfl⟩
      exact ⟨i + 1, by omega, by omega, rfl⟩
    · rintro ⟨i, hpos, hi, rfl⟩
      obtain ⟨j, rfl⟩ : ∃ j, i = j + 1 := ⟨i - 1, by omega⟩
      exact ⟨j, by omega, rfl⟩
  exact forall_congr' fun k => by rw [hnumbers]

/-- Keys that are distinct are `1, 2, … n` in some order if they are no others. -/
theorem keysUpTo_iff_perm (hd : t.keys.Nodup) : t.KeysUpTo n ↔ t.keys.Perm (Key.numbers n) := by
  rw [keysUpTo_iff_mem_numbers, List.perm_ext_iff_of_nodup hd (Key.nodup_numbers n)]

theorem KeysUpTo.size_eq (hd : t.keys.Nodup) (h : t.KeysUpTo n) : t.size = n := by
  have hperm := (keysUpTo_iff_perm hd).1 h
  rw [← length_keys, hperm.length_eq, Key.length_numbers]

/-- **A table is a sequence exactly if its keys are `1, 2, … n`** for some `n`, in any order. -/
theorem shape_eq_sequence_iff_keysUpTo (hd : t.keys.Nodup) :
    t.shape = .sequence ↔ ∃ n, 1 ≤ n ∧ t.KeysUpTo n := by
  rw [shape_eq_sequence_iff]
  constructor
  · rintro ⟨hne, hperm⟩
    have hpos : 1 ≤ t.size := List.length_pos_of_ne_nil hne
    exact ⟨t.size, hpos, (keysUpTo_iff_perm hd).2 hperm⟩
  · rintro ⟨n, hpos, hkeys⟩
    have hsize := hkeys.size_eq hd
    constructor
    · intro hnil
      have hzero : t.size = 0 := by rw [size, hnil, List.length_nil]
      omega
    · rw [hsize]
      exact (keysUpTo_iff_perm hd).1 hkeys

theorem shape_eq_map_iff : t.shape = .map ↔ t.keys ≠ [] ∧ ∀ k ∈ t.keys, k.isName = true := by
  have hempty : t.entries.isEmpty = true ↔ t.keys = [] := by
    rw [List.isEmpty_iff, keys, List.map_eq_nil_iff]
  have hnames : t.keys.all Key.isName = true ↔ ∀ k ∈ t.keys, k.isName = true := List.all_eq_true
  rw [← hnames, ne_eq, ← hempty]
  unfold shape
  by_cases he : t.entries.isEmpty = true
  · rw [if_pos he]
    exact iff_of_false nofun fun h => h.1 he
  · by_cases hn : t.keys.all Key.isName = true
    · rw [if_neg he, if_pos hn]
      exact iff_of_true rfl ⟨he, hn⟩
    · rw [if_neg he, if_neg hn]
      refine iff_of_false ?_ fun h => hn h.2
      split <;> simp

/-- **The values of a sequence**, by number. -/
theorem sequence?_of_keysUpTo {t : Table} (hd : t.keys.Nodup) (h : t.KeysUpTo n) :
    t.sequence? = some ((List.range' 1 n).map fun (i : Nat) => t.get (.index i)) := by
  have hfound : ∀ k ∈ Key.numbers n, t.get? k = some (t.get k) := by
    intro k hk
    have hmem : k ∈ t.keys := (keysUpTo_iff_mem_numbers.1 h k).2 hk
    obtain ⟨v, hv⟩ := Option.isSome_iff_exists.1 (mem_keys_iff.1 hmem)
    rw [Table.get, hv, Option.getD_some]
  have hvalues : (Key.numbers n).filterMap t.get? =
      (List.range' 1 n).map fun (i : Nat) => t.get (.index i) := by
    calc (Key.numbers n).filterMap t.get?
      _ = (Key.numbers n).map t.get := by
        rw [List.filterMap_congr hfound, List.filterMap_eq_map']
      _ = (List.range' 1 n).map fun (i : Nat) => t.get (.index i) := by
        rw [Key.numbers, List.range'_eq_map_range, List.map_map, List.map_map]
        apply List.map_congr_left
        intro i _
        have hi : ((1 + i : Nat) : Int) = i + 1 := by omega
        simp only [Function.comp_apply, hi]
  have hsize := h.size_eq hd
  rw [sequence?_eq, hsize, if_pos ((keysUpTo_iff_perm hd).1 h), hvalues]

theorem sequence?_eq_none_iff_shape :
    t.sequence? = none ↔ t.shape = .map ∨ t.shape = .ambiguous := by
  unfold sequence?
  cases t.shape <;> simp

end OrderedMap

/-- **Sequences are recognised and extended.** A table that assignments and pushes made is a
sequence exactly if its keys are `1, 2, … n` for some `n` of at least one, in whatever order they
came in, and a map exactly if it has keys and all are names. A sequence, and the empty table, is
read by number; maps and ambiguous tables are not read at all. A push of a value adds an entry
behind all others, under the least positive number that is no key; a push of nil changes nothing.
The sequence of a list of values is read as that list without its nils. -/
theorem table_sequences :
    (∀ t : Table, t.Reachable →
      (t.shape = .sequence ↔ ∃ n, 1 ≤ n ∧ t.KeysUpTo n) ∧
      (t.shape = .map ↔ t.keys ≠ [] ∧ ∀ k ∈ t.keys, k.isName = true) ∧
      (∀ n, t.KeysUpTo n →
        t.sequence? = some ((List.range' 1 n).map fun (i : Nat) => t.get (.index i))) ∧
      (t.sequence? = none ↔ t.shape = .map ∨ t.shape = .ambiguous) ∧
      (∀ v : Value, v.isNil = false → ∃ n, Key.IsLeastFree (· ∈ t.keys) n ∧
        (t.push v).entries = t.entries ++ [(.index n, v)]) ∧
      t.push .nil = t) ∧
    ∀ vs : List Value, (Table.ofSequence vs).sequence? = some (vs.filter (! ·.isNil)) := by
  refine ⟨fun t ht => ?_, Table.sequence?_ofSequence⟩
  have hd := ht.nodup_keys
  refine ⟨OrderedMap.shape_eq_sequence_iff_keysUpTo hd, OrderedMap.shape_eq_map_iff,
    fun n hn => OrderedMap.sequence?_of_keysUpTo hd hn, OrderedMap.sequence?_eq_none_iff_shape,
    fun v hv => ⟨_, t.isLeastFree_sequenceLength, ?_⟩, ?_⟩
  · rw [Table.push_eq, if_neg (by simp [hv])]
    rfl
  · have hnil : Value.nil.isNil = true := rfl
    rw [Table.push_eq, if_pos hnil, List.append_nil]

/-- The second item comes first, and a name in between; when that is gone the table is a sequence. A
push goes to the first number that is free, behind one that is greater. -/
theorem table_sequences_of_out_of_order :
    let mixed : Table :=
      .set (.set (.set .empty (.index 2) (.string "b")) (.name "x") (.bool true))
        (.index 1) (.string "a")
    let t := mixed.set (.name "x") .nil
    let gapped : Table := .set .empty (.index 2) (.string "b")
    (t.Reachable ∧ t.shape = .sequence ∧ t.sequence? = some [.string "a", .string "b"]) ∧
    (mixed.Reachable ∧ mixed.sequence? = none) ∧
    gapped.Reachable ∧
      (gapped.push (.string "a")).entries = gapped.entries ++ [(.index 1, .string "a")] := by
  intro mixed t gapped
  have hmixed : mixed.Reachable := .set _ _ (.set _ _ (.set _ _ .empty))
  have ht : t.Reachable := .set _ _ hmixed
  have hgapped : gapped.Reachable := .set _ _ .empty
  have hkeys : t.keys = [.index 2, .index 1] := rfl
  have hupTo : t.KeysUpTo 2 := by
    have hd : t.keys.Nodup := by decide
    rw [OrderedMap.keysUpTo_iff_perm hd, hkeys]
    decide
  obtain ⟨hsequence, -, hread, -⟩ := table_sequences.1 t ht
  obtain ⟨-, -, -, hnone, -⟩ := table_sequences.1 mixed hmixed
  obtain ⟨-, -, -, -, hpush, -⟩ := table_sequences.1 gapped hgapped
  obtain ⟨n, hfree, hentries⟩ := hpush (.string "a") rfl
  have hn : n = 1 := by
    have hpos := hfree.pos
    by_contra hne
    have hone : Key.index 1 ∈ gapped.keys := hfree.below 1 le_rfl (by omega)
    exact absurd hone (by decide)
  rw [hn] at hentries
  exact ⟨⟨ht, hsequence.2 ⟨2, by omega, hupTo⟩, hread 2 hupTo⟩,
    ⟨hmixed, hnone.2 (.inr rfl)⟩, hgapped, hentries⟩

end WebScript
