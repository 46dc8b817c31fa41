import Mathlib.Data.List.Induction
import Mathlib.Data.Set.Card
import WebScript.Proofs.Tables.Growth

/-!
# What a table remembers

A table after any calls that assign values or push them. What it holds is told from the log of what
the calls gave to which keys, without looking at tables: the last value given to each key, nil being
none, and the order in which keys came to stay.

* `Table.Call`, `Table.Logs`: calls, and the log of what they give to which keys.
* `Table.Records`: **a table is what its log says**.
* `Table.Call.records_apply`, `Table.exists_log`: one call keeps it so, and therefore any calls do.
* `table_is_ordered_map`: the same for a table that is made from nothing or from a list of values.
-/

namespace WebScript

namespace Table

/-! ## Calls and logs -/

/-- A call that changes a table. -/
inductive Call where
  | set (k : Key) (v : Value)
  | push (v : Value)

/-- What a call does to a table. -/
def Call.apply (t : Table) : Call → Table
  | .set k v => t.set k v
  | .push v => t.push v

/-- A table after some calls. -/
def after (t : Table) (calls : List Call) : Table := calls.foldl Call.apply t

variable {t : Table} {log : List (Key × Value)} {w : Key × Value} {k : Key} {v : Value}

/-- **The last value given to a key**; nil if none was. -/
def lastGiven (log : List (Key × Value)) (k : Key) : Value :=
  ((log.filter (·.1 = k)).map (·.2)).getLastD .nil

/-- The last value given to the key is not nil. -/
def Present (log : List (Key × Value)) (k : Key) : Prop := (lastGiven log k).isNil = false

/-- **What a call gives to which key.** A push gives to the least positive number that is not
present. -/
inductive Call.Gives (log : List (Key × Value)) : Call → Key × Value → Prop
  | set (k : Key) (v : Value) : Gives log (.set k v) (k, v)
  | push (v : Value) {n : Nat} : Key.IsLeastFree (Present log) n → Gives log (.push v) (.index n, v)

/-- **The log of some calls**: what each of them gives, in order. -/
inductive Logs : List Call → List (Key × Value) → Prop
  | nil : Logs [] []
  | concat {calls : List Call} {log : List (Key × Value)} {c : Call} {w : Key × Value} :
    Logs calls log → c.Gives log w → Logs (calls ++ [c]) (log ++ [w])

theorem lastGiven_concat :
    lastGiven (log ++ [w]) k = if k = w.1 then w.2 else lastGiven log k := by
  unfold lastGiven
  by_cases hk : k = w.1
  · rw [List.filter_append, List.filter_singleton, if_pos hk]
    simp [hk]
  · rw [List.filter_append, List.filter_singleton, if_neg hk]
    simp [Ne.symm hk]

/-! ## Tables and logs -/

/-- **A table is what its log says.** -/
structure Records (t : Table) (log : List (Key × Value)) : Prop where
  get : ∀ k, t.get k = lastGiven log k
  notNil : ∀ e ∈ t.entries, e.2.isNil = false
  keys : Chronological Present log t.keys

theorem mem_keys_iff_get (h : ∀ e ∈ t.entries, e.2.isNil = false) :
    k ∈ t.keys ↔ (t.get k).isNil = false := by
  rw [OrderedMap.mem_keys_iff, get]
  cases hk : t.get? k with
  | none => simp [Value.isNil]
  | some v => simpa using h _ (OrderedMap.mem_entries_of_get? hk)

theorem notNil_set (h : ∀ e ∈ t.entries, e.2.isNil = false) :
    ∀ e ∈ (t.set k v).entries, e.2.isNil = false := by
  intro e he
  rcases of_mem_entries_set he with ⟨hv, rfl⟩ | he
  · exact hv
  · exact h e he

/-- **An assignment is recorded.** -/
theorem Records.set (h : t.Records log) (k : Key) (v : Value) :
    (t.set k v).Records (log ++ [(k, v)]) := by
  have hget : ∀ l, (t.set k v).get l = lastGiven (log ++ [(k, v)]) l := by
    intro l
    rw [get_set, lastGiven_concat, h.get]
  have hnil := notNil_set (k := k) (v := v) h.notNil
  have hmem : ∀ l, l ∈ (t.set k v).keys ↔ Present (log ++ [(k, v)]) l := by
    intro l
    rw [mem_keys_iff_get hnil, hget, Present]
  refine ⟨hget, hnil, ?_⟩
  -- nil takes the key away, any other value keeps it or puts it last
  unfold Table.set at hmem ⊢
  by_cases hv : v.isNil = true
  · rw [if_pos hv] at hmem ⊢
    exact h.keys.erase hmem
  · rw [if_neg hv] at hmem ⊢
    exact h.keys.insert hmem

/-- **A call is recorded** with what it gives. -/
theorem Call.records_apply (c : Call) (h : t.Records log) :
    ∃ w, c.Gives log w ∧ (c.apply t).Records (log ++ [w]) := by
  cases c with
  | set k v => exact ⟨(k, v), .set k v, h.set k v⟩
  | push v =>
    -- what is free in the table is what is absent by the log
    have hpresent : (· ∈ t.keys) = Present log := funext fun k => propext (h.keys.mem_iff k)
    have hfree := t.isLeastFree_sequenceLength
    rw [hpresent] at hfree
    exact ⟨_, .push v hfree, h.set _ v⟩

theorem records_empty : Records .empty [] where
  get _ := rfl
  notNil _ he := absurd he List.not_mem_nil
  keys := Chronological.nil fun _ => Bool.noConfusion

/-- **Any calls are recorded**, from the empty table on. -/
theorem exists_log (calls : List Call) :
    ∃ log, Logs calls log ∧ (after .empty calls).Records log := by
  induction calls using List.reverseRecOn with
  | nil => exact ⟨[], .nil, records_empty⟩
  | append_singleton calls c ih =>
    obtain ⟨log, hlog, hrec⟩ := ih
    obtain ⟨w, hw, hrec⟩ := c.records_apply hrec
    refine ⟨log ++ [w], hlog.concat hw, ?_⟩
    rw [after, List.foldl_append]
    exact hrec

/-- The entries of a table are its keys with the last value given to each. -/
theorem Records.entries_eq (h : t.Records log) :
    t.entries = t.keys.map fun k => (k, lastGiven log k) := by
  refine OrderedMap.entries_eq_map h.keys.nodup fun k hk => ?_
  obtain ⟨v, hv⟩ := Option.isSome_iff_exists.1 (OrderedMap.mem_keys_iff.1 hk)
  rw [← h.get, Table.get, hv, Option.getD_some]

/-- A table has as many entries as keys are present. -/
theorem Records.size_eq (h : t.Records log) : t.size = {k | Present log k}.ncard := by
  have hset : {k | Present log k} = (t.keys.toFinset : Set Key) := by
    ext k
    simp [h.keys.mem_iff]
  rw [hset, Set.ncard_coe_finset, List.toFinset_card_of_nodup h.keys.nodup,
    OrderedMap.length_keys]

/-! ## How tables are made -/

/-- What a table is made from. -/
inductive Origin where
  | nothing
  | list (vs : List Value)

/-- The table that is made. -/
def Origin.table : Origin → Table
  | .nothing => .empty
  | .list vs => .ofSequence vs

/-- The calls that make the same table of nothing. -/
def Origin.calls : Origin → List Call
  | .nothing => []
  | .list vs => vs.map .push

theorem Origin.after_calls (o : Origin) : after .empty o.calls = o.table := by
  cases o with
  | nothing => rfl
  | list vs =>
    rw [calls, after, List.foldl_map]
    exact (ofSequence_eq_foldl_push vs).symm

end Table

/-- **Tables are maps in order of insertion.** Take a table made from nothing or from a list of
values, after any assignments and pushes. There is a log of what these gave to which keys, where a
push gave to the least positive number that was not present, such that: keys are distinct and no
value is nil; a key has the last value given to it, and nil if none was; the keys are those whose
last value is not nil, in the order in which each most recently went from absent to present, each
entry with that last value; and the size is how many there are. -/
theorem table_is_ordered_map (o : Table.Origin) (calls : List Table.Call) :
    let t := o.table.after calls
    ∃ log, Table.Logs (o.calls ++ calls) log ∧
      (t.keys.Nodup ∧ ∀ e ∈ t.entries, e.2.isNil = false) ∧
      (∀ k, t.get k = Table.lastGiven log k) ∧
      (Chronological Table.Present log t.keys ∧
        t.entries = t.keys.map fun k => (k, Table.lastGiven log k)) ∧
      t.size = {k | Table.Present log k}.ncard := by
  intro t
  -- a list of values is pushed one by one, so all tables are made from nothing
  obtain ⟨log, hlog, hrec⟩ := Table.exists_log (o.calls ++ calls)
  have ht : Table.after .empty (o.calls ++ calls) = t := by
    have hmade : o.calls.foldl Table.Call.apply .empty = o.table := o.after_calls
    rw [Table.after, List.foldl_append, hmade]
    rfl
  rw [ht] at hrec
  exact ⟨log, hlog, ⟨hrec.keys.nodup, hrec.notNil⟩, hrec.get, ⟨hrec.keys, hrec.entries_eq⟩,
    hrec.size_eq⟩

/-- A key that is removed and set again comes last; one that is set twice stays in its place. -/
example : (Table.after .empty [.set (.name "a") (.bool true), .push (.string "x"),
    .set (.name "b") (.bool true), .set (.name "a") .nil, .set (.name "a") (.bool false),
    .set (.name "b") (.bool false)]).keys = [.index 1, .name "b", .name "a"] := rfl

end WebScript
