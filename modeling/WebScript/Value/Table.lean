import WebScript.Value

/-!
# Tables

Script tables: maps under whole numbers and names. The keys alone decide whether a table is read
as a sequence, as a map from names, or as neither.

* `Table.set`: assignment; assigning nil removes.
* `Shape`, `shape`: what the keys make of a table.
* `sequence?`: the values under `1, 2, … n`, in that order.
-/

namespace WebScript

/-- What the keys of a table make of it. -/
inductive Shape where
  /-- No entries. -/
  | empty
  /-- The keys are exactly `1, 2, … n`. -/
  | sequence
  /-- All keys are names. -/
  | map
  /-- Names and numbers, or numbers with gaps. -/
  | ambiguous
  deriving DecidableEq

/-- The word for a shape. -/
def Shape.word : Shape → String
  | .empty => "Empty"
  | .sequence => "Sequence"
  | .map => "Map"
  | .ambiguous => "Ambiguous"

/-- The key is a name. -/
def Key.isName : Key → Bool
  | .name _ => true
  | .index _ => false

namespace OrderedMap

variable {α β : Type}

/-- The greatest `n` for which all of `1, 2, … n` are keys. -/
def sequenceLength (t : OrderedMap Key α) : Nat :=
  ((List.range t.size).takeWhile fun (i : Nat) => t.contains (.index (i + 1))).length

/-- Reads the shape off the keys. Keys are distinct, so numbers `1, 2, … n` fill a table that has
`n` entries. -/
def shape (t : OrderedMap Key α) : Shape :=
  if t.entries.isEmpty then .empty
  else if t.keys.all Key.isName then .map
  else if ! t.keys.any Key.isName && t.sequenceLength == t.size then .sequence
  else .ambiguous

/-- The values of an empty table or a sequence, by index. -/
def sequence? (t : OrderedMap Key α) : Option (List α) :=
  match t.shape with
  | .empty => some []
  | .sequence => some ((List.range t.size).filterMap fun (i : Nat) => t.get? (.index (i + 1)))
  | _ => none

/-- The table with a function applied to each value. -/
def mapValues (f : α → β) (t : OrderedMap Key α) : OrderedMap Key β :=
  ⟨t.entries.map fun (k, v) => (k, f v)⟩

theorem keys_mapValues (f : α → β) (t : OrderedMap Key α) : (t.mapValues f).keys = t.keys := by
  simp [mapValues, keys, Function.comp_def]

theorem size_mapValues (f : α → β) (t : OrderedMap Key α) : (t.mapValues f).size = t.size := by
  simp [mapValues, size]

theorem get?_mapValues (f : α → β) (t : OrderedMap Key α) (k : Key) :
    (t.mapValues f).get? k = (t.get? k).map f := by
  simp [mapValues, get?, List.find?_map, Function.comp_def]

theorem sequenceLength_mapValues (f : α → β) (t : OrderedMap Key α) :
    (t.mapValues f).sequenceLength = t.sequenceLength := by
  simp only [sequenceLength, contains, keys_mapValues, size_mapValues]

/-- The keys alone decide about the shape. -/
theorem shape_mapValues (f : α → β) (t : OrderedMap Key α) : (t.mapValues f).shape = t.shape := by
  have hempty : (t.mapValues f).entries.isEmpty = t.entries.isEmpty := by simp [mapValues]
  simp only [shape, keys_mapValues, size_mapValues, sequenceLength_mapValues, hempty]

theorem sequence?_mapValues (f : α → β) (t : OrderedMap Key α) :
    (t.mapValues f).sequence? = t.sequence?.map (List.map f) := by
  unfold sequence?
  rw [shape_mapValues, size_mapValues]
  split
  · rfl
  · simp only [get?_mapValues, Option.map_some, List.map_filterMap]
  · rfl

end OrderedMap

namespace Table

/-- Assigns a value to a key; nil removes the entry. -/
def set (t : Table) (k : Key) (v : Value) : Table := if v.isNil then t.erase k else t.insert k v

/-- The value under a key; nil if there is none. -/
def get (t : Table) (k : Key) : Value := (t.get? k).getD .nil

/-- The value under a name. -/
def field (t : Table) (name : String) : Value := t.get (.name name)

/-- Assigns a value to the least positive number that is not a key. -/
def push (t : Table) (v : Value) : Table := t.set (.index (t.sequenceLength + 1)) v

/-- Values under consecutive numbers from `n + 1` on. -/
def numbered : Nat → List Value → List (Key × Value)
  | _, [] => []
  | n, v :: r => (.index (n + 1), v) :: numbered (n + 1) r

/-- The sequence of some values; nils are left out. -/
def ofSequence (vs : List Value) : Table := ⟨numbered 0 (vs.filter (! ·.isNil))⟩

/-- A sequence of strings. -/
def ofStrings (ss : List String) : Table := ofSequence (ss.map .string)

theorem get_set (t : Table) (k k' : Key) (v : Value) :
    (t.set k v).get k' = if k' = k then v else t.get k' := by
  unfold set get
  split
  · rename_i h
    rw [OrderedMap.get?_erase]
    split
    · cases v <;> simp_all [Value.isNil]
    · rfl
  · rw [OrderedMap.get?_insert]
    split <;> rfl

theorem nodup_set {t : Table} (h : t.keys.Nodup) (k : Key) (v : Value) :
    (t.set k v).keys.Nodup := by
  unfold set
  split
  · exact OrderedMap.nodup_erase h k
  · exact OrderedMap.nodup_insert h k v

end Table

end WebScript
