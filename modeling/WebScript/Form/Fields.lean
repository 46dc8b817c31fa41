import WebScript.OrderedMap

/-!
# Fields

Names with one or more values each, as in a query, a form or a header: names keep the order in
which they came in, and so do the values of each name.

* `Fields`: the type; no name stands twice and none is without a value.
* `add`, `set`, `remove`: the operations.
-/

namespace WebScript

/-- Names with their values. -/
structure Fields where
  entries : OrderedMap String (List String)
  distinct : entries.keys.Nodup
  valued : ∀ e ∈ entries.entries, e.2 ≠ []
  deriving DecidableEq

namespace Fields

/-- No names. -/
def empty : Fields :=
  ⟨.empty, by simp [OrderedMap.keys, OrderedMap.empty], by simp [OrderedMap.empty]⟩

instance : Inhabited Fields := ⟨empty⟩

/-- All values of a name. -/
def getAll (f : Fields) (name : String) : List String := (f.entries.get? name).getD []

/-- The first value of a name. -/
def get? (f : Fields) (name : String) : Option String := (f.getAll name).head?

/-- The name has a value. -/
def contains (f : Fields) (name : String) : Bool := ! (f.getAll name).isEmpty

/-- The number of names. -/
def size (f : Fields) : Nat := f.entries.size

/-- The names with their values, in order. -/
def toList (f : Fields) : List (String × List String) := f.entries.entries

/-- Puts a list of values, not empty, under a name. -/
def put (f : Fields) (name : String) (values : List String) (h : values ≠ []) : Fields where
  entries := f.entries.insert name values
  distinct := OrderedMap.nodup_insert f.distinct name values
  valued e he := by
    rcases OrderedMap.mem_entries_insert he with rfl | he
    · exact h
    · exact f.valued e he

/-- Adds a value to a name. -/
def add (f : Fields) (name value : String) : Fields :=
  f.put name (f.getAll name ++ [value]) (by simp)

/-- Replaces the values of a name by one. -/
def set (f : Fields) (name value : String) : Fields := f.put name [value] (by simp)

/-- Removes a name. -/
def remove (f : Fields) (name : String) : Fields where
  entries := f.entries.erase name
  distinct := OrderedMap.nodup_erase f.distinct name
  valued e he := f.valued e (List.mem_filter.1 he).1

/-- Adds the pairs in order. -/
def ofPairs (ps : List (String × String)) : Fields := ps.foldl (fun f p => f.add p.1 p.2) empty

/-- Every value with its name, names in order. -/
def toPairs (f : Fields) : List (String × String) :=
  f.toList.flatMap fun e => e.2.map (e.1, ·)

theorem getAll_put (f : Fields) (name name' : String) (values : List String) (h : values ≠ []) :
    (f.put name values h).getAll name' = if name' = name then values else f.getAll name' := by
  simp only [getAll, put, OrderedMap.get?_insert]
  split <;> rfl

theorem getAll_add (f : Fields) (name name' value : String) :
    (f.add name value).getAll name' =
      if name' = name then f.getAll name ++ [value] else f.getAll name' :=
  getAll_put ..

theorem getAll_set (f : Fields) (name name' value : String) :
    (f.set name value).getAll name' = if name' = name then [value] else f.getAll name' :=
  getAll_put ..

theorem getAll_remove (f : Fields) (name name' : String) :
    (f.remove name).getAll name' = if name' = name then [] else f.getAll name' := by
  simp only [getAll, remove, OrderedMap.get?_erase]
  split <;> rfl

end Fields

end WebScript
