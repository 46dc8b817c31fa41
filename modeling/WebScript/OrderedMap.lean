/-!
# Maps that keep insertion order

A finite map as the list of its entries, oldest first. Writing an existing key changes its value
in place; a key erased and written again goes to the end.

* `get?_insert`, `get?_erase`: what a lookup sees after a write.
* `nodup_insert`, `nodup_erase`: keys stay distinct.
-/

namespace WebScript

/-- Entries in the order in which their keys came in. -/
structure OrderedMap (κ ν : Type) where
  entries : List (κ × ν)
  deriving DecidableEq

namespace OrderedMap

variable {κ ν μ : Type}

/-- The map without entries. -/
def empty : OrderedMap κ ν := ⟨[]⟩

instance : Inhabited (OrderedMap κ ν) := ⟨empty⟩

/-- The number of entries. -/
def size (m : OrderedMap κ ν) : Nat := m.entries.length

/-- The keys, oldest first. -/
def keys (m : OrderedMap κ ν) : List κ := m.entries.map (·.1)

theorem length_keys (m : OrderedMap κ ν) : m.keys.length = m.size := List.length_map _

variable [DecidableEq κ]

/-- The value under a key. -/
def get? (m : OrderedMap κ ν) (k : κ) : Option ν := (m.entries.find? (·.1 = k)).map (·.2)

/-- Whether there is an entry under the key. -/
def contains (m : OrderedMap κ ν) (k : κ) : Bool := m.keys.contains k

/-- Puts the value under the key into a list of entries, in place or at the end. -/
def insertEntry (k : κ) (v : ν) : List (κ × ν) → List (κ × ν)
  | [] => [(k, v)]
  | e :: r => if e.1 = k then (k, v) :: r else e :: insertEntry k v r

/-- Puts the value under the key: in place if the key is there, else at the end. -/
def insert (m : OrderedMap κ ν) (k : κ) (v : ν) : OrderedMap κ ν := ⟨insertEntry k v m.entries⟩

/-- Removes the entry under the key. -/
def erase (m : OrderedMap κ ν) (k : κ) : OrderedMap κ ν := ⟨m.entries.filter (·.1 ≠ k)⟩

theorem find?_insertEntry (k k' : κ) (v : ν) (es : List (κ × ν)) :
    (insertEntry k v es).find? (·.1 = k') =
      if k' = k then some (k, v) else es.find? (·.1 = k') := by
  induction es with
  | nil => grind [insertEntry]
  | cons e r ih => grind [insertEntry]

theorem get?_insert (m : OrderedMap κ ν) (k k' : κ) (v : ν) :
    (m.insert k v).get? k' = if k' = k then some v else m.get? k' := by
  simp only [get?, insert, find?_insertEntry]
  split <;> rfl

theorem get?_erase (m : OrderedMap κ ν) (k k' : κ) :
    (m.erase k).get? k' = if k' = k then none else m.get? k' := by
  obtain ⟨es⟩ := m
  simp only [get?, erase]
  induction es with
  | nil => simp
  | cons e r ih => grind

theorem keys_insertEntry (k : κ) (v : ν) (es : List (κ × ν)) :
    (insertEntry k v es).map (·.1) =
      if k ∈ es.map (·.1) then es.map (·.1) else es.map (·.1) ++ [k] := by
  induction es with
  | nil => simp [insertEntry]
  | cons e r ih =>
    by_cases he : e.1 = k
    · simp [insertEntry, he]
    · by_cases hr : k ∈ r.map (·.1) <;> simp_all [insertEntry, Ne.symm he]

/-- An insertion keeps the keys and adds a new one at the end. -/
theorem keys_insert (m : OrderedMap κ ν) (k : κ) (v : ν) :
    (m.insert k v).keys = if k ∈ m.keys then m.keys else m.keys ++ [k] :=
  keys_insertEntry k v m.entries

theorem keys_erase (m : OrderedMap κ ν) (k : κ) : (m.erase k).keys = m.keys.filter (· ≠ k) := by
  simp [keys, erase, List.filter_map]; rfl

theorem nodup_insert {m : OrderedMap κ ν} (h : m.keys.Nodup) (k : κ) (v : ν) :
    (m.insert k v).keys.Nodup := by
  rw [keys_insert]
  split
  · exact h
  · rename_i hk
    rw [List.nodup_append]
    exact ⟨h, by simp, by grind⟩

theorem nodup_erase {m : OrderedMap κ ν} (h : m.keys.Nodup) (k : κ) : (m.erase k).keys.Nodup := by
  rw [keys_erase]
  exact h.filter _

theorem mem_entries_insert {m : OrderedMap κ ν} {k : κ} {v : ν} {e : κ × ν}
    (h : e ∈ (m.insert k v).entries) : e = (k, v) ∨ e ∈ m.entries := by
  obtain ⟨es⟩ := m
  simp only [insert] at h ⊢
  induction es with
  | nil => simpa [insertEntry] using h
  | cons a r ih =>
    by_cases ha : a.1 = k <;> simp only [insertEntry, ha, if_true, if_false, List.mem_cons] at h ⊢
    · rcases h with h | h <;> simp [h]
    · rcases h with h | h
      · simp [h]
      · rcases ih h with h | h <;> simp [h]

end OrderedMap

end WebScript
