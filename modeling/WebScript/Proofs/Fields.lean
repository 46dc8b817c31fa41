import WebScript.Form.Fields
import WebScript.Proofs.OrderedMap

/-!
# Fields built up

* `Fields.foldl_add`: values that are added to a name stand behind those it has.
* `Fields.foldl_toList`: **fields are what adding all their values to none gives**, in order.
* `Fields.ofPairs_toPairs`: the same, pair by pair.
-/

namespace WebScript

namespace Fields

variable {f : Fields} {name : String}

theorem ext_toList {f g : Fields} (h : f.toList = g.toList) : f = g := by
  obtain ⟨⟨es⟩, _, _⟩ := f
  obtain ⟨⟨es'⟩, _, _⟩ := g
  cases h
  rfl

theorem getAll_of_not_mem (h : name ∉ f.entries.keys) : f.getAll name = [] := by
  rw [getAll, OrderedMap.get?_of_not_mem h, Option.getD_none]

theorem mem_keys_iff : name ∈ f.entries.keys ↔ f.getAll name ≠ [] := by
  rw [OrderedMap.mem_keys_iff, getAll]
  cases hv : f.entries.get? name with
  | none => simp
  | some vs => simpa using f.valued _ (OrderedMap.mem_entries_of_get? hv)

/-- A name that is listed has the values with which it is. -/
theorem getAll_of_mem_toList {e : String × List String} (h : e ∈ f.toList) :
    f.getAll e.1 = e.2 := by
  rw [getAll, (OrderedMap.get?_eq_some_iff f.distinct).2 h, Option.getD_some]

theorem put_put (f : Fields) (name : String) {vs ws : List String} (hv : vs ≠ []) (hw : ws ≠ []) :
    (f.put name vs hv).put name ws hw = f.put name ws hw :=
  ext_toList (congrArg OrderedMap.entries OrderedMap.insert_insert)

/-- Putting the values that a name has changes nothing. -/
theorem put_getAll (f : Fields) (name : String) (h : f.getAll name ≠ []) :
    f.put name (f.getAll name) h = f := by
  cases hg : f.entries.get? name with
  | none =>
    rw [getAll, hg] at h
    exact absurd rfl h
  | some vs =>
    have hvs : f.getAll name = vs := by rw [getAll, hg, Option.getD_some]
    refine ext_toList ?_
    change (f.entries.insert name (f.getAll name)).entries = f.entries.entries
    rw [hvs, OrderedMap.insert_of_get? hg]

/-- **Values that are added to a name stand behind those it has.** -/
theorem foldl_add (f : Fields) (name : String) {vs : List String} (h : f.getAll name ++ vs ≠ []) :
    vs.foldl (·.add name ·) f = f.put name (f.getAll name ++ vs) h := by
  induction vs generalizing f with
  | nil =>
    simp only [List.append_nil] at h ⊢
    exact (f.put_getAll name h).symm
  | cons v vs ih =>
    have hall : (f.add name v).getAll name = f.getAll name ++ [v] := by
      rw [getAll_add, if_pos rfl]
    have hne : (f.add name v).getAll name ++ vs ≠ [] := by simp [hall]
    rw [List.foldl_cons, ih (f.add name v) hne]
    simp only [hall, List.append_assoc, List.singleton_append]
    exact f.put_put name _ _

theorem toList_put_of_not_mem {vs : List String} (hn : name ∉ f.entries.keys) (h : vs ≠ []) :
    (f.put name vs h).toList = f.toList ++ [(name, vs)] :=
  OrderedMap.entries_insert_of_not_mem hn

/-- Names that are not there yet come behind those that are, each with its values. -/
theorem toList_foldl_add {es : List (String × List String)} (f : Fields)
    (hn : (f.entries.keys ++ es.map (·.1)).Nodup) (hv : ∀ e ∈ es, e.2 ≠ []) :
    (es.foldl (fun g e => e.2.foldl (·.add e.1 ·) g) f).toList = f.toList ++ es := by
  induction es generalizing f with
  | nil => exact (List.append_nil _).symm
  | cons e es ih =>
    have hne : e.2 ≠ [] := hv e List.mem_cons_self
    obtain ⟨hnew, hrest⟩ := OrderedMap.nodup_insert_append hn
    have hput : e.2.foldl (·.add e.1 ·) f = f.put e.1 e.2 hne := by
      have hnil : f.getAll e.1 = [] := getAll_of_not_mem hnew
      rw [f.foldl_add e.1 (by simpa [hnil] using hne)]
      simp only [hnil, List.nil_append]
    rw [List.foldl_cons, hput, ih _ hrest fun q hq => hv q (List.mem_cons_of_mem e hq),
      toList_put_of_not_mem hnew, List.append_assoc]
    rfl

/-- **Fields are what adding all their values to none gives.** Neither the order of the names nor
that of the values of a name is lost. -/
theorem foldl_toList (f : Fields) :
    f.toList.foldl (fun g e => e.2.foldl (·.add e.1 ·) g) empty = f :=
  ext_toList (toList_foldl_add empty f.distinct f.valued)

/-- The values of fields, each with its name, are enough to tell the fields. -/
theorem ofPairs_toPairs (f : Fields) : ofPairs f.toPairs = f := by
  rw [ofPairs, toPairs, List.foldl_flatMap]
  simp only [List.foldl_map]
  exact f.foldl_toList

end Fields

end WebScript
