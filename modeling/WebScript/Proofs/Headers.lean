import WebScript.Headers

/-!
# Headers by name

* `Headers.getAll_set`, `Headers.getAll_add`: what a change of one header does to all of them.
* `Headers.getAll_ofPairs`: **a header has the values that were given under its name**, in order.
-/

namespace WebScript.Headers

theorem canonicalName_contentType : canonicalName "Content-Type" = "Content-Type" := by decide

theorem canonicalName_contentDisposition :
    canonicalName "Content-Disposition" = "Content-Disposition" := by decide

theorem getAll_set (h : Headers) (name name' value : String) :
    (h.set name value).getAll name' =
      if canonicalName name' = canonicalName name then [value] else h.getAll name' :=
  Fields.getAll_set ..

theorem getAll_add (h : Headers) (name name' value : String) :
    (h.add name value).getAll name' =
      if canonicalName name' = canonicalName name then h.getAll name ++ [value]
      else h.getAll name' :=
  Fields.getAll_add ..

theorem get_set (h : Headers) (name value : String) : (h.set name value).get name = value := by
  rw [get, getAll_set, if_pos rfl]
  rfl

/-- **A header has the values that were given under its name**, in order. -/
theorem getAll_ofPairs (ps : List (String × String)) (name : String) :
    (ofPairs ps).getAll name =
      (ps.filter fun p => canonicalName p.1 = canonicalName name).map (·.2) := by
  have hfold (h : Headers) : (ps.foldl (fun h p => h.add p.1 p.2) h).getAll name =
      h.getAll name ++ (ps.filter fun p => canonicalName p.1 = canonicalName name).map (·.2) := by
    induction ps generalizing h with
    | nil => simp
    | cons p ps ih =>
      rw [List.foldl_cons, ih, getAll_add]
      by_cases hp : canonicalName p.1 = canonicalName name
      · have hall : h.getAll p.1 = h.getAll name := by rw [getAll, hp, getAll]
        rw [if_pos hp.symm, hall, List.filter_cons_of_pos (by simpa using hp)]
        simp
      · rw [if_neg (Ne.symm hp), List.filter_cons_of_neg (by simpa using hp)]
  exact hfold empty

/-- A header that is asked for is the first that was given under its name. -/
theorem get_ofPairs (ps : List (String × String)) (name : String) :
    (ofPairs ps).get name =
      ((ps.find? fun p => canonicalName p.1 = canonicalName name).map (·.2)).getD "" := by
  rw [get, getAll_ofPairs, List.head?_map, List.head?_filter]

end WebScript.Headers
