import WebScript.Form.Fields
import WebScript.Text.Case

/-!
# Headers

Header fields: names with values, where a name is known by its canonical form, in upper case at
the start and after each hyphen and in lower case elsewhere.

* `canonicalName`: the canonical form of a name.
* `Headers`: fields addressed by canonical names.
-/

namespace WebScript

namespace Headers

/-- Writes a name in canonical form; `first` says that a word of it begins here. -/
def canonicalChars (first : Bool) (cs : List Char) : List Char :=
  ((first :: cs.map (· == '-')).zip cs).flatMap fun (first, c) =>
    if first then Text.Case.upper c else Text.Case.lower c

/-- The canonical form of a name. -/
def canonicalName (name : String) : String := String.ofList (canonicalChars true name.toList)

end Headers

/-- Header fields under canonical names. -/
structure Headers where
  fields : Fields
  deriving DecidableEq

namespace Headers

/-- No headers. -/
def empty : Headers := ⟨.empty⟩

instance : Inhabited Headers := ⟨empty⟩

/-- Adds an occurrence of a header. -/
def add (h : Headers) (name value : String) : Headers := ⟨h.fields.add (canonicalName name) value⟩

/-- Replaces every occurrence of a header by one. -/
def set (h : Headers) (name value : String) : Headers := ⟨h.fields.set (canonicalName name) value⟩

/-- Removes a header. -/
def remove (h : Headers) (name : String) : Headers := ⟨h.fields.remove (canonicalName name)⟩

/-- All occurrences of a header. -/
def getAll (h : Headers) (name : String) : List String := h.fields.getAll (canonicalName name)

/-- The first occurrence of a header, or nothing at all. -/
def get (h : Headers) (name : String) : String := (h.getAll name).head?.getD ""

/-- The header occurs. -/
def contains (h : Headers) (name : String) : Bool := ! (h.getAll name).isEmpty

/-- Adds the pairs in order. -/
def ofPairs (ps : List (String × String)) : Headers := ps.foldl (fun h p => h.add p.1 p.2) empty

end Headers

end WebScript
