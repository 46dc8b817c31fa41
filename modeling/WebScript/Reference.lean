import WebScript.Failure
import WebScript.Json.Source

/-!
# Reference data

The vocations and towns of the game, which checks look up by name or by number.

* `Reference`: the data; no two vocations and no two towns have one name.
* `Vocation.listOf`, `Town.listOf`: reading the data files.
-/

namespace WebScript

/-- A vocation and the one it derives from. -/
structure Vocation where
  id : Int
  name : String
  description : String
  source : Int
  deriving DecidableEq

/-- A base vocation derives from itself. -/
def Vocation.isBase (v : Vocation) : Bool := v.source == v.id

/-- A town. -/
structure Town where
  id : Nat
  name : String
  deriving DecidableEq

/-- The first name that stands for a second time. -/
def repeated? (seen : List String) : List String → Option String
  | [] => none
  | name :: r => if name ∈ seen then some name else repeated? (name :: seen) r

theorem repeated?_eq_none {seen names : List String} (h : repeated? seen names = none) :
    names.Nodup ∧ ∀ name ∈ names, name ∉ seen := by
  induction names generalizing seen with
  | nil => simp
  | cons a r ih =>
    simp only [repeated?] at h
    split at h
    · simp at h
    · rename_i ha
      obtain ⟨h1, h2⟩ := ih h
      grind

/-- The failure that a repeated name leads to. -/
def duplicate (what name : String) : Failure :=
  .config ("duplicate " ++ what ++ " name '" ++ name ++ "'")

/-- Vocations and towns, in the order in which they were loaded. -/
structure Reference where
  vocations : List Vocation
  towns : List Town
  distinctVocations : (vocations.map (·.name)).Nodup
  distinctTowns : (towns.map (·.name)).Nodup

namespace Reference

/-- No vocations and no towns. -/
def empty : Reference := ⟨[], [], by simp, by simp⟩

/-- The data, unless two vocations or two towns have one name. -/
def of (vocations : List Vocation) (towns : List Town) : Result Reference :=
  match hv : repeated? [] (vocations.map (·.name)) with
  | some name => .error (duplicate "vocation" name)
  | none =>
    match ht : repeated? [] (towns.map (·.name)) with
    | some name => .error (duplicate "town" name)
    | none => .ok ⟨vocations, towns, (repeated?_eq_none hv).1, (repeated?_eq_none ht).1⟩

variable (r : Reference)

/-- The first vocation with a number. -/
def vocationById? (id : Int) : Option Vocation := r.vocations.find? (·.id = id)

/-- The vocation with a name. -/
def vocationByName? (name : String) : Option Vocation := r.vocations.find? (·.name = name)

/-- The first town with a number; no town has a negative one. -/
def townById? (id : Int) : Option Town := r.towns.find? fun t => (t.id : Int) = id

/-- The town with a name. -/
def townByName? (name : String) : Option Town := r.towns.find? (·.name = name)

end Reference

namespace Vocation

/-- A whole number of 64 bits. -/
def number? (s : Json.Source) : Option Int := s.integer?.filter Number.fitsInt64

/-- Reads a vocation; only the description may be missing. -/
def ofSource? (s : Json.Source) : Option Vocation :=
  match s.record? ["id", "name", "description", "fromvoc"] with
  | some [some id, some name, description, some source] => do
    let description ← match description with
      | some d => d.string?
      | none => some ""
    return ⟨← number? id, ← name.string?, description, ← number? source⟩
  | _ => none

/-- Reads a document of vocations. -/
def listOf (text : String) : Result (List Vocation) :=
  let read := do
    match ← (← Json.Source.parse? none text.toList).record? ["vocations"] with
    | [some vocations] => (← vocations.array?).mapM ofSource?
    | _ => none
  match read with
  | none => .error (.config "vocations")
  | some vocations =>
    match repeated? [] (vocations.map (·.name)) with
    | some name => .error (duplicate "vocation" name)
    | none => .ok vocations

end Vocation

namespace Town

/-- Reads a town; its number has 32 bits. -/
def ofSource? (s : Json.Source) : Option Town :=
  match s.record? ["id", "name"] with
  | some [some id, some name] => do
    let n ← id.integer?
    if 0 ≤ n ∧ n < 0x100000000 then return ⟨n.toNat, ← name.string?⟩ else none
  | _ => none

/-- Reads a document of towns. -/
def listOf (text : String) : Result (List Town) :=
  let read := do
    match ← (← Json.Source.parse? none text.toList).record? ["towns"] with
    | [some towns] => (← towns.array?).mapM ofSource?
    | _ => none
  match read with
  | none => .error (.config "towns")
  | some towns =>
    match repeated? [] (towns.map (·.name)) with
    | some name => .error (duplicate "town" name)
    | none => .ok towns

end Town

end WebScript
