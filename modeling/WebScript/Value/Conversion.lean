import WebScript.Failure
import WebScript.Form.Fields
import WebScript.Headers
import WebScript.Json
import WebScript.Value.Table

/-!
# Tables as data

Fields and headers as tables and back, and values as JSON. A table with both names and numbers,
or with gaps in its numbers, has no reading.

* `Table.ofFields`, `Table.toFields`: one value is a string, several are a sequence.
* `Value.toJson`, `Table.toJsonMembers`: values as JSON.
-/

namespace WebScript

/-- Why a table has no reading as data. -/
inductive TableFault where
  | indexKey (k : Key)
  | notScalars (name : String)
  | notScalar (name typeName : String)
  | mixedKeys
  | integerKeys
  | nonFinite
  | handle (kind : String)

/-- A fault in words. -/
def TableFault.message : TableFault → String
  | .indexKey k => "value set keys must be strings, found index " ++ k.display
  | .notScalars name => "entry '" ++ name ++ "' must be a sequence of scalars"
  | .notScalar name typeName => "entry '" ++ name ++ "' has non-scalar value of type " ++ typeName
  | .mixedKeys => "table mixes sequence and map keys"
  | .integerKeys => "table used as a map has integer keys"
  | .nonFinite => "non-finite number"
  | .handle kind => kind ++ " handle cannot be converted to data"

/-- The failure that a fault leads to. -/
def Failure.ofTableFault (f : TableFault) : Failure := .ambiguousTable f.message

namespace Table

/-- The values of one name: a string if there is one, else a sequence. -/
def ofValues : List String → Value
  | [s] => .string s
  | ss => .table (ofStrings ss)

/-- Fields as a table. -/
def ofFields (f : Fields) : Table :=
  f.toList.foldl (fun t e => t.set (.name e.1) (ofValues e.2)) .empty

/-- Headers as a table. -/
def ofHeaders (h : Headers) : Table := ofFields h.fields

/-- The text of a string, a number or a boolean. -/
def scalarText (name : String) (v : Value) : Except TableFault String :=
  match v with
  | .string _ | .number _ | .bool _ => .ok v.display
  | v => .error (.notScalar name v.typeName)

/-- The texts of an entry: one of a scalar, or those of a sequence of scalars. -/
def entryTexts (name : String) (v : Value) : Except TableFault (List String) :=
  match v with
  | .table t =>
    match t.sequence? with
    | some vs => vs.mapM (scalarText name)
    | none => .error (.notScalars name)
  | v => (fun s => [s]) <$> scalarText name v

/-- Adds the texts of an entry to fields. -/
def addEntry (f : Fields) (e : Key × Value) : Except TableFault Fields :=
  match e.1 with
  | .name name => (fun ss => ss.foldl (·.add name ·) f) <$> entryTexts name e.2
  | .index _ => .error (.indexKey e.1)

/-- A table as fields: every key is a name and every entry a scalar or a sequence of scalars. -/
def toFields (t : Table) : Except TableFault Fields := t.entries.foldlM addEntry .empty

end Table

namespace Value

/-- A finite number as JSON: whole if it is whole and below `9 · 10 ^ 15`. -/
def numberToJson (x : Float) : Except TableFault Json :=
  match Number.wholeBelow? (9 * Number.tenPow 15) x with
  | some n => .ok (.integer n)
  | none => if Number.isFinite x then .ok (.real x) else .error .nonFinite

/-- Puts what an entry is as JSON under its name, which every key has to be. -/
def addMember (ms : OrderedMap String Json) (e : Key × Except TableFault Json) :
    Except TableFault (OrderedMap String Json) :=
  match e.1 with
  | .name name => ms.insert name <$> e.2
  | .index _ => .error .integerKeys

/-- Names with JSON values, for a table of names whose entries all have a reading. -/
def members (t : OrderedMap Key (Except TableFault Json)) :
    Except TableFault (List (String × Json)) :=
  OrderedMap.entries <$> t.entries.foldlM addMember .empty

/-- A table as JSON, given what each of its entries is. -/
def arrange (t : OrderedMap Key (Except TableFault Json)) : Except TableFault Json :=
  match t.shape with
  | .empty | .map => .object <$> members t
  | .sequence => .array <$> (t.sequence?.getD []).mapM id
  | .ambiguous => .error .mixedKeys

mutual

/-- A value as JSON. The empty table is an object. -/
def toJson : Value → Except TableFault Json
  | .nil => .ok .null
  | .bool b => .ok (.bool b)
  | .number x => numberToJson x
  | .string s => .ok (.string s)
  | .table ⟨es⟩ => arrange ⟨entriesToJson es⟩
  | .handle h => .error (.handle h.kind)

/-- What each entry of a table is as JSON. -/
def entriesToJson : List (Key × Value) → List (Key × Except TableFault Json)
  | [] => []
  | (k, v) :: r => (k, toJson v) :: entriesToJson r

end

end Value

/-- A table of names as the members of a JSON object. -/
def Table.toJsonMembers (t : Table) : Except TableFault (List (String × Json)) :=
  Value.members ⟨Value.entriesToJson t.entries⟩

end WebScript
