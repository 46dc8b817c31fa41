import WebScript.Json
import WebScript.Json.Token

/-!
# Reading JSON

From the tokens of a text to the value it spells. The reader keeps the arrays and objects that
are still open on a stack, and may limit how many there are.

* `Source.parse?`: the tree that a text spells; numbers and strings may still have no value.
* `Json.parse?`: the value of a text, with at most 127 arrays and objects inside each other.
-/

namespace WebScript.Json

/-- A JSON value as it is spelled. -/
inductive Source where
  | null
  | bool (b : Bool)
  | number (n : NumberText)
  | string (s : Option String)
  | array (items : List Source)
  | object (members : List (Option String × Source))

/-- An array or an object that is still open, last item or member first. -/
inductive Frame where
  | array (items : List Source)
  | object (members : List (Option String × Source))

/-- What has to come next. -/
inductive Expected where
  | value
  | itemOrEnd
  | memberOrEnd
  | key
  | colon (key : Option String)
  | memberValue (key : Option String)
  | separator
  | nothing (result : Source)

/-- The reader between two tokens. -/
structure Reader where
  stack : List Frame
  expected : Expected

namespace Reader

/-- The value belongs to an array, to a member of an object, or is the result. -/
def place (key : Option String) (v : Source) : List Frame → Reader
  | [] => ⟨[], .nothing v⟩
  | .array items :: r => ⟨.array (v :: items) :: r, .separator⟩
  | .object members :: r => ⟨.object ((key, v) :: members) :: r, .separator⟩

/-- Closes the innermost array or object, which becomes a value itself; the key of the member
that it is the value of waits below it. -/
def close (v : Source) : List Frame → Reader
  | .object ((key, _) :: members) :: r => place key v (.object members :: r)
  | stack => place none v stack

/-- Begins a value: one that is no array or object is complete. -/
def begin (limit : Option Nat) (key : Option String) (stack : List Frame) (t : Token) :
    Option Reader :=
  let room := limit.all (stack.length < ·)
  let below := match stack with
    | .object members :: r => .object ((key, .null) :: members) :: r
    | stack => stack
  match t with
  | .null => some (place key .null stack)
  | .bool b => some (place key (.bool b) stack)
  | .number n => some (place key (.number n) stack)
  | .string s => some (place key (.string s) stack)
  | .openArray => if room then some ⟨.array [] :: below, .itemOrEnd⟩ else none
  | .openObject => if room then some ⟨.object [] :: below, .memberOrEnd⟩ else none
  | _ => none

/-- Takes in a token. -/
def step (limit : Option Nat) (s : Reader) (t : Token) : Option Reader :=
  match s.expected, t, s.stack with
  | .itemOrEnd, .closeArray, .array _ :: r => some (close (.array []) r)
  | .memberOrEnd, .closeObject, .object _ :: r => some (close (.object []) r)
  | .value, t, stack | .itemOrEnd, t, stack => begin limit none stack t
  | .memberValue key, t, stack => begin limit key stack t
  | .key, .string s, stack | .memberOrEnd, .string s, stack => some ⟨stack, .colon s⟩
  | .colon key, .colon, stack => some ⟨stack, .memberValue key⟩
  | .separator, .comma, .array items :: r => some ⟨.array items :: r, .value⟩
  | .separator, .comma, .object members :: r => some ⟨.object members :: r, .key⟩
  | .separator, .closeArray, .array items :: r => some (close (.array items.reverse) r)
  | .separator, .closeObject, .object members :: r => some (close (.object members.reverse) r)
  | _, _, _ => none

end Reader

/-- The tree that a text spells; `limit` bounds the arrays and objects inside each other. -/
def Source.parse? (limit : Option Nat) (cs : List Char) : Option Source := do
  let s ← (← tokens? cs).foldlM (Reader.step limit) ⟨[], .value⟩
  match s.expected with
  | .nothing v => some v
  | _ => none

namespace NumberText

/-- The whole number that is spelled, if there is neither a point nor an exponent; a negative
zero is none. -/
def integer? (n : NumberText) : Option Int :=
  let value := Number.ofDigits n.whole
  if n.fraction.isSome || n.exponent.isSome || (n.negative && value = 0) then none
  else some (Number.signed n.negative value)

/-- The digits of a number, as far as they fit into 64 bits, and the power of ten they stand at. -/
def significand (n : NumberText) : Nat × Int :=
  let fits := fun (m d : Nat) => 10 * m + d ≤ Number.uint64Max
  let digit := fun (c : Char) => c.toNat - '0'.toNat
  let (m, dropped, _) := n.whole.foldl
    (fun (m, dropped, full) c =>
      if ! full && fits m (digit c) then (10 * m + digit c, dropped, false)
      else (m, dropped + 1, true))
    (0, 0, false)
  let (m, places, _) := (n.fraction.getD []).foldl
    (fun (m, places, full) c =>
      if ! full && fits m (digit c) then (10 * m + digit c, places + 1, false)
      else (m, places, true))
    (m, 0, false)
  (m, (dropped : Int) - (places : Nat))

/-- The power of ten that the exponent adds. -/
def power (n : NumberText) : Int :=
  match n.exponent with
  | some (negative, ds) => Number.signed negative (Number.ofDigits ds)
  | none => 0

/-- A significand times a power of ten, both rounded to doubles; a small one takes two steps. -/
def scale (m : Nat) (k : Int) : Float :=
  let f := Float.ofNat m
  if m = 0 then 0
  else if 308 < k then Float.ofBits 0x7FF0000000000000
  else if 0 ≤ k then f * Number.ofDecimal 1 k
  else if -308 ≤ k then f / Number.ofDecimal 1 (-k)
  else if -616 ≤ k then f / Number.ofDecimal 1 308 / Number.ofDecimal 1 (-k - 308)
  else 0

/-- The double that is spelled, if it is not too large. -/
def real? (n : NumberText) : Option Float :=
  let (m, k) := n.significand
  let x := Number.withSign n.negative (scale m (k + n.power))
  if Number.isFinite x then some x else none

/-- The value of a number: a whole number of 64 bits, or a double. -/
def toJson? (n : NumberText) : Option Json :=
  match n.integer? with
  | some i =>
    if Number.int64Min ≤ i ∧ i ≤ Number.uint64Max then some (.integer i) else n.real?.map .real
  | none => n.real?.map .real

end NumberText

namespace Source

mutual

/-- The value that is spelled, if every number and every string in it has one. -/
def toJson? : Source → Option Json
  | .null => some .null
  | .bool b => some (.bool b)
  | .number n => n.toJson?
  | .string s => s.map .string
  | .array items => (itemsToJson? items).map .array
  | .object members => (membersToJson? members).map .object

/-- The values of items. -/
def itemsToJson? : List Source → Option (List Json)
  | [] => some []
  | v :: r => do return (← toJson? v) :: (← itemsToJson? r)

/-- The values of members. -/
def membersToJson? : List (Option String × Source) → Option (List (String × Json))
  | [] => some []
  | (k, v) :: r => do return (← k, ← toJson? v) :: (← membersToJson? r)

end

/-- The string that is spelled. -/
def string? : Source → Option String
  | .string s => s
  | _ => none

/-- The whole number that is spelled. -/
def integer? : Source → Option Int
  | .number n => n.integer?
  | _ => none

/-- The items of an array. -/
def array? : Source → Option (List Source)
  | .array items => some items
  | _ => none

/-- The values of some fields of a record, in order: the members of an object under these names,
of which none may stand twice, or the items of an array, which has at most as many. Other members
count for nothing, but their names have to be text. -/
def record? (names : List String) : Source → Option (List (Option Source))
  | .object members => do
    let members ← members.mapM fun (k, v) => k.map (·, v)
    names.mapM fun name =>
      match members.filter (·.1 = name) with
      | [] => some none
      | [(_, v)] => some (some v)
      | _ => none
  | .array items => if items.length ≤ names.length then
      some ((List.range names.length).map fun i => items[i]?) else none
  | _ => none

end Source

/-- The value of a text, if it is JSON and not nested too deep. -/
def parse? (text : String) : Option Json :=
  (Source.parse? (some 127) text.toList).bind Source.toJson?

end WebScript.Json
