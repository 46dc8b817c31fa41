import WebScript.Number.Reader
import WebScript.OrderedMap
import WebScript.Secret
import WebScript.Text.Blank
import WebScript.Upload

/-!
# Script values

The values that scripts pass in and get back, and the loose conversions that scripts may rely on.

* `Value`: nil, booleans, numbers, strings, tables, and handles to things of the host.
* `Value.display`: the text of a value.
* `Value.toInteger`: the number a value is read as where any value will do.
-/

namespace WebScript

/-- The key of a table entry: a whole number or a name. -/
inductive Key where
  | index (i : Int)
  | name (s : String)
  deriving DecidableEq

namespace Key

/-- The text of a key. -/
def display : Key → String
  | .index i => toString i
  | .name s => s

/-- Numbers before names, numbers by size, names by their characters. -/
def le : Key → Key → Bool
  | .index i, .index j => i ≤ j
  | .index _, .name _ => true
  | .name _, .index _ => false
  | .name s, .name t => ! (t < s)

end Key

/-- Something of the host that a script can hold and hand back, but not look into. -/
inductive Handle where
  | request
  | responseWriter
  | session (s : Session)
  | file (f : Upload)
  deriving DecidableEq

/-- What a handle stands for, in a word. -/
def Handle.kind : Handle → String
  | .request => "request"
  | .responseWriter => "responseWriter"
  | .session _ => "session"
  | .file _ => "file"

/-- A value of a script. A table keeps its entries in order and never holds nil. -/
inductive Value where
  | nil
  | bool (b : Bool)
  | number (x : Float)
  | string (s : String)
  | table (t : OrderedMap Key Value)
  | handle (h : Handle)
  deriving Inhabited

/-- A table of script values. -/
abbrev Table := OrderedMap Key Value

namespace Value

/-- The name of the type of a value. -/
def typeName : Value → String
  | .nil => "nil"
  | .bool _ => "boolean"
  | .number _ => "number"
  | .string _ => "string"
  | .table _ => "table"
  | .handle _ => "userdata"

/-- The value is nil. -/
def isNil : Value → Bool
  | .nil => true
  | _ => false

/-- Only nil and false count as false. -/
def truthy : Value → Bool
  | .nil | .bool false => false
  | _ => true

/-- The string that a value is. -/
def string? : Value → Option String
  | .string s => some s
  | _ => none

/-- The number that a value is. -/
def number? : Value → Option Float
  | .number x => some x
  | _ => none

/-- The table that a value is. -/
def table? : Value → Option Table
  | .table t => some t
  | _ => none

/-- A whole number as a value. -/
def ofInt (n : Int) : Value :=
  .number (Number.withSign (n < 0) (Number.ofDecimal n.natAbs 0))

/-- An absent string is nil. -/
def ofString? : Option String → Value
  | some s => .string s
  | none => .nil

/-- The text of a number: without a point if it is whole and below `10 ^ 15`. -/
def displayNumber (x : Float) : String :=
  match Number.wholeBelow? (Number.tenPow 15) x with
  | some n => toString n
  | none => Number.display x

/-- The text of a value. -/
def display : Value → String
  | .nil => "nil"
  | .bool b => if b then "true" else "false"
  | .number x => displayNumber x
  | .string s => s
  | .table _ => "table"
  | .handle h => "userdata: " ++ h.kind

/-- The whole number that a value is read as: a number, or the number a string spells, without
its fraction; anything else, NaN and an infinity among it, is zero. A string may spell an
infinity, which is the number farthest out. -/
def toInteger : Value → Int
  | .number x => if Number.isFinite x then Number.toInt64 x else 0
  | .string s => ((Number.read? (Text.trim s.toList)).map Number.toInt64).getD 0
  | _ => 0

/-- The text that a field of a settings table is read as: strings and numbers have one, all else
is empty. -/
def looseText : Value → String
  | .string s => s
  | .number x => displayNumber x
  | _ => ""

end Value

end WebScript
