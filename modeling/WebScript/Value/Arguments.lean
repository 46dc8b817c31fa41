import WebScript.Failure
import WebScript.Value.Table

/-!
# Arguments

The arguments of a call, by position from one; a missing argument is nil. A failure names the
position and the type that was expected, with a message of the operation's own.
-/

namespace WebScript.Arguments

variable (args : List Value) (position : Nat) (message : String)

/-- The argument at a position. -/
def nth : Value :=
  match position with
  | 0 => .nil
  | i + 1 => args[i]?.getD .nil

/-- An argument that has to be a string. -/
def string : Result String :=
  match nth args position with
  | .string s => .ok s
  | _ => .error (.argument position "string" message)

/-- An argument that has to be a table. -/
def table : Result Table :=
  match nth args position with
  | .table t => .ok t
  | _ => .error (.argument position "table" message)

/-- An argument that has to be a finite number, without its fraction. -/
def integer : Result Int :=
  match nth args position with
  | .number x => if Number.isFinite x then .ok (Number.toInt64 x)
    else .error (.argument position "number" message)
  | _ => .error (.argument position "number" message)

/-- A finite number or nothing. -/
def integer? : Result (Option Int) :=
  if (nth args position).isNil then .ok none else some <$> integer args position message

/-- A string or nothing. -/
def string? : Result (Option String) :=
  if (nth args position).isNil then .ok none else some <$> string args position message

/-- A table or nothing. -/
def table? : Result (Option Table) :=
  if (nth args position).isNil then .ok none else some <$> table args position message

end WebScript.Arguments
