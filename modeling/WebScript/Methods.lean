import WebScript.Failure
import WebScript.Value

/-!
# Methods

What scripts call an object by: the names of its methods, each with a reader that checks the
arguments of a call and says what is asked for. Nothing happens before the arguments are read.
-/

namespace WebScript

/-- The methods of an object, in the order in which they are listed. -/
abbrev Methods (α : Type) := List (String × (List Value → Result α))

namespace Methods

variable {α : Type}

/-- The names of the methods. -/
def names (ms : Methods α) : List String := ms.map (·.1)

/-- Reads a call. A method that is not there is one that the tier lacks. -/
def read (ms : Methods α) (tier : Tier) (method : String) (args : List Value) : Result α :=
  match ms.lookup method with
  | some reader => reader args
  | none => .error (.missingCapability method tier)

end Methods

end WebScript
