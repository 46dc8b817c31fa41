import WebScript.Tier

/-!
# Failures

Why an operation did not succeed, and how that is worded. A failure ends the script that meets
it, and the host answers the request with an error status.
-/

namespace WebScript

/-- Why an operation failed. Scripts raise failures of their own too, so the messages of most
kinds are free text. -/
inductive Failure where
  /-- The argument at `position`, counted from one, is not of the expected type. -/
  | argument (position : Nat) (expected message : String)
  /-- The method does not exist at this tier. -/
  | missingCapability (method : String) (tier : Tier)
  /-- No check has the name that was asked for. -/
  | unknownValidator (message : String)
  /-- Something outside the script went wrong: a file, an address, a form, the network. -/
  | host (message : String)
  /-- A table has no unambiguous reading as data. -/
  | ambiguousTable (message : String)
  /-- Something the operation needs was never provided. -/
  | notRegistered (what : String)
  /-- Settings or reference data could not be used. -/
  | config (message : String)
  deriving DecidableEq

namespace Failure

/-- A failure of the host with what was being done when it occurred. -/
def during (doing cause : String) : Failure := .host (doing ++ ": " ++ cause)

/-- What went wrong, in words. -/
def message : Failure → String
  | .argument _ _ m => m
  | .missingCapability method tier =>
    "method '" ++ method ++ "' is not available to " ++ tier.name ++ " scripts"
  | .unknownValidator m | .host m | .ambiguousTable m | .config m => m
  | .notRegistered what => what ++ " has not been registered"

/-- The kind of failure, in words. -/
def kind : Failure → String
  | .argument position expected _ =>
    "bad argument #" ++ toString position ++ " (expected " ++ expected ++ ")"
  | .missingCapability method tier =>
    "missing capability '" ++ method ++ "' for " ++ tier.name ++ " tier"
  | .unknownValidator _ => "unknown validator"
  | .host _ => "host operation failed"
  | .ambiguousTable _ => "ambiguous table"
  | .notRegistered _ => "not registered"
  | .config _ => "configuration error"

/-- Kind and message together. -/
def display (f : Failure) : String := f.kind ++ ": " ++ f.message

/-- The status with which the host answers a request whose script failed. -/
def status (_ : Failure) : Nat := 500

end Failure

/-- The result of an operation that may fail. -/
abbrev Result (α : Type) := Except Failure α

end WebScript
