import WebScript.Failure
import WebScript.Text.Cut

/-!
# Network addresses

The host of a `host:port` or `[host]:port` address.
-/

namespace WebScript.Http

/-- What is wrong with an address. -/
inductive AddressFault where
  | missingPort
  | missingBracket
  | tooManyColons
  | unexpectedBracket
  deriving DecidableEq

/-- A fault of an address in words. -/
def AddressFault.message (address : String) (f : AddressFault) : String :=
  "address " ++ address ++ ": " ++
    match f with
    | .missingPort => "missing port in address"
    | .missingBracket => "missing ']'"
    | .tooManyColons => "too many colons in address"
    | .unexpectedBracket => "unexpected bracket"

/-- The host as it stands before the last colon: brackets, if it begins with one, have to close
right there, and without them it has no colon of its own. -/
def bareHost (cs front : List Char) : Except AddressFault (List Char) :=
  match cs with
  | '[' :: r =>
    match Text.cut (· = ']') r with
    | (_, none) => .error .missingBracket
    | (host, some _) => if host.length + 2 = front.length then .ok host else .error .missingPort
  | _ => if front.contains ':' then .error .tooManyColons else .ok front

/-- The host of an address. -/
def hostOf (cs : List Char) : Except AddressFault (List Char) :=
  match Text.cutLast (· = ':') cs with
  | none => .error .missingPort
  | some (front, port) => do
    let host ← bareHost cs front
    if host.contains '[' || host.contains ']' || port.contains ']' then .error .unexpectedBracket
    else .ok host

/-- The host of an address, or the failure to find one. -/
def splitHostPort (address : String) : Result String :=
  match hostOf address.toList with
  | .ok host => .ok (String.ofList host)
  | .error f => .error (.during "Cannot split host and port" (f.message address))

end WebScript.Http
