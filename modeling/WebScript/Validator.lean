import WebScript.Check
import WebScript.Check.Word
import WebScript.Methods
import WebScript.Reference
import WebScript.Text.Escaped
import WebScript.Value.Arguments

/-!
# The validator

The object through which scripts check their input, against rules, against the reference data and
against one-time codes.

* `Question`: what can be asked, with the methods that ask it.
* `Validator.answer`, `Validator.call`: the answers.
-/

namespace WebScript

/-- Why a one-time code could not be confirmed. -/
inductive CodeFault where
  /-- It is the wrong one. -/
  | wrong
  /-- It could not be checked at all. -/
  | unusable (message : String)

/-- Checks a one-time code: secret, code, and how many time steps it may be off. -/
abbrev CodeVerifier := String → String → Nat → Except CodeFault Bool

/-- By what a record of the reference data is looked up. -/
inductive RecordKey where
  | id (n : Int)
  | name (s : String)

/-- What a script can ask a validator. -/
inductive Question where
  /-- Does the text pass the check with this name? -/
  | passes (check text : String)
  /-- What is left of a line without what is listed? -/
  | withoutListed (line listed : String)
  | escaped (text : String)
  | confirms (code secret : String)
  /-- Is there such a vocation, and a base vocation if one is asked for? -/
  | vocation (key : RecordKey) (base : Bool)
  | town (key : RecordKey)
  | gender (n : Int)
  | guildName (name : String)
  | guildRank (rank : String)
  | username (name : String)

namespace Question

/-- A number or a string that stands for a record. -/
def recordKey (args : List Value) (what : String) : Result RecordKey :=
  match Arguments.nth args 1 with
  | .number x => .ok (.id (Value.number x).toInteger)
  | .string s => .ok (.name s)
  | _ => .error (.argument 1 "number or string"
      ("Invalid " ++ what ++ " format. Expected number or string"))

/-- The text that several questions are about. -/
def subject (args : List Value) : Result String :=
  Arguments.string args 1 "Invalid string format. Expected string"

/-- The methods that ask the questions. -/
def methods : Methods Question :=
  [("validate", fun args => do
      let check ← Arguments.string args 1 "Invalid validator name"
      return .passes check (← Arguments.string args 2 "Invalid validator object")),
   ("blackList", fun args => do
      let line ← Arguments.string args 1 "Invalid object type. Expected string"
      return .withoutListed line
        (← Arguments.string args 2 "Invalid table of words. Expected string")),
   ("escape", fun args => .escaped <$> subject args),
   ("checkQRCode", fun args => do
      let code ← Arguments.string args 1 "Invalid token type. Expected string"
      return .confirms code (← Arguments.string args 2 "Invalid secret type. Expected string")),
   ("validVocation", fun args =>
      (.vocation · (Arguments.nth args 2).truthy) <$> recordKey args "vocation"),
   ("validTown", fun args => .town <$> recordKey args "town"),
   ("validGender", fun args =>
      .gender <$> Arguments.integer args 1 "Invalid gender type. Expected number"),
   ("validGuildName", fun args => .guildName <$> subject args),
   ("validGuildRank", fun args => .guildRank <$> subject args),
   ("validUsername", fun args => .username <$> subject args)]

end Question

/-- Removes every character that is listed. -/
def dropListed (line listed : String) : String :=
  String.ofList (line.toList.filter fun c => ! listed.toList.contains c)

/-- The object that answers questions: the data it knows, how it removes what is listed, how it
confirms one-time codes if it can, and the tier it serves. -/
structure Validator where
  reference : Reference
  withoutListed : String → String → String
  codes : Option CodeVerifier
  tier : Tier

namespace Validator

variable (v : Validator)

/-- How many time steps a one-time code may be off. -/
def codeWindow : Nat := 3

/-- Whether a one-time code is right. A wrong one is no failure. -/
def confirms (code secret : String) : Result Bool :=
  match v.codes with
  | none => .error (.notRegistered "one-time-code verifier")
  | some verify =>
    match verify secret code codeWindow with
    | .ok right => .ok right
    | .error .wrong => .ok false
    | .error (.unusable m) => .error (.during "Cannot authenticate token" m)

/-- The vocation that a key stands for. -/
def vocation? : RecordKey → Option Vocation
  | .id n => v.reference.vocationById? n
  | .name s => v.reference.vocationByName? s

/-- The town that a key stands for. -/
def town? : RecordKey → Option Town
  | .id n => v.reference.townById? n
  | .name s => v.reference.townByName? s

/-- The answer to a question. -/
def answer : Question → Result Value
  | .passes check text =>
    match Check.textCheck? check with
    | some f => .ok (.bool (f text))
    | none => .error (.unknownValidator ("Unknown validator name '" ++ check ++ "'"))
  | .withoutListed line listed => .ok (.string (v.withoutListed line listed))
  | .escaped text => .ok (.string (String.ofList (Text.Escaped.escape text.toList)))
  | .confirms code secret => .bool <$> v.confirms code secret
  | .vocation key base => .ok (.bool ((v.vocation? key).any fun voc => ! base || voc.isBase))
  | .town key => .ok (.bool (v.town? key).isSome)
  | .gender n => .ok (.bool (Check.isGender n))
  | .guildName name => .ok (.bool (Check.isGuildName name))
  | .guildRank rank => .ok (.bool (Check.isGuildRank rank))
  | .username name => .ok (.bool (Check.isUsername name))

/-- Answers a call. -/
def call (method : String) (args : List Value) : Result (List Value) := do
  let question ← Question.methods.read v.tier method args
  return [← v.answer question]

/-- A validator has no fields. -/
def field (_ : String) : Value := .nil

end Validator

end WebScript
