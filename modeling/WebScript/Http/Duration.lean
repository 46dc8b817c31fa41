import WebScript.Failure
import WebScript.Number.Reader
import WebScript.Text.Quoted

/-!
# Durations

Spans of time written as `300ms`, `1.5s` or `2h45m`: components of a decimal number and a unit,
with a sign in front that may be a plus, and a lone zero without a unit.

* `TimeUnit.ofSpelling?`: the units.
* `Component.nanoseconds`: the nanoseconds of a component, computed in 128 bits.
* `readDuration`: the nanoseconds a text stands for.
-/

namespace WebScript.Http

/-- A unit of time. -/
inductive TimeUnit where
  | nanosecond
  | microsecond
  | millisecond
  | second
  | minute
  | hour
  deriving DecidableEq

namespace TimeUnit

/-- The length of a unit in nanoseconds. -/
def nanoseconds : TimeUnit → Nat
  | .nanosecond => 1
  | .microsecond => 1000
  | .millisecond => 1000000
  | .second => 1000000000
  | .minute => 60000000000
  | .hour => 3600000000000

/-- The unit that a text spells; the micro sign is also written as the Greek letter mu. -/
def ofSpelling? (cs : List Char) : Option TimeUnit :=
  match cs with
  | ['n', 's'] => some .nanosecond
  | ['u', 's'] | ['\u00b5', 's'] | ['\u03bc', 's'] => some .microsecond
  | ['m', 's'] => some .millisecond
  | ['s'] => some .second
  | ['m'] => some .minute
  | ['h'] => some .hour
  | _ => none

end TimeUnit

/-- What is wrong with the text of a duration. -/
inductive DurationFault where
  | invalid
  /-- A product or a sum does not fit into the 128 bits that it is computed in. -/
  | overflow
  | missingUnit
  | unknownUnit (spelling : String)
  | negative
  deriving DecidableEq

/-- A fault of a duration in words. -/
def DurationFault.message (text : String) (f : DurationFault) : String :=
  let text := Text.Quoted.quote text
  match f with
  | .invalid | .overflow => "time: invalid duration " ++ text
  | .missingUnit => "time: missing unit in duration " ++ text
  | .unknownUnit spelling =>
    "time: unknown unit " ++ Text.Quoted.quote spelling ++ " in duration " ++ text
  | .negative => "time: negative duration " ++ text ++ " is not a timeout"

/-- The longest duration, in nanoseconds. -/
def maxDuration : Nat := 0x7FFFFFFFFFFFFFFF

/-- A decimal number of units: the digits before and after the point. -/
structure Component where
  whole : List Char
  fraction : List Char
  unit : TimeUnit

/-- The greatest number of 128 bits. -/
def max128 : Nat := 0xFFFFFFFFFFFFFFFFFFFFFFFFFFFFFFFF

/-- A product or a sum, if it fits into 128 bits. -/
def within128 (n : Nat) : Except DurationFault Nat :=
  if n ≤ max128 then .ok n else .error .overflow

/-- Adds digits after the point to a value. The first of them counts `scale / 10` and each next one a
tenth of that, rounded down, until that is nothing. -/
def addFraction (value scale : Nat) : List Char → Except DurationFault Nat
  | [] => .ok value
  | d :: r =>
    if scale / 10 = 0 then .ok value
    else do
      let part ← within128 ((d.toNat - '0'.toNat) * (scale / 10))
      addFraction (← within128 (value + part)) (scale / 10) r

/-- The nanoseconds of a component. A whole part that is too large by itself, with more digits than
128 bits hold or without, is refused before anything is computed of it. -/
def Component.nanoseconds (c : Component) : Except DurationFault Nat :=
  if maxDuration < Number.ofDigits c.whole then .error .invalid
  else do
    let value ← within128 (Number.ofDigits c.whole * c.unit.nanoseconds)
    addFraction value c.unit.nanoseconds c.fraction

/-- A total with a component added to it. -/
def addComponent (total : Nat) (c : Component) : Except DurationFault Nat := do
  let total ← within128 (total + (← c.nanoseconds))
  if maxDuration < total then .error .invalid else .ok total

/-- A unit ends where the next number begins. -/
def isUnitChar (c : Char) : Bool := c != '.' && ! c.isDigit

/-- The digits after a point, if there is one, and the rest. -/
def splitFraction : List Char → List Char × List Char
  | '.' :: r => Number.splitDigits r
  | r => ([], r)

/-- Reads one component off the front of a text. -/
def readComponent (cs : List Char) : Except DurationFault (Component × List Char) :=
  let (whole, r) := Number.splitDigits cs
  let (fraction, r) := splitFraction r
  if whole.isEmpty && fraction.isEmpty then .error .invalid
  else
    let spelling := r.takeWhile isUnitChar
    match TimeUnit.ofSpelling? spelling with
    | some unit => .ok (⟨whole, fraction, unit⟩, r.dropWhile isUnitChar)
    | none =>
      .error (if spelling.isEmpty then .missingUnit else .unknownUnit (String.ofList spelling))

theorem length_splitFraction_le (cs : List Char) :
    (splitFraction cs).1.length + (splitFraction cs).2.length ≤ cs.length := by
  unfold splitFraction
  split
  · rename_i r
    rw [← List.length_append, Number.splitDigits_append]
    simp
  · simp

/-- A component is not empty, so a shorter text remains. -/
theorem length_lt_of_readComponent {cs r : List Char} {c : Component}
    (h : readComponent cs = .ok (c, r)) : r.length < cs.length := by
  have h1 := congrArg List.length (Number.splitDigits_append cs)
  have h2 := length_splitFraction_le (Number.splitDigits cs).2
  have h3 := (List.dropWhile_sublist isUnitChar
    (l := (splitFraction (Number.splitDigits cs).2).2)).length_le
  rw [List.length_append] at h1
  simp only [readComponent] at h
  by_cases hd : ((Number.splitDigits cs).1.isEmpty &&
      (splitFraction (Number.splitDigits cs).2).1.isEmpty) = true
  · simp [hd] at h
  · have h4 : 0 < (Number.splitDigits cs).1.length +
        (splitFraction (Number.splitDigits cs).2).1.length := by
      rcases Nat.eq_zero_or_pos ((Number.splitDigits cs).1.length +
        (splitFraction (Number.splitDigits cs).2).1.length) with h0 | h0
      · refine absurd ?_ hd
        rw [List.length_eq_zero_iff.1 (Nat.eq_zero_of_add_eq_zero_right h0),
          List.length_eq_zero_iff.1 (Nat.eq_zero_of_add_eq_zero_left h0)]
        rfl
      · exact h0
    rw [if_neg hd] at h
    split at h
    · simp only [Except.ok.injEq, Prod.mk.injEq] at h
      rw [← h.2]
      omega
    · simp at h

/-- Adds the components of a text to a total. One that makes the total too large is refused where
it stands. -/
def addComponents (total : Nat) (cs : List Char) : Except DurationFault Nat :=
  if cs.isEmpty then .ok total
  else
    match _h : readComponent cs with
    | .error f => .error f
    | .ok (c, r) =>
      match addComponent total c with
      | .error f => .error f
      | .ok total => addComponents total r
termination_by cs.length
decreasing_by exact length_lt_of_readComponent (by assumption)

/-- The nanoseconds that a text stands for. -/
def durationOf (cs : List Char) : Except DurationFault Nat :=
  let (negative, r) := Number.splitSign cs
  if r = ['0'] then .ok 0
  else if r.isEmpty then .error .invalid
  else do
    let total ← addComponents 0 r
    if negative && total != 0 then .error .negative else .ok total

/-- The nanoseconds that a text stands for, or the failure to read it. -/
def readDuration (text : String) : Result Nat :=
  match durationOf text.toList with
  | .ok n => .ok n
  | .error f => .error (.host (f.message text))

end WebScript.Http
