import WebScript.Operation
import WebScript.Validator

/-!
# Reading calls

A call is read before anything happens: the method is looked up, then the arguments are checked.

* `Methods.read_of_mem`, `Methods.read_of_not_mem`: a method that is listed is read by its reader,
  and any other is one that the tier lacks.
* `Operation.methods_ends`, `Question.methods_ends`: **a reader finds fault with an argument and
  with nothing else**, and a method of a script asks for the operation it is named for.
-/

namespace WebScript

namespace Result

variable {α β : Type} {P P' : Failure → Prop} {Q Q' : α → Prop} {R : β → Prop}

/-- A value of the result satisfies `Q`, and a failure satisfies `P`. -/
inductive Ends (P : Failure → Prop) (Q : α → Prop) : Result α → Prop
  | ok {a : α} : Q a → Ends P Q (.ok a)
  | error {f : Failure} : P f → Ends P Q (.error f)

theorem Ends.of_ok {a : α} (h : Ends P Q (.ok a)) : Q a := by
  cases h with
  | ok ha => exact ha

theorem Ends.of_error {f : Failure} (h : Ends P Q (.error f)) : P f := by
  cases h with
  | error hf => exact hf

theorem Ends.bind {r : Result α} {g : α → Result β} (hr : Ends P Q r)
    (hg : ∀ a, Q a → Ends P R (g a)) : Ends P R (r >>= g) := by
  cases hr with
  | ok ha => exact hg _ ha
  | error hf => exact .error hf

theorem Ends.map {r : Result α} {g : α → β} (hr : Ends P Q r) (hg : ∀ a, Q a → R (g a)) :
    Ends P R (g <$> r) := by
  cases hr with
  | ok ha => exact .ok (hg _ ha)
  | error hf => exact .error hf

theorem Ends.mono {r : Result α} (hP : ∀ f, P f → P' f) (hQ : ∀ a, Q a → Q' a)
    (hr : Ends P Q r) : Ends P' Q' r := by
  cases hr with
  | ok ha => exact .ok (hQ _ ha)
  | error hf => exact .error (hP _ hf)

end Result

open Result

namespace Failure

/-- The failure is about an argument of a call. -/
def IsArgument (f : Failure) : Prop :=
  ∃ position expected message, f = .argument position expected message

/-- The failure is about a method that a tier lacks. -/
def isMissing : Failure → Bool
  | .missingCapability _ _ => true
  | _ => false

theorem IsArgument.isMissing_eq_false {f : Failure} (h : f.IsArgument) : f.isMissing = false := by
  obtain ⟨position, expected, message, rfl⟩ := h
  rfl

end Failure

open Failure

namespace Arguments

variable (args : List Value) (position : Nat) (message : String)

theorem string_ends : Ends IsArgument (fun _ => True) (string args position message) := by
  unfold string
  split
  · exact .ok trivial
  · exact .error ⟨_, _, _, rfl⟩

theorem table_ends : Ends IsArgument (fun _ => True) (table args position message) := by
  unfold table
  split
  · exact .ok trivial
  · exact .error ⟨_, _, _, rfl⟩

theorem integer_ends : Ends IsArgument (fun _ => True) (integer args position message) := by
  unfold integer
  split
  · split
    · exact .ok trivial
    · exact .error ⟨_, _, _, rfl⟩
  · exact .error ⟨_, _, _, rfl⟩

theorem integer?_ends : Ends IsArgument (fun _ => True) (integer? args position message) := by
  unfold integer?
  split
  · exact .ok trivial
  · exact (integer_ends args position message).map fun _ _ => trivial

theorem string?_ends : Ends IsArgument (fun _ => True) (string? args position message) := by
  unfold string?
  split
  · exact .ok trivial
  · exact (string_ends args position message).map fun _ _ => trivial

theorem table?_ends : Ends IsArgument (fun _ => True) (table? args position message) := by
  unfold table?
  split
  · exact .ok trivial
  · exact (table_ends args position message).map fun _ _ => trivial

end Arguments

namespace Methods

variable {α : Type} {ms : Methods α} {method : String}

/-- A method that is not listed is one that the tier lacks. -/
theorem read_of_not_mem (h : method ∉ ms.names) (tier : Tier) (args : List Value) :
    ms.read tier method args = .error (.missingCapability method tier) := by
  have hl : ms.lookup method = none := by
    rw [List.lookup_eq_none_iff]
    intro e he
    rw [bne_iff_ne]
    rintro rfl
    exact h (List.mem_map_of_mem he)
  rw [read, hl]

/-- A method that is listed has a reader. -/
theorem exists_lookup (h : method ∈ ms.names) : ∃ reader, ms.lookup method = some reader := by
  cases hl : ms.lookup method with
  | none =>
    rw [List.lookup_eq_none_iff] at hl
    obtain ⟨e, he, rfl⟩ := List.mem_map.1 h
    simpa using hl e he
  | some reader => exact ⟨reader, rfl⟩

/-- A method that is listed is read by a reader listed under its name. -/
theorem read_of_mem (h : method ∈ ms.names) (tier : Tier) (args : List Value) :
    ∃ reader, (method, reader) ∈ ms ∧ ms.read tier method args = reader args := by
  obtain ⟨reader, hl⟩ := exists_lookup h
  obtain ⟨front, back, hms, -⟩ := List.lookup_eq_some_iff.1 hl
  refine ⟨reader, ?_, by rw [read, hl]⟩
  rw [hms]
  exact List.mem_append_right _ List.mem_cons_self

theorem read_ends {P : Failure → Prop} {Q : α → Prop} (h : method ∈ ms.names) (tier : Tier)
    {args : List Value} (hms : ∀ reader, (method, reader) ∈ ms → Ends P Q (reader args)) :
    Ends P Q (ms.read tier method args) := by
  obtain ⟨reader, hm, hr⟩ := read_of_mem h tier args
  rw [hr]
  exact hms reader hm

end Methods

/-- The methods that the object of a tier lists. -/
def Tier.listed : Tier → List String
  | .full => ["getCookie", "setCookie", "parseMultiPartForm", "getFormFile", "write", "render",
      "redirect", "serveFile", "getHeader", "setHeader", "getRemoteAddress", "getRelativeURL",
      "get", "postForm", "request"]
  | .regular => ["getCookie", "setCookie", "parseMultiPartForm", "getFormFile", "write", "render",
      "redirect", "serveFile", "getHeader", "setHeader", "getRemoteAddress", "getRelativeURL"]
  | .widget => []

/-- The methods that a validator lists. -/
def Validator.listed : List String :=
  ["validate", "blackList", "escape", "checkQRCode", "validVocation", "validTown", "validGender",
    "validGuildName", "validGuildRank", "validUsername"]

namespace Operation

/-- What is listed is what can be read. -/
theorem names_methods (tier : Tier) : (methods tier).names = tier.listed := by
  cases tier <;> rfl

/-- A method that pages and event hooks have in common is read by the reader it is listed with. -/
theorem read_shared {tier : Tier} (ht : tier ≠ .widget) (method : String)
    {reader : List Value → Result Operation} (hm : sharedMethods.lookup method = some reader)
    (args : List Value) : (methods tier).read tier method args = reader args := by
  have hl : (methods tier).lookup method = some reader := by
    cases tier with
    | widget => exact absurd rfl ht
    | regular => exact hm
    | full =>
      rw [methods, List.lookup_append, hm]
      rfl
  rw [Methods.read, hl]

/-- The name of the method that asks for an operation. -/
def method : Operation → String
  | .getCookie _ => "getCookie"
  | .setCookie _ _ _ => "setCookie"
  | .parseForm _ => "parseMultiPartForm"
  | .getFile _ => "getFormFile"
  | .write _ => "write"
  | .render _ _ => "render"
  | .redirect _ _ => "redirect"
  | .serveFile _ => "serveFile"
  | .getHeader _ => "getHeader"
  | .setHeader _ _ => "setHeader"
  | .remoteAddress => "getRemoteAddress"
  | .relativeUrl => "getRelativeURL"
  | .get _ => "get"
  | .postForm _ _ => "postForm"
  | .request _ => "request"

/-- The operation sends a request to another host. -/
def isOutbound : Operation → Bool
  | .get _ | .postForm _ _ | .request _ => true
  | _ => false

/-- Below the full tier no method asks for anything outside. -/
theorem isOutbound_of_mem {tier : Tier} {op : Operation} (ht : tier ≠ .full)
    (h : op.method ∈ (methods tier).names) : op.isOutbound = false := by
  cases tier with
  | full => exact absurd rfl ht
  | regular =>
    cases op with
    | get _ | postForm _ _ | request _ =>
      simp [method, methods, Methods.names, sharedMethods] at h
    | _ => rfl
  | widget => cases h

theorem statusArgument_ends (args : List Value) :
    Ends IsArgument (fun _ => True) (statusArgument args) := by
  refine (Arguments.integer?_ends args 2 _).bind fun n _ => ?_
  dsimp only
  split
  · exact .ok trivial
  · exact .error ⟨_, _, _, rfl⟩

/-- Every method asks for the operation it is named for, and finds fault with arguments only. -/
theorem methods_ends {tier : Tier} {e : String × (List Value → Result Operation)}
    (he : e ∈ methods tier) (args : List Value) :
    Ends IsArgument (·.method = e.1) (e.2 args) := by
  -- the other tables are parts of the full one, so one case for each of its lines is enough
  have hfull : e ∈ methods .full := by
    cases tier with
    | full => exact he
    | regular => exact List.mem_append_left _ he
    | widget => cases he
  simp only [methods, sharedMethods, outboundMethods, List.mem_append, List.mem_cons,
    List.not_mem_nil, or_false] at hfull
  rcases hfull with (rfl | rfl | rfl | rfl | rfl | rfl | rfl | rfl | rfl | rfl | rfl | rfl) |
    rfl | rfl | rfl
  · exact (Arguments.string_ends ..).map fun _ _ => rfl
  · exact (Arguments.string_ends ..).bind fun _ _ => (Arguments.string_ends ..).bind fun _ _ =>
      (Arguments.integer_ends ..).bind fun _ _ => .ok rfl
  · exact (Arguments.integer?_ends ..).map fun _ _ => rfl
  · exact (Arguments.string_ends ..).map fun _ _ => rfl
  · exact (Arguments.string_ends ..).map fun _ _ => rfl
  · exact (Arguments.string_ends ..).bind fun _ _ => (Arguments.table?_ends ..).bind
      fun _ _ => .ok rfl
  · exact (Arguments.string?_ends ..).bind fun _ _ => (statusArgument_ends ..).bind
      fun _ _ => .ok rfl
  · exact (Arguments.string_ends ..).map fun _ _ => rfl
  · exact (Arguments.string_ends ..).map fun _ _ => rfl
  · exact (Arguments.string_ends ..).bind fun _ _ => (Arguments.string_ends ..).bind
      fun _ _ => .ok rfl
  · exact .ok rfl
  · exact .ok rfl
  · exact (Arguments.string_ends ..).map fun _ _ => rfl
  · exact (Arguments.string_ends ..).bind fun _ _ => (Arguments.table?_ends ..).bind
      fun _ _ => .ok rfl
  · exact (Arguments.table_ends ..).map fun _ _ => rfl

/-- **What a call is read as**: the operation that the method is named for, or a complaint about
an argument. -/
theorem read_ends {tier : Tier} {method : String} (h : method ∈ (methods tier).names)
    (args : List Value) :
    Ends IsArgument (·.method = method) ((methods tier).read tier method args) :=
  Methods.read_ends h tier fun _ hr => methods_ends hr args

/-- A call is read as no other operation than the one its method is named for. -/
theorem method_of_read {tier : Tier} {method : String} {args : List Value} {op : Operation}
    (h : (methods tier).read tier method args = .ok op) : op.method = method := by
  by_cases hm : method ∈ (methods tier).names
  · have he := read_ends hm args
    rw [h] at he
    exact he.of_ok
  · rw [Methods.read_of_not_mem hm] at h
    cases h

end Operation

namespace Question

theorem names_methods : methods.names = Validator.listed := rfl

theorem recordKey_ends (args : List Value) (what : String) :
    Ends IsArgument (fun _ => True) (recordKey args what) := by
  unfold recordKey
  split
  · exact .ok trivial
  · exact .ok trivial
  · exact .error ⟨_, _, _, rfl⟩

theorem subject_ends (args : List Value) : Ends IsArgument (fun _ => True) (subject args) :=
  Arguments.string_ends ..

/-- The methods of a validator find fault with arguments only. -/
theorem methods_ends {e : String × (List Value → Result Question)} (he : e ∈ methods)
    (args : List Value) : Ends IsArgument (fun _ => True) (e.2 args) := by
  simp only [methods, List.mem_cons, List.not_mem_nil, or_false] at he
  rcases he with rfl | rfl | rfl | rfl | rfl | rfl | rfl | rfl | rfl | rfl
  · exact (Arguments.string_ends ..).bind fun _ _ => (Arguments.string_ends ..).bind
      fun _ _ => .ok trivial
  · exact (Arguments.string_ends ..).bind fun _ _ => (Arguments.string_ends ..).bind
      fun _ _ => .ok trivial
  · exact (subject_ends args).map fun _ _ => trivial
  · exact (Arguments.string_ends ..).bind fun _ _ => (Arguments.string_ends ..).bind
      fun _ _ => .ok trivial
  · exact (recordKey_ends ..).map fun _ _ => trivial
  · exact (recordKey_ends ..).map fun _ _ => trivial
  · exact (Arguments.integer_ends ..).map fun _ _ => trivial
  · exact (subject_ends args).map fun _ _ => trivial
  · exact (subject_ends args).map fun _ _ => trivial
  · exact (subject_ends args).map fun _ _ => trivial

end Question

end WebScript
