import WebScript.Exchange
import WebScript.Files
import WebScript.Settings
import WebScript.Validator

/-!
# The host

What all requests share: the settings, the reference data, and the collaborators that render
templates, compile widgets, confirm one-time codes and send requests.

* `Host`: the host once it is ready.
* `Registration`: what a host is put together from; `Registration.build` does it.
-/

namespace WebScript

/-- Renders a template by its name and its arguments into the response to a request. -/
abbrev Renderer := Request → String → Members → Exchange → Result Unit × Exchange

/-- Widgets compiled, and the first failure among those that could not be. -/
structure Compilation where
  widgets : List (String × Json)
  failure : Option Failure

/-- Compiles the widgets for the response to a request. -/
abbrev WidgetCompiler := Request → Session → Exchange → Compilation × Exchange

/-- Reads a file by its path. -/
abbrev FileReader := String → Except FileFault Bytes

/-- What all requests share. -/
structure Host where
  settings : Settings
  reference : Reference
  renderer : Renderer
  compiler : WidgetCompiler
  codes : Option CodeVerifier
  withoutListed : String → String → String
  transport : Transport
  files : FileReader

namespace Host

variable (h : Host)

/-- The validator for scripts of a tier. -/
def validator (tier : Tier) : Validator := ⟨h.reference, h.withoutListed, h.codes, tier⟩

/-- The memory for the files of a form: what is asked for, if that is a positive number. -/
def memoryFor (requested : Int) : Nat :=
  if 0 < requested then requested.toNat else h.settings.maxMemory

/-- The line that tells that the host is ready. -/
def readyLine : LogLine :=
  ⟨.info, "script bridge ready",
    [("vocations", .number h.reference.vocations.length),
      ("towns", .number h.reference.towns.length),
      ("ssl", .flag h.settings.tls.enabled), ("otp", .flag h.codes.isSome)]⟩

end Host

/-- What a host is put together from. Renderer and compiler are required. -/
structure Registration where
  settings : Settings
  /-- The reference data, if it is not to be read from the files that the settings name. -/
  reference : Option Reference
  renderer : Option Renderer
  compiler : Option WidgetCompiler
  codes : Option CodeVerifier
  /-- How what is listed is removed from a line, if not character by character. -/
  withoutListed : Option (String → String → String)
  transport : Transport
  files : FileReader

/-- Reads a file of text that the settings depend on. -/
def FileReader.text (files : FileReader) (path : String) : Result String :=
  match files path >>= Bytes.asFileText with
  | .ok s => .ok s
  | .error f => .error (.config ("cannot read " ++ path ++ ": " ++ f.message))

/-- Reads settings from a file. -/
def Settings.load (files : FileReader) (path : String) : Result Settings :=
  files.text path >>= ofToml

/-- Reads the reference data from the files that the settings name; one that is not named counts
as empty. -/
def Reference.load (files : FileReader) (s : Settings) : Result Reference := do
  let vocations ← match s.vocationsFile with
    | some path => files.text path >>= Vocation.listOf
    | none => .ok []
  let towns ← match s.townsFile with
    | some path => files.text path >>= Town.listOf
    | none => .ok []
  Reference.of vocations towns

/-- Puts a host together. -/
def Registration.build (r : Registration) : Result Host :=
  match r.renderer, r.compiler with
  | none, _ => .error (.notRegistered "template renderer")
  | some _, none => .error (.notRegistered "widget compiler")
  | some renderer, some compiler => do
    let reference ← match r.reference with
      | some reference => .ok reference
      | none => Reference.load r.files r.settings
    return { settings := r.settings, reference, renderer, compiler, codes := r.codes
             withoutListed := r.withoutListed.getD dropListed
             transport := r.transport, files := r.files }

end WebScript
