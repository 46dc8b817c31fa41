import WebScript.Failure
import WebScript.Form.Multipart
import WebScript.Toml.Document

/-!
# Settings

The settings of the host, read from a document and checked.

* `Settings`: the settings; `Settings.default` holds where the document says nothing.
* `Settings.ofToml`: reads a document. A key that is not known is refused.
-/

namespace WebScript

/-- Whether the host serves over TLS, and with which files. -/
structure Tls where
  enabled : Bool
  cert : Option String
  key : Option String
  deriving DecidableEq

/-- No TLS. -/
def Tls.default : Tls := ⟨false, none, none⟩

/-- The settings of the host. -/
structure Settings where
  tls : Tls
  /-- The memory for the files of a form, where a script does not say. -/
  maxMemory : Nat
  /-- The user agent of outbound requests that name none. -/
  userAgent : Option String
  vocationsFile : Option String
  townsFile : Option String
  deriving DecidableEq

namespace Settings

/-- The settings of an empty document. -/
def default : Settings := ⟨.default, Form.defaultMaxMemory, none, none, none⟩

/-- The failure of a document that cannot be read. -/
def unreadable : Failure := .config "toml"

/-- A boolean. -/
def bool? : Toml → Option Bool
  | .bool b => some b
  | _ => none

/-- A string. -/
def string? : Toml → Option String
  | .string s => some s
  | _ => none

/-- A whole number that is not negative. -/
def natural? : Toml → Option Nat
  | .integer n => if 0 ≤ n then some n.toNat else none
  | _ => none

/-- Sets one field of the TLS settings. -/
def setTls? (t : Tls) (key : String) (v : Toml) : Option Tls :=
  match key with
  | "enabled" => (bool? v).map fun b => { t with enabled := b }
  | "cert" => (string? v).map fun s => { t with cert := some s }
  | "key" => (string? v).map fun s => { t with key := some s }
  | _ => none

/-- The TLS settings in one value: a table, or an array of the fields in their order, of which
those left out have their defaults and those too many count for nothing. -/
def tlsOf? : Toml → Option Tls
  | .table entries =>
    if (entries.map (·.1)).Nodup then
      entries.foldlM
        (fun t e => match e.1 with
          | [key] => setTls? t key e.2
          | _ => none)
        Tls.default
    else none
  | .array items =>
    (["enabled", "cert", "key"].zip items).foldlM (fun t e => setTls? t e.1 e.2) Tls.default
  | _ => none

/-- Sets what an assignment to a path says. -/
def assign? (s : Settings) (path : List String) (v : Toml) : Option Settings :=
  match path with
  | ["ssl"] => (tlsOf? v).map fun t => { s with tls := t }
  | ["ssl", key] => (setTls? s.tls key v).map fun t => { s with tls := t }
  | ["multipart_max_memory"] => (natural? v).map fun n => { s with maxMemory := n }
  | ["outbound_user_agent"] => (string? v).map fun t => { s with userAgent := some t }
  | ["vocations_file"] => (string? v).map fun t => { s with vocationsFile := some t }
  | ["towns_file"] => (string? v).map fun t => { s with townsFile := some t }
  | _ => none

/-- A document in the course of being read: the section that is open and the paths that are
taken. -/
structure Reading where
  settings : Settings
  current : List String
  taken : List (List String)

/-- One path lies at or above another, so that both cannot be assigned. -/
def clashes (a b : List String) : Bool := a.isPrefixOf b || b.isPrefixOf a

/-- Takes in a line. A section may not be opened twice, nor one whose keys have been assigned
before, and a path may not be assigned twice. -/
def step? (r : Reading) : Toml.Statement → Option Reading
  | .openSection path =>
    if path = ["ssl"] ∧ r.taken.all (! clashes path ·) then some ⟨r.settings, path, path :: r.taken⟩
    else none
  | .openItem _ => none
  | .assign path v =>
    let full := r.current ++ path
    if r.taken.all fun t => t = r.current || ! clashes full t then
      (assign? r.settings full v).map (⟨·, r.current, full :: r.taken⟩)
    else none

/-- What holds beyond the form of a document: some memory, and files for TLS. -/
def check (s : Settings) : Result Settings :=
  if s.maxMemory = 0 then .error (.config "multipart_max_memory must be greater than zero")
  else if s.tls.enabled && (s.tls.cert.isNone || s.tls.key.isNone) then
    .error (.config "ssl.enabled requires ssl.cert and ssl.key")
  else .ok s

/-- Reads a document. -/
def ofToml (text : String) : Result Settings :=
  match (Toml.statements? text).bind (·.foldlM step? ⟨default, [], []⟩) with
  | some r => r.settings.check
  | none => .error unreadable

end Settings

end WebScript
