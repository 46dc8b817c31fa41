import WebScript.Text.Utf8

/-!
# Files

The files below a working directory, and how a path leads to one of them.

* `Files`: every file with its path from the working directory.
* `Files.read`: the content of the file at a path, or why there is none.
-/

namespace WebScript

/-- Why a file could not be read. -/
inductive FileFault where
  | missing
  | notDirectory
  | isDirectory
  | nameTooLong
  | nulInPath
  | notText
  deriving DecidableEq

/-- The reason in the words of the system. -/
def FileFault.message : FileFault → String
  | .missing => "No such file or directory (os error 2)"
  | .notDirectory => "Not a directory (os error 20)"
  | .isDirectory => "Is a directory (os error 21)"
  | .nameTooLong => "File name too long (os error 36)"
  | .nulInPath => "file name contained an unexpected NUL byte"
  | .notText => "stream did not contain valid UTF-8"

/-- Every file with the names that lead to it from the working directory. -/
abbrev Files := List (List String × Bytes)

namespace Files

/-- Where a path has led so far. Of the directories above the working directory nothing is known
but that they exist. -/
inductive Place where
  | above
  | directory (names : List String)
  | file (content : Bytes)

variable (fs : Files)

/-- What the working directory holds under some names. -/
def lookup? (names : List String) : Option Place :=
  match fs.find? (·.1 = names) with
  | some f => some (.file f.2)
  | none => if fs.any (names.isPrefixOf ·.1) then some (.directory names) else none

/-- Goes on to one more name of a path. -/
def step : Place → String → Except FileFault Place
  | .file _, _ => .error .notDirectory
  | .above, name =>
    if name = "" ∨ name = "." ∨ name = ".." then .ok .above else .error .missing
  | .directory names, name =>
    if name = "" ∨ name = "." then .ok (.directory names)
    else if name = ".." then .ok (if names.isEmpty then .above else .directory names.dropLast)
    else if 255 < name.utf8ByteSize then .error .nameTooLong
    else
      match fs.lookup? (names ++ [name]) with
      | some place => .ok place
      | none => .error .missing

/-- The content of the file at a path. -/
def read (path : String) : Except FileFault Bytes := do
  let names := (path.toList.splitOn '/').map String.ofList
  if path.toList.contains '\x00' then throw .nulInPath
  if path.isEmpty then throw .missing
  if 4096 ≤ path.utf8ByteSize then throw .nameTooLong
  match ← names.foldlM fs.step (if path.toList.head? = some '/' then .above else .directory []) with
  | .file content => return content
  | _ => throw .isDirectory

end Files

/-- Text read from a file, which has to be UTF-8. -/
def Bytes.asFileText (bs : Bytes) : Except FileFault String :=
  match bs.toText? with
  | some s => .ok s
  | none => .error .notText

end WebScript
