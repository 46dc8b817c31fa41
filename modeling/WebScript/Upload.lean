import WebScript.Text.Utf8

/-!
# Uploaded files

A file that came in with a form, what is known of it before it is read, and where its bytes are
until then.

* `Upload`: a file with its bytes; `Upload.info`: what is known of it.
* `Storage`: bytes in memory or in a temporary file; `Storage.read`: reading them back.
-/

namespace WebScript

/-- A file as its sender described it: the name has no directories in it. -/
structure Upload where
  filename : String
  contentType : String
  content : Bytes
  deriving DecidableEq

/-- The size in bytes. -/
def Upload.size (f : Upload) : Nat := f.content.length

/-- What is known of a file that has not been read. -/
structure FileInfo where
  filename : String
  contentType : String
  /-- The number of bytes that came in. -/
  size : Nat
  deriving DecidableEq

/-- What is known of a file when it comes in. -/
def Upload.info (f : Upload) : FileInfo := ⟨f.filename, f.contentType, f.size⟩

/-- A temporary file of its own, which nobody else writes to. It can always be written and read:
failures of the disk are left out. -/
structure TempFile where
  written : Bytes
  deriving DecidableEq

namespace TempFile

/-- A new temporary file. -/
def create : TempFile := ⟨[]⟩

/-- Bytes are written behind those that have been. -/
def write (f : TempFile) (bytes : Bytes) : TempFile := ⟨f.written ++ bytes⟩

/-- Reads the file from its start to its end. -/
def read (f : TempFile) : Bytes := f.written

end TempFile

/-- Where the bytes of a file are. -/
inductive Storage where
  | memory (bytes : Bytes)
  | disk (file : TempFile)
  deriving DecidableEq

namespace Storage

/-- Stores bytes, on disk if they spill. -/
def store (spills : Bool) (bytes : Bytes) : Storage :=
  if spills then .disk (TempFile.create.write bytes) else .memory bytes

/-- The bytes are on disk. -/
def onDisk : Storage → Bool
  | memory _ => false
  | disk _ => true

/-- The number of bytes that are held in memory. -/
def held : Storage → Nat
  | memory bytes => bytes.length
  | disk _ => 0

/-- Reads the bytes back. -/
def read : Storage → Bytes
  | memory bytes => bytes
  | disk file => file.read

/-- Bytes are read back as they were stored. -/
@[simp] theorem read_store (spills : Bool) (bytes : Bytes) :
    (store spills bytes).read = bytes := by
  cases spills <;> rfl

@[simp] theorem onDisk_store (spills : Bool) (bytes : Bytes) :
    (store spills bytes).onDisk = spills := by
  cases spills <;> rfl

end Storage

end WebScript
