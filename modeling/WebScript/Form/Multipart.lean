import WebScript.Form.Parameters
import WebScript.Form.Search
import WebScript.Headers
import WebScript.Upload

/-!
# Multipart forms

A form whose parts stand between boundary lines, each with headers of its own: text fields, which
become values, and files. Files are kept in memory as long as they fit into the memory allowed,
and otherwise put on disk.

* `Multipart.parse`: reads a body by its content type.
* `Multipart.values`, `Multipart.info?`, `Multipart.file?`: what a form holds.
-/

namespace WebScript

namespace Form

/-- What is wrong with the body of a multipart form. -/
inductive BodyFault where
  | noBoundary
  | boundaryLine
  | openHeaders
  | openContent
  | header
  deriving DecidableEq

/-- A fault of a body in words. -/
def BodyFault.message : BodyFault → String
  | .noBoundary => "missing first boundary"
  | .boundaryLine => "malformed boundary line"
  | .openHeaders => "unexpected end of part headers"
  | .openContent => "unexpected end of body"
  | .header => "malformed part header"

/-- Why a multipart form cannot be read. -/
inductive MultipartFault where
  | notMultipart
  | missingBoundary
  | malformed (fault : BodyFault)
  | tooLarge
  deriving DecidableEq

/-- The reason in words. -/
def MultipartFault.message : MultipartFault → String
  | .notMultipart => "request Content-Type isn't multipart/form-data"
  | .missingBoundary => "no multipart boundary param in Content-Type"
  | .malformed fault => "multipart: " ++ fault.message
  | .tooLarge => "multipart: message too large"

/-- The memory for files, when nobody asks for another: 32 MiB. -/
def defaultMaxMemory : Nat := 32 * 1024 * 1024

/-- What text fields may use beyond the memory for files: 10 MiB. -/
def textAllowance : Nat := 10 * 1024 * 1024

/-- A carriage return and a line feed. -/
def crlf : Bytes := [13, 10]

/-- Two hyphens: the start of a boundary line, and the end of the last one. -/
def dashes : Bytes := [45, 45]

/-- The boundary that a content type names. -/
def boundary (contentType : String) : Except MultipartFault String :=
  let media := mediaType contentType
  if media ≠ "multipart/form-data" ∧ media ≠ "multipart/mixed" then .error .notMultipart
  else
    match (parameters contentType).lookup "boundary" with
    | some b => if b.isEmpty then .error .missingBoundary else .ok b
    | none => .error .missingBoundary

/-- What follows the line break that ends a boundary line, behind spaces and tabs. -/
def afterBoundaryLine? (bs : Bytes) : Option Bytes :=
  match bs.dropWhile fun b => b = 32 || b = 9 with
  | 13 :: 10 :: r => some r
  | 10 :: r => some r
  | _ => none

/-- The headers of a part and what follows the empty line that ends them. -/
def splitHeaders (bs : Bytes) : Except BodyFault (Bytes × Bytes) :=
  match bs with
  | 13 :: 10 :: r => .ok ([], r)
  | bs =>
    match Bytes.splitAt? (crlf ++ crlf) bs with
    | some p => .ok p
    | none => .error .openHeaders

/-- A part as it stands in a body, and what follows the boundary behind it. -/
structure RawPart where
  headers : Bytes
  content : Bytes
  rest : Bytes

/-- Reads the part after a boundary; there is none when the boundary is the last one. The
content of a part ends at a line break with the boundary, `close`. -/
def nextPart (close bs : Bytes) : Except BodyFault (Option RawPart) :=
  if dashes.isPrefixOf bs then .ok none
  else
    match afterBoundaryLine? bs with
    | none => .error .boundaryLine
    | some r => do
      let (headers, r) ← splitHeaders r
      match Bytes.splitAt? close r with
      | none => .error .openContent
      | some (content, r) => .ok (some ⟨headers, content, r⟩)

/-- The lines of a text between its line breaks; `line` is the one begun, last character first. -/
def headerLines (line : List Char) : List Char → List (List Char)
  | [] => [line.reverse]
  | '\r' :: '\n' :: r => line.reverse :: headerLines [] r
  | c :: r => headerLines (c :: line) r

/-- The headers of a part. Every line that is not empty needs a colon. -/
def readHeaders (raw : Bytes) : Except BodyFault Headers :=
  ((headerLines [] (Text.Utf8.decode raw)).filter (! ·.isEmpty)).foldlM
    (fun h line =>
      match Text.cut (· = ':') line with
      | (key, some value) =>
        .ok (h.add (String.ofList (Text.trim key)) (String.ofList (Text.trim value)))
      | (_, none) => .error .header)
    Headers.empty

/-- The last component of a path written with slashes of either kind. -/
def baseName (path : String) : String :=
  match Text.cutLast (fun c => c = '/' || c = '\\') path.toList with
  | some (_, name) => String.ofList name
  | none => path

/-- The name, content type and kind that the headers give to a part: a file has a file name. -/
structure PartInfo where
  name : String
  filename : String
  contentType : String

/-- Reads what the headers of a part say about it; a part without a name says nothing. -/
def PartInfo.ofHeaders? (h : Headers) : Option PartInfo :=
  let params := parameters (h.get "Content-Disposition")
  (params.lookup "name").map fun name =>
    { name := name
      filename := ((params.lookup "filename").map baseName).getD ""
      contentType :=
        let t := h.get "Content-Type"
        if t.isEmpty then "application/octet-stream" else t }

end Form

/-- A file of a form, under the name of its field. -/
structure FilePart where
  field : String
  info : FileInfo
  stored : Storage
  deriving DecidableEq

namespace FilePart

/-- A file that came in, and is put on disk if it spills. -/
def ofUpload (field : String) (upload : Upload) (spills : Bool) : FilePart :=
  ⟨field, upload.info, .store spills upload.content⟩

/-- The file did not fit into the memory allowed. -/
def spilled (p : FilePart) : Bool := p.stored.onDisk

/-- The file, whose bytes are read back from where they are. -/
def upload (p : FilePart) : Upload := ⟨p.info.filename, p.info.contentType, p.stored.read⟩

@[simp] theorem upload_ofUpload (field : String) (u : Upload) (spills : Bool) :
    (ofUpload field u spills).upload = u := by
  rw [upload, ofUpload, Storage.read_store, Upload.info]

end FilePart

/-- A multipart form that has been read. -/
structure Multipart where
  values : Fields
  files : List FilePart
  deriving DecidableEq

namespace Multipart

open Form

/-- The form without parts. -/
def empty : Multipart := ⟨.empty, []⟩

/-- The first file part of a field. -/
def part? (m : Multipart) (field : String) : Option FilePart := m.files.find? (·.field = field)

/-- What is known of the first file of a field. -/
def info? (m : Multipart) (field : String) : Option FileInfo := (m.part? field).map (·.info)

/-- The first file of a field. -/
def file? (m : Multipart) (field : String) : Option Upload := (m.part? field).map (·.upload)

/-- Some file did not fit into the memory allowed. -/
def hasSpilled (m : Multipart) : Bool := m.files.any (·.spilled)

/-- A form in the course of being read, with what is left of the memory for files and for text. -/
structure Reading where
  form : Multipart
  memoryLeft : Int
  textLeft : Int

namespace Reading

/-- The start, with the memory allowed. -/
def start (maxMemory : Nat) : Reading := ⟨.empty, maxMemory, maxMemory + textAllowance⟩

/-- Takes in a text field, if there is room for it. -/
def addText (s : Reading) (name : String) (content : Bytes) : Except MultipartFault Reading :=
  let left := s.textLeft - content.length
  if left < 0 then .error .tooLarge
  else .ok { s with
    form := { s.form with values := s.form.values.add name content.toText }
    textLeft := left }

/-- Takes in a file. One that fits uses memory, for files and for text alike; any other is put on
disk and uses none. -/
def addFile (s : Reading) (field : String) (upload : Upload) : Reading :=
  let spills := decide (s.memoryLeft < upload.size)
  let used : Int := if spills then 0 else upload.size
  { form := { s.form with files := s.form.files ++ [.ofUpload field upload spills] }
    memoryLeft := s.memoryLeft - used
    textLeft := s.textLeft - used }

/-- Takes in a part. One without a name is passed over. -/
def addPart (s : Reading) (p : RawPart) : Except MultipartFault Reading :=
  match readHeaders p.headers with
  | .error f => .error (.malformed f)
  | .ok h =>
    match PartInfo.ofHeaders? h with
    | none => .ok s
    | some info =>
      if info.filename.isEmpty then s.addText info.name p.content
      else .ok (s.addFile info.name ⟨info.filename, info.contentType, p.content⟩)

end Reading

theorem length_afterBoundaryLine {bs r : Bytes} (h : afterBoundaryLine? bs = some r) :
    r.length < bs.length := by
  have hl := (List.dropWhile_sublist (fun b : UInt8 => b = 32 || b = 9) (l := bs)).length_le
  unfold afterBoundaryLine? at h
  split at h
  · next heq =>
    cases h
    rw [heq, List.length_cons, List.length_cons] at hl
    omega
  · next heq =>
    cases h
    rw [heq, List.length_cons] at hl
    omega
  · cases h

theorem length_splitHeaders {bs : Bytes} {p : Bytes × Bytes} (h : splitHeaders bs = .ok p) :
    p.2.length ≤ bs.length := by
  unfold splitHeaders at h
  split at h
  · cases h
    simp only [List.length_cons]
    omega
  · split at h
    · rename_i q hq
      cases h
      have := congrArg List.length (Bytes.eq_of_splitAt? hq)
      simp only [List.length_append] at this
      omega
    · simp at h

/-- **Every part takes bytes**, so that what follows it is shorter. -/
theorem length_rest_lt {close bs : Bytes} {p : RawPart} (h : nextPart close bs = .ok (some p)) :
    p.rest.length < bs.length := by
  unfold nextPart at h
  split at h
  · simp at h
  · split at h
    · simp at h
    · rename_i r hr
      have h1 := length_afterBoundaryLine hr
      cases hs : splitHeaders r with
      | error f => simp [hs, bind, Except.bind] at h
      | ok q =>
        have h2 := length_splitHeaders hs
        simp only [hs, bind, Except.bind] at h
        split at h
        · simp at h
        · rename_i c hc
          have h3 := congrArg List.length (Bytes.eq_of_splitAt? hc)
          simp only [List.length_append] at h3
          simp only [Except.ok.injEq, Option.some.injEq] at h
          subst h
          simp only
          omega

/-- Reads the parts that follow a boundary, up to the last boundary. -/
def readParts (close : Bytes) (s : Reading) (bs : Bytes) : Except MultipartFault Multipart :=
  match _h : nextPart close bs with
  | .error f => .error (.malformed f)
  | .ok none => .ok s.form
  | .ok (some p) =>
    match s.addPart p with
    | .error f => .error f
    | .ok s => readParts close s p.rest
termination_by bs.length
decreasing_by exact length_rest_lt (by assumption)

/-- **Reads a multipart form** by its content type. What stands before the first boundary is
passed over, and so is what follows the last one. -/
def parse (contentType : String) (body : Bytes) (maxMemory : Nat) :
    Except MultipartFault Multipart :=
  match boundary contentType with
  | .error f => .error f
  | .ok b =>
    let delimiter := dashes ++ Bytes.ofText b
    match Bytes.splitAt? delimiter body with
    | none => .error (.malformed .noBoundary)
    | some (_, r) => readParts (crlf ++ delimiter) (.start maxMemory) r

end Multipart

end WebScript
