import WebScript.Form.Multipart
import WebScript.Proofs.Results
import WebScript.Proofs.Text

/-!
# The parts of a body

What a body holds has nothing to do with the memory allowed to its form. So the parts can be read
first, and counted against the memory only then.

* `Form.Part`: a text field or a file; `RawPart.part?`: what a part is by its headers.
* `Form.opening`, `Form.partsFrom`, `Form.partsOf`: the parts of a body.
* `Form.named_of_part?`: every file among them has a name without directories, and a content type.
* `Multipart.Reading.add`: taking in a part; `addPart_eq`: as it is done part by part of a body.
* `Multipart.parse_eq_of_partsOf`: **reading a form is taking in the parts of its body** in order.
* `Multipart.exists_partsOf`: a body that can be read as a form has parts.
-/

namespace WebScript

namespace Form

/-- A part of a form: a text field or a file. -/
inductive Part where
  | text (name : String) (content : Bytes)
  | file (name : String) (upload : Upload)
  deriving DecidableEq

namespace Part

/-- The field that a part belongs to. -/
def name : Part → String
  | text name _ | file name _ => name

/-- The bytes between the headers of a part and the boundary behind it. -/
def content : Part → Bytes
  | text _ content => content
  | file _ upload => upload.content

/-- The value that a text field comes to. -/
def text? : Part → Option (String × String)
  | text name content => some (name, content.toText)
  | file _ _ => none

/-- The file that a part holds, with its field. -/
def file? : Part → Option (String × Upload)
  | text _ _ => none
  | file name upload => some (name, upload)

end Part

/-- A part is a file if there is a file name, and else a text field. -/
def PartInfo.part (info : PartInfo) (content : Bytes) : Part :=
  if info.filename.isEmpty then .text info.name content
  else .file info.name ⟨info.filename, info.contentType, content⟩

/-- What a part of a body is by its headers; without a name it is nothing. -/
def RawPart.part? (p : RawPart) : Except BodyFault (Option Part) :=
  match readHeaders p.headers with
  | .error f => .error f
  | .ok h => .ok ((PartInfo.ofHeaders? h).map (·.part p.content))

/-- The parts behind a boundary, up to the last boundary. -/
def partsFrom (close bs : Bytes) : Except BodyFault (List Part) :=
  match _h : nextPart close bs with
  | .error f => .error f
  | .ok none => .ok []
  | .ok (some p) =>
    match p.part? with
    | .error f => .error f
    | .ok part => (part.toList ++ ·) <$> partsFrom close p.rest
termination_by bs.length
decreasing_by exact Multipart.length_rest_lt (by assumption)

/-- What closes each part of a body, and what stands behind the first boundary. -/
def opening (contentType : String) (body : Bytes) : Except MultipartFault (Bytes × Bytes) :=
  match boundary contentType with
  | .error f => .error f
  | .ok b =>
    let delimiter := dashes ++ Bytes.ofText b
    match Bytes.splitAt? delimiter body with
    | none => .error (.malformed .noBoundary)
    | some (_, r) => .ok (crlf ++ delimiter, r)

/-- **The parts of a body** whose content type names its boundary. -/
def partsOf (contentType : String) (body : Bytes) : Except MultipartFault (List Part) :=
  opening contentType body >>= fun q => (partsFrom q.1 q.2).mapError .malformed

variable {close bs : Bytes} {p : RawPart} {part : Option Part} {ps : List Part}

theorem partsFrom_eq (close bs : Bytes) :
    partsFrom close bs =
      match nextPart close bs with
      | .error f => .error f
      | .ok none => .ok []
      | .ok (some p) => p.part? >>= fun part => (part.toList ++ ·) <$> partsFrom close p.rest := by
  rw [partsFrom]
  split
  · rename_i heq
    rw [heq]
  · rename_i heq
    rw [heq]
  · rename_i p heq
    rw [heq]
    dsimp only
    cases p.part? <;> rfl

theorem partsFrom_of_none (h : nextPart close bs = .ok none) : partsFrom close bs = .ok [] := by
  rw [partsFrom_eq, h]

theorem partsFrom_of_part (h : nextPart close bs = .ok (some p)) (hpart : p.part? = .ok part) :
    partsFrom close bs = (part.toList ++ ·) <$> partsFrom close p.rest := by
  rw [partsFrom_eq, h]
  dsimp only
  rw [hpart]
  rfl

/-- What holds of every part that stands in a body holds of all parts of a body. -/
theorem forall_mem_partsFrom {P : Part → Prop}
    (hP : ∀ (p : RawPart) (q : Part), p.part? = .ok (some q) → P q)
    (h : partsFrom close bs = .ok ps) : ∀ q ∈ ps, P q := by
  fun_induction partsFrom close bs generalizing ps with
  | case1 bs f hf => cases h
  | case2 bs hnone =>
    cases h
    exact nofun
  | case3 bs p hp f hf => cases h
  | case4 bs p hp part hpart ih =>
    cases hrest : partsFrom close p.rest with
    | error f =>
      rw [hrest] at h
      cases h
    | ok rest =>
      rw [hrest] at h
      cases h
      intro q hq
      rcases List.mem_append.1 hq with hq | hq
      · exact hP p q (by rw [hpart, Option.mem_toList.1 hq])
      · exact ih hrest q hq

theorem partsOf_eq_ok_iff {contentType : String} {body : Bytes} :
    partsOf contentType body = .ok ps ↔
      ∃ q, opening contentType body = .ok q ∧ partsFrom q.1 q.2 = .ok ps := by
  rw [partsOf, Result.bind_eq_ok_iff]
  exact exists_congr fun q => and_congr_right fun _ => Result.mapError_eq_ok_iff

/-! ## The names of files -/

variable {headers : Headers} {info : PartInfo}

/-- **A file is named well**: its name is there and has no directories in it, and its content type is
there. -/
structure Named (i : FileInfo) : Prop where
  filename_ne_empty : i.filename ≠ ""
  filename_base : '/' ∉ i.filename.toList ∧ '\\' ∉ i.filename.toList
  type_ne_empty : i.contentType ≠ ""

/-- The last component of a path has no slash of either kind. -/
theorem not_mem_baseName (path : String) :
    '/' ∉ (baseName path).toList ∧ '\\' ∉ (baseName path).toList := by
  have hnone : ∀ c ∈ (baseName path).toList, (decide (c = '/') || decide (c = '\\')) = false := by
    unfold baseName
    split
    -- cut behind the last slash, so there is none left
    · rename_i name hcut
      rw [String.toList_ofList]
      exact Text.not_of_mem_cutLast hcut
    · rename_i hcut
      exact Text.of_cutLast_eq_none hcut
  constructor
  · intro hc
    exact absurd (hnone _ hc) (by decide)
  · intro hc
    exact absurd (hnone _ hc) (by decide)

/-- The file name that headers give has no directories in it. -/
theorem filename_base_of_headers (h : PartInfo.ofHeaders? headers = some info) :
    '/' ∉ info.filename.toList ∧ '\\' ∉ info.filename.toList := by
  obtain ⟨name, -, rfl⟩ := Option.map_eq_some_iff.1 h
  dsimp only
  cases (parameters (headers.get "Content-Disposition")).lookup "filename" with
  | none => exact ⟨by decide, by decide⟩
  | some path => exact not_mem_baseName path

/-- A content type is there, if need be the one of plain bytes. -/
theorem contentType_ne_empty (h : PartInfo.ofHeaders? headers = some info) :
    info.contentType ≠ "" := by
  obtain ⟨name, -, rfl⟩ := Option.map_eq_some_iff.1 h
  dsimp only
  split
  · decide
  · rename_i hne
    exact fun he => hne (String.isEmpty_iff.2 he)

/-- **Every file of a body is named well.** -/
theorem named_of_part? {q : Part} (h : p.part? = .ok (some q)) :
    ∀ field upload, q.file? = some (field, upload) → Named upload.info := by
  intro field upload hfile
  unfold RawPart.part? at h
  split at h
  · cases h
  · rename_i headers _
    obtain ⟨info, hinfo, rfl⟩ := Option.map_eq_some_iff.1 (Except.ok.inj h)
    unfold PartInfo.part at hfile
    split at hfile
    · cases hfile
    · rename_i hne
      cases hfile
      exact ⟨fun he => hne (String.isEmpty_iff.2 he), filename_base_of_headers hinfo,
        contentType_ne_empty hinfo⟩

end Form

namespace Multipart

open Form

variable {close bs : Bytes} {s : Reading} {m : Multipart}

/-! ## Reading part by part -/

theorem readParts_eq (close : Bytes) (s : Reading) (bs : Bytes) :
    readParts close s bs =
      match nextPart close bs with
      | .error f => .error (.malformed f)
      | .ok none => .ok s.form
      | .ok (some p) => s.addPart p >>= fun t => readParts close t p.rest := by
  rw [readParts]
  split
  · rename_i heq
    rw [heq]
  · rename_i heq
    rw [heq]
  · rename_i p heq
    rw [heq]
    dsimp only
    cases s.addPart p <;> rfl

theorem readParts_of_error {f : BodyFault} (h : nextPart close bs = .error f) :
    readParts close s bs = .error (.malformed f) := by
  rw [readParts_eq, h]

theorem readParts_of_none (h : nextPart close bs = .ok none) :
    readParts close s bs = .ok s.form := by
  rw [readParts_eq, h]

theorem readParts_of_some {raw : RawPart} (h : nextPart close bs = .ok (some raw)) :
    readParts close s bs = s.addPart raw >>= fun t => readParts close t raw.rest := by
  rw [readParts_eq, h]

theorem readParts_of_part {raw : RawPart} {t : Reading} (h : nextPart close bs = .ok (some raw))
    (ht : s.addPart raw = .ok t) : readParts close s bs = readParts close t raw.rest := by
  rw [readParts_of_some h, ht]
  rfl

namespace Reading

/-- Takes in a part: a text field if there is room for it, a file in any case. -/
def add (s : Reading) : Part → Except MultipartFault Reading
  | .text name content => s.addText name content
  | .file name upload => .ok (s.addFile name upload)

/-- A part of a body is taken in as what it is, if anything. -/
theorem addPart_eq (s : Reading) (p : RawPart) :
    s.addPart p = p.part?.mapError .malformed >>= fun part => part.toList.foldlM add s := by
  unfold addPart RawPart.part?
  cases readHeaders p.headers with
  | error f => rfl
  | ok h =>
    dsimp only
    cases PartInfo.ofHeaders? h with
    | none => rfl
    | some info =>
      rw [Option.map_some, PartInfo.part]
      by_cases hname : info.filename.isEmpty = true
      · simp only [hname, if_true]
        exact (bind_pure (s.addText info.name p.content)).symm
      · simp only [hname]
        rfl

end Reading

/-! ## What parts come to -/

/-- The files of a form with their fields, in order. -/
def uploads (m : Multipart) : List (String × Upload) := m.files.map fun f => (f.field, f.upload)

theorem file?_eq (m : Multipart) (field : String) :
    m.file? field = (m.uploads.find? (·.1 = field)).map (·.2) := by
  rw [uploads, List.find?_map, file?, part?, Option.map_map]
  rfl

namespace Reading

variable {t : Reading} {p : Part} {ps : List Part}

/-- A text field is taken in if there is room for it, and becomes a value. -/
theorem addText_eq_ok_iff {name : String} {content : Bytes} :
    s.addText name content = .ok t ↔ (content.length : Int) ≤ s.textLeft ∧
      t = ⟨{ s.form with values := s.form.values.add name content.toText }, s.memoryLeft,
        s.textLeft - content.length⟩ := by
  unfold addText
  dsimp only
  split
  · exact iff_of_false nofun fun h => by omega
  · rw [Except.ok.injEq, eq_comm]
    exact (and_iff_right (by omega)).symm

/-- A file is added, be it kept in memory or put on disk. -/
theorem uploads_addFile (s : Reading) (field : String) (upload : Upload) :
    (s.addFile field upload).form.uploads = s.form.uploads ++ [(field, upload)] := by
  rw [uploads, addFile, List.map_append, List.map_singleton, FilePart.upload_ofUpload]
  rfl

/-- What a part adds to a form does not depend on the memory that is left. -/
theorem form_add (h : s.add p = .ok t) :
    t.form.values = p.text?.toList.foldl (fun f q => f.add q.1 q.2) s.form.values ∧
      t.form.uploads = s.form.uploads ++ p.file?.toList := by
  cases p with
  | text name content =>
    obtain ⟨-, rfl⟩ := addText_eq_ok_iff.1 h
    exact ⟨rfl, (List.append_nil _).symm⟩
  | file name upload =>
    cases h
    exact ⟨rfl, uploads_addFile s name upload⟩

/-- **What all parts come to**: the text fields are added in order, and so are the files. -/
theorem form_foldlM_add (h : ps.foldlM add s = .ok t) :
    t.form.values = (ps.filterMap Part.text?).foldl (fun f q => f.add q.1 q.2) s.form.values ∧
      t.form.uploads = s.form.uploads ++ ps.filterMap Part.file? := by
  induction ps generalizing s with
  | nil =>
    cases h
    exact ⟨rfl, (List.append_nil _).symm⟩
  | cons p ps ih =>
    rw [List.foldlM_cons] at h
    obtain ⟨next, hnext, hrest⟩ := Result.bind_eq_ok_iff.1 h
    obtain ⟨hvalues, huploads⟩ := form_add hnext
    obtain ⟨htvalues, htuploads⟩ := ih hrest
    constructor
    · rw [htvalues, hvalues, List.filterMap_cons]
      cases p.text? <;> rfl
    · rw [htuploads, huploads, List.filterMap_cons, List.append_assoc]
      cases p.file? <;> rfl

/-- What is known of a file before it is read is true of it. -/
theorem info_add (hs : ∀ f ∈ s.form.files, f.info = f.upload.info) (h : s.add p = .ok t) :
    ∀ f ∈ t.form.files, f.info = f.upload.info := by
  cases p with
  | text name content =>
    obtain ⟨-, rfl⟩ := addText_eq_ok_iff.1 h
    exact hs
  | file name upload =>
    cases h
    intro f hf
    rcases List.mem_append.1 hf with hf | hf
    · exact hs f hf
    · rw [List.mem_singleton.1 hf, FilePart.upload_ofUpload]
      rfl

theorem info_foldlM_add (hs : ∀ f ∈ s.form.files, f.info = f.upload.info)
    (h : ps.foldlM add s = .ok t) : ∀ f ∈ t.form.files, f.info = f.upload.info := by
  induction ps generalizing s with
  | nil =>
    cases h
    exact hs
  | cons p ps ih =>
    rw [List.foldlM_cons] at h
    obtain ⟨next, hnext, hrest⟩ := Result.bind_eq_ok_iff.1 h
    exact ih (info_add hs hnext) hrest

end Reading

/-- **A form holds some parts**: text fields are its values, added in order, and files its files,
of which it knows what is true of them. -/
structure Holds (m : Multipart) (ps : List Part) : Prop where
  values : m.values = .ofPairs (ps.filterMap Part.text?)
  uploads : m.uploads = ps.filterMap Part.file?
  info : ∀ f ∈ m.files, f.info = f.upload.info

theorem holds_of_foldlM_add {ps : List Part} {maxMemory : Nat} {t : Reading}
    (h : ps.foldlM Reading.add (.start maxMemory) = .ok t) : t.form.Holds ps where
  values := (Reading.form_foldlM_add h).1
  uploads := (Reading.form_foldlM_add h).2
  info := Reading.info_foldlM_add (List.forall_mem_nil _) h

/-- What is known of a file is what the file says when it is read. -/
theorem Holds.info?_eq {ps : List Part} (h : m.Holds ps) (field : String) :
    m.info? field = (m.file? field).map (·.info) := by
  rw [info?, file?, Option.map_map]
  cases hp : m.part? field with
  | none => rfl
  | some f => exact congrArg some (h.info f (List.mem_of_find?_eq_some hp))

/-! ## Reading the parts first -/

/-- The parts behind a boundary are taken in one after the other. -/
theorem readParts_eq_of_partsFrom {ps : List Part} (h : partsFrom close bs = .ok ps)
    (s : Reading) : readParts close s bs = Reading.form <$> ps.foldlM Reading.add s := by
  -- by the recursion of `partsFrom`; each part leaves another reading, so that stays general
  fun_induction partsFrom close bs generalizing ps s with
  | case1 bs f hf => cases h
  | case2 bs hnone =>
    cases h
    exact readParts_of_none hnone
  | case3 bs p hp f hf => cases h
  | case4 bs p hp part hpart ih =>
    cases hrest : partsFrom close p.rest with
    | error f =>
      rw [hrest] at h
      cases h
    | ok rest =>
      rw [hrest] at h
      cases h
      rw [readParts_of_some hp, s.addPart_eq, hpart, List.foldlM_append, map_bind]
      exact bind_congr fun t => ih hrest t

/-- Parts that have been taken in have been read before. -/
theorem exists_partsFrom (h : readParts close s bs = .ok m) :
    ∃ ps, partsFrom close bs = .ok ps := by
  fun_induction readParts close s bs with
  | case1 s bs f hf => cases h
  | case2 s bs hnone => exact ⟨[], partsFrom_of_none hnone⟩
  | case3 s bs p hp f hf => cases h
  | case4 s bs p hp t ht ih =>
    obtain ⟨rest, hrest⟩ := ih h
    -- a part that was taken in has headers that can be read
    rw [s.addPart_eq] at ht
    obtain ⟨part, hpart, -⟩ := Result.bind_eq_ok_iff.1 ht
    cases hraw : p.part? with
    | error f =>
      rw [hraw] at hpart
      cases hpart
    | ok part => exact ⟨_, by rw [partsFrom_of_part hp hraw, hrest]; rfl⟩

variable {contentType : String} {body : Bytes}

/-- A form is read from what stands behind the first boundary. -/
theorem parse_eq (contentType : String) (body : Bytes) (maxMemory : Nat) :
    parse contentType body maxMemory =
      opening contentType body >>= fun q => readParts q.1 (.start maxMemory) q.2 := by
  unfold parse opening
  cases boundary contentType with
  | error f => rfl
  | ok b =>
    dsimp only
    cases Bytes.splitAt? (dashes ++ Bytes.ofText b) body <;> rfl

/-- **Reading a form is taking in the parts of its body**, in order and with the memory allowed. -/
theorem parse_eq_of_partsOf {ps : List Part} (h : partsOf contentType body = .ok ps)
    (maxMemory : Nat) :
    parse contentType body maxMemory =
      Reading.form <$> ps.foldlM Reading.add (.start maxMemory) := by
  obtain ⟨q, hq, hps⟩ := partsOf_eq_ok_iff.1 h
  rw [parse_eq, hq]
  exact readParts_eq_of_partsFrom hps _

/-- **A body that can be read as a form has parts**, whatever memory it was read with. -/
theorem exists_partsOf {maxMemory : Nat} (h : parse contentType body maxMemory = .ok m) :
    ∃ ps, partsOf contentType body = .ok ps := by
  rw [parse_eq] at h
  obtain ⟨q, hq, hread⟩ := Result.bind_eq_ok_iff.1 h
  obtain ⟨ps, hps⟩ := exists_partsFrom hread
  exact ⟨ps, partsOf_eq_ok_iff.2 ⟨q, hq, hps⟩⟩

/-- **A form that is read holds the parts of its body.** -/
theorem exists_reading_of_parse {ps : List Part} {maxMemory : Nat}
    (hps : partsOf contentType body = .ok ps) (h : parse contentType body maxMemory = .ok m) :
    ∃ t, ps.foldlM Reading.add (.start maxMemory) = .ok t ∧ t.form = m := by
  rw [parse_eq_of_partsOf hps] at h
  exact Result.map_eq_ok_iff.1 h

end Multipart

end WebScript
