import WebScript.Proofs.Multipart.Headers
import WebScript.Proofs.Multipart.Parts

/-!
# Reading back multipart forms

* `writeForm`, `writeType`: body and content type in which parts are sent.
* `Part.ofHeaders?_headers`: what the headers of a part say about it.
* `nextPart_writeParts`: a part is taken from a body with its headers and its content.
* `partsOf_writeForm`: the parts of the body are those that were sent.
* `Multipart.exists_parse_writeForm`: the form holds them, whether files spill or not.
* `multipart_round_trip`: **what was sent is what is read**, and known before it is.
-/

namespace WebScript

namespace Form

namespace Part

/-- The parameters that tell what a part is. -/
def parameters : Part → List (String × String)
  | text name _ => [("name", name)]
  | file name upload => [("name", name), ("filename", upload.filename)]

/-- The value of the header that tells what a part is. -/
def disposition (p : Part) : String :=
  String.ofList ("form-data".toList ++ writeParameters p.parameters)

/-- The headers that a part is sent with. -/
def headers (p : Part) : List (String × String) :=
  match p with
  | text _ _ => [("Content-Disposition", p.disposition)]
  | file _ upload =>
    [("Content-Disposition", p.disposition), ("Content-Type", upload.contentType)]

/-- What a part is read as. -/
def info : Part → PartInfo
  | text name _ => ⟨name, "", "application/octet-stream"⟩
  | file name upload => ⟨name, upload.filename, upload.contentType⟩

end Part

/-- The start of every boundary line. -/
def delimiter (boundary : String) : Bytes := dashes ++ Bytes.ofText boundary

/-- What stands behind a boundary: parts between boundary lines, and the end of the last line. -/
def writeParts (boundary : String) : List Part → Bytes
  | [] => dashes
  | p :: ps =>
    crlf ++ (writeHeaders p.headers ++ (crlf ++ crlf ++ (p.content ++
      (crlf ++ delimiter boundary ++ writeParts boundary ps))))

/-- The body in which a form is sent. -/
def writeForm (boundary : String) (ps : List Part) : Bytes :=
  delimiter boundary ++ writeParts boundary ps

/-- The content type with which a form is sent. -/
def writeType (boundary : String) : String :=
  String.ofList ("multipart/form-data".toList ++ writeParameters [("boundary", boundary)])

/-- A file that may be sent: its name has no directories, and name and type keep to one line. -/
structure Sendable (u : Upload) : Prop where
  filename_ne_empty : u.filename ≠ ""
  filename_line : '\r' ∉ u.filename.toList
  filename_base : '/' ∉ u.filename.toList ∧ '\\' ∉ u.filename.toList
  type_ne_empty : u.contentType ≠ ""
  type_line : '\r' ∉ u.contentType.toList
  type_trimmed : Text.trim u.contentType.toList = u.contentType.toList

/-- A part that may be sent with a boundary: its content holds no line break with it. -/
structure Part.Fits (boundary : String) (p : Part) : Prop where
  name_line : '\r' ∉ p.name.toList
  upload : ∀ name u, p.file? = some (name, u) → Sendable u
  content : ¬ crlf ++ delimiter boundary <:+: p.content

variable {boundary : String} {p : Part} {ps : List Part}

/-! ## The boundary -/

theorem isKey_boundary : IsKey "boundary" := .of_all (by decide) (by decide)

theorem isKey_name : IsKey "name" := .of_all (by decide) (by decide)

theorem isKey_filename : IsKey "filename" := .of_all (by decide) (by decide)

/-- **The boundary is read back** from the content type. -/
theorem boundary_writeType (hb : boundary ≠ "") :
    Form.boundary (writeType boundary) = .ok boundary := by
  have hsep : ';' ∉ "multipart/form-data".toList := by decide
  have hkeys : ∀ p ∈ [("boundary", boundary)], IsKey p.1 := by
    intro p hp
    rw [List.mem_singleton.1 hp]
    exact isKey_boundary
  have htype : String.ofList ((Text.trim "multipart/form-data".toList).map Char.toLower) =
      "multipart/form-data" := by decide
  have hkey : Text.Case.lowerAscii "boundary" = "boundary" := by decide
  have hmedia : mediaType (writeType boundary) = "multipart/form-data" :=
    (mediaType_append_write hsep).trans htype
  have hparams : parameters (writeType boundary) = [("boundary", boundary)] := by
    refine (parameters_append_write hsep hkeys).trans ?_
    rw [List.map_singleton, hkey]
  have hlookup : [("boundary", boundary)].lookup "boundary" = some boundary := by
    rw [List.lookup_cons, beq_self_eq_true]
  have hne : boundary.isEmpty = false := String.isEmpty_eq_false_iff.2 hb
  unfold Form.boundary
  rw [hmedia, hparams, hlookup]
  dsimp only
  rw [if_neg fun h => h.1 rfl, hne, if_neg Bool.false_ne_true]

/-! ## Headers -/

theorem Part.isKey (p : Part) : ∀ q ∈ p.parameters, IsKey q.1 := by
  intro q hq
  cases p with
  | text name content =>
    rw [Part.parameters, List.mem_singleton] at hq
    rw [hq]
    exact isKey_name
  | file name upload =>
    rw [Part.parameters, List.mem_cons, List.mem_singleton] at hq
    rcases hq with rfl | rfl
    · exact isKey_name
    · exact isKey_filename

theorem Part.parameters_disposition (p : Part) :
    Form.parameters p.disposition = p.parameters := by
  have hname : Text.Case.lowerAscii "name" = "name" := by decide
  have hfilename : Text.Case.lowerAscii "filename" = "filename" := by decide
  refine (parameters_append_write (by decide) p.isKey).trans ?_
  cases p with
  | text name content => rw [Part.parameters, List.map_singleton, hname]
  | file name upload =>
    rw [Part.parameters, List.map_cons, List.map_singleton, hname, hfilename]

theorem Part.Fits.value_line (hp : p.Fits boundary) : ∀ q ∈ p.parameters, '\r' ∉ q.2.toList := by
  intro q hq
  cases p with
  | text name content =>
    rw [List.mem_singleton.1 hq]
    exact hp.name_line
  | file name upload =>
    rw [Part.parameters, List.mem_cons, List.mem_singleton] at hq
    rcases hq with rfl | rfl
    · exact hp.name_line
    · exact (hp.upload name upload rfl).filename_line

theorem Part.Fits.isHeader_disposition (hp : p.Fits boundary) :
    IsHeader ("Content-Disposition", p.disposition) := by
  have htext : p.disposition.toList = "form-data".toList ++ writeParameters p.parameters :=
    String.toList_ofList
  have hhead : "form-data".toList.head? = some 'f' := by decide
  refine .of_all (by decide) (by decide) ?_ ?_
  · rw [htext, List.mem_append, not_or]
    refine ⟨by decide, not_mem_writeParameters (by decide) fun q hq => ⟨fun hc => ?_, ?_⟩⟩
    · exact absurd ((p.isKey q hq).not_blank _ hc) (by decide)
    · exact hp.value_line q hq
  · have hps : p.parameters ≠ [] := by cases p <;> exact List.cons_ne_nil _ _
    rw [htext]
    refine Text.trim_eq_self ?_ ?_
    · intro c hc
      rw [List.head?_append, hhead] at hc
      cases hc
      decide
    · intro c hc
      rw [getLast?_append_write _ hps] at hc
      cases hc
      decide

theorem Part.Fits.isHeader (hp : p.Fits boundary) : ∀ q ∈ p.headers, IsHeader q := by
  intro q hq
  cases p with
  | text name content =>
    rw [Part.headers, List.mem_singleton] at hq
    rw [hq]
    exact hp.isHeader_disposition
  | file name upload =>
    rw [Part.headers, List.mem_cons, List.mem_singleton] at hq
    rcases hq with rfl | rfl
    · exact hp.isHeader_disposition
    · have hu := hp.upload name upload rfl
      exact .of_all (by decide) (by decide) hu.type_line hu.type_trimmed

theorem Part.headers_ne_nil (p : Part) : p.headers ≠ [] := by
  cases p <;> exact List.cons_ne_nil _ _

theorem Part.get_disposition (p : Part) :
    (Headers.ofPairs p.headers).get "Content-Disposition" = p.disposition := by
  rw [Headers.get_ofPairs, Headers.canonicalName_contentDisposition]
  cases p with
  | text name content => simp [headers, Headers.canonicalName_contentDisposition]
  | file name upload => simp [headers, Headers.canonicalName_contentDisposition]

theorem Part.get_type_text (name : String) (content : Bytes) :
    (Headers.ofPairs (Part.text name content).headers).get "Content-Type" = "" := by
  rw [Headers.get_ofPairs, Headers.canonicalName_contentType]
  simp [headers, Headers.canonicalName_contentDisposition]

theorem Part.get_type_file (name : String) (upload : Upload) :
    (Headers.ofPairs (Part.file name upload).headers).get "Content-Type" = upload.contentType := by
  rw [Headers.get_ofPairs, Headers.canonicalName_contentType]
  simp [headers, Headers.canonicalName_contentDisposition, Headers.canonicalName_contentType]

theorem Sendable.baseName_filename {u : Upload} (hu : Sendable u) :
    baseName u.filename = u.filename := by
  have hnone : Text.cutLast (fun c => c = '/' || c = '\\') u.filename.toList = none := by
    refine Text.cutLast_of_not_mem fun c hc => ?_
    have hslash : c ≠ '/' := fun he => hu.filename_base.1 (he ▸ hc)
    have hback : c ≠ '\\' := fun he => hu.filename_base.2 (he ▸ hc)
    simp [hslash, hback]
  rw [baseName, hnone]

/-- **The headers of a part say what it is.** -/
theorem Part.Fits.ofHeaders?_headers (hp : p.Fits boundary) :
    PartInfo.ofHeaders? (Headers.ofPairs p.headers) = some p.info := by
  unfold PartInfo.ofHeaders?
  dsimp only
  rw [p.get_disposition, p.parameters_disposition]
  cases p with
  | text name content =>
    rw [Part.get_type_text]
    rfl
  | file name upload =>
    have hu := hp.upload name upload rfl
    have htype : upload.contentType.isEmpty = false :=
      String.isEmpty_eq_false_iff.2 hu.type_ne_empty
    have hname : (Part.file name upload).parameters.lookup "name" = some name := rfl
    have hfilename : (Part.file name upload).parameters.lookup "filename" = some upload.filename :=
      rfl
    rw [Part.get_type_file, hname, hfilename, htype, Option.map_some, Option.map_some,
      hu.baseName_filename]
    rfl

/-! ## Bodies -/

theorem not_mem_delimiter (hcr : '\r' ∉ boundary.toList) : (13 : UInt8) ∉ delimiter boundary := by
  rw [delimiter, List.mem_append, not_or]
  exact ⟨by decide, not_mem_encode hcr⟩

/-- **A part is taken from a body** with its headers and its content. -/
theorem nextPart_writeParts (hcr : '\r' ∉ boundary.toList) (hp : p.Fits boundary)
    (ps : List Part) :
    nextPart (crlf ++ delimiter boundary) (writeParts boundary (p :: ps)) =
      .ok (some ⟨writeHeaders p.headers, p.content, writeParts boundary ps⟩) := by
  have hheaders := splitHeaders_writeHeaders p.headers_ne_nil hp.isHeader
    (p.content ++ (crlf ++ delimiter boundary ++ writeParts boundary ps))
  have htail : (13 : UInt8) ∉ (crlf ++ delimiter boundary).tail := by
    change (13 : UInt8) ∉ 10 :: delimiter boundary
    rw [List.mem_cons, not_or]
    exact ⟨by decide, not_mem_delimiter hcr⟩
  have hcontent : Bytes.splitAt? (crlf ++ delimiter boundary)
      (p.content ++ (crlf ++ delimiter boundary ++ writeParts boundary ps)) =
        some (p.content, writeParts boundary ps) :=
    Bytes.splitAt?_of_head_once rfl htail hp.content
  -- the line break that ends the boundary line, and no second one: the headers are not empty
  have hdashes : dashes.isPrefixOf (writeParts boundary (p :: ps)) = false := rfl
  have hline : afterBoundaryLine? (writeParts boundary (p :: ps)) =
      some (writeHeaders p.headers ++ (crlf ++ crlf ++ (p.content ++
        (crlf ++ delimiter boundary ++ writeParts boundary ps)))) := rfl
  unfold nextPart
  rw [hdashes, if_neg Bool.false_ne_true, hline]
  dsimp only
  rw [hheaders]
  simp only [bind, Except.bind, hcontent]

theorem nextPart_writeParts_nil (close : Bytes) :
    nextPart close (writeParts boundary []) = .ok none := rfl

/-- A part is what it was sent as. -/
theorem part?_written (hp : p.Fits boundary) (rest : Bytes) :
    RawPart.part? ⟨writeHeaders p.headers, p.content, rest⟩ = .ok (some p) := by
  rw [RawPart.part?, readHeaders_writeHeaders p.headers_ne_nil hp.isHeader]
  dsimp only
  rw [hp.ofHeaders?_headers, Option.map_some]
  cases p with
  | text name content => rfl
  | file name upload =>
    have hne : upload.filename.isEmpty = false :=
      String.isEmpty_eq_false_iff.2 (hp.upload name upload rfl).filename_ne_empty
    rw [PartInfo.part, Part.info]
    dsimp only [Part.content]
    rw [hne, if_neg Bool.false_ne_true]

theorem partsFrom_writeParts (hcr : '\r' ∉ boundary.toList) (hps : ∀ p ∈ ps, p.Fits boundary) :
    partsFrom (crlf ++ delimiter boundary) (writeParts boundary ps) = .ok ps := by
  induction ps with
  | nil => exact partsFrom_of_none (nextPart_writeParts_nil _)
  | cons p ps ih =>
    have hp : p.Fits boundary := hps p List.mem_cons_self
    rw [partsFrom_of_part (nextPart_writeParts hcr hp ps) (part?_written hp _),
      ih fun q hq => hps q (List.mem_cons_of_mem p hq)]
    rfl

/-- **The parts of a body are those that were sent.** -/
theorem partsOf_writeForm (hb : boundary ≠ "") (hcr : '\r' ∉ boundary.toList)
    (hps : ∀ p ∈ ps, p.Fits boundary) :
    partsOf (writeType boundary) (writeForm boundary ps) = .ok ps := by
  -- the body is split at its first boundary, with which it begins
  have hsplit : Bytes.splitAt? (dashes ++ Bytes.ofText boundary) (writeForm boundary ps) =
      some ([], writeParts boundary ps) := Bytes.splitAt?_self_append _ _
  have hparts : partsFrom (crlf ++ (dashes ++ Bytes.ofText boundary)) (writeParts boundary ps) =
      .ok ps := partsFrom_writeParts hcr hps
  have hopening : opening (writeType boundary) (writeForm boundary ps) =
      .ok (crlf ++ (dashes ++ Bytes.ofText boundary), writeParts boundary ps) := by
    rw [opening, boundary_writeType hb]
    dsimp only
    rw [hsplit]
  exact partsOf_eq_ok_iff.2 ⟨_, hopening, hparts⟩

end Form

/-! ## Forms -/

namespace Multipart

open Form

variable {boundary : String} {p : Part} {ps : List Part} {s : Reading}

/-- A part is taken in, as long as the text allowed is not used up. -/
theorem exists_add (hroom : (p.content.length : Int) ≤ s.textLeft) :
    ∃ t, s.add p = .ok t ∧ s.textLeft - p.content.length ≤ t.textLeft := by
  cases p with
  | text name content =>
    have hleft : ¬ s.textLeft - content.length < 0 := by
      change (content.length : Int) ≤ s.textLeft at hroom
      omega
    rw [Reading.add, Reading.addText]
    dsimp only
    rw [if_neg hleft]
    exact ⟨_, rfl, Int.le_refl _⟩
  | file name upload =>
    refine ⟨s.addFile name upload, rfl, ?_⟩
    -- a file that spills uses nothing of what is allowed
    change s.textLeft - upload.size ≤ s.textLeft - ite _ _ _
    split <;> omega

/-- All parts are taken in, as long as the text allowed is not used up. -/
theorem exists_foldlM_add (hroom : ((ps.map (·.content.length)).sum : Nat) ≤ s.textLeft) :
    ∃ t, ps.foldlM Reading.add s = .ok t := by
  induction ps generalizing s with
  | nil => exact ⟨s, rfl⟩
  | cons p ps ih =>
    rw [List.map_cons, List.sum_cons] at hroom
    -- the first part leaves at least the room that the others need
    obtain ⟨t, ht, hleft⟩ := exists_add (s := s) (p := p) (by omega)
    obtain ⟨u, hu⟩ := ih (s := t) (by omega)
    refine ⟨u, ?_⟩
    rw [List.foldlM_cons, ht]
    exact hu

/-- **The form that was sent is read**, and holds the parts that were sent, if their contents fit
into the memory allowed and the text allowance together. -/
theorem exists_parse_writeForm (hb : boundary ≠ "") (hcr : '\r' ∉ boundary.toList)
    (hps : ∀ p ∈ ps, p.Fits boundary) {maxMemory : Nat}
    (hroom : (ps.map (·.content.length)).sum ≤ maxMemory + textAllowance) :
    ∃ m, parse (writeType boundary) (writeForm boundary ps) maxMemory = .ok m ∧ m.Holds ps := by
  have hleft : ((ps.map (·.content.length)).sum : Nat) ≤ (Reading.start maxMemory).textLeft := by
    change ((ps.map (·.content.length)).sum : Nat) ≤ (maxMemory : Int) + textAllowance
    omega
  obtain ⟨t, ht⟩ := exists_foldlM_add hleft
  refine ⟨t.form, ?_, holds_of_foldlM_add ht⟩
  rw [parse_eq_of_partsOf (partsOf_writeForm hb hcr hps), ht]
  rfl

/-- The file of a field is the first among the parts. -/
theorem Holds.file?_eq {m : Multipart} (h : m.Holds ps) (field : String) :
    m.file? field = ((ps.filterMap Part.file?).find? (·.1 = field)).map (·.2) := by
  rw [Multipart.file?_eq, h.uploads]

end Multipart

/-- **What was sent is what is read.** A form that is sent with a boundary is read, whatever the
memory allowed, if its contents fit into that and the text allowance together; its values are
those of the text fields, added in order, and the file of a field is the first that was sent
for it: its name, its type and its size are known before it is read, and with its bytes it is what
was sent. -/
theorem multipart_round_trip {boundary : String} (hb : boundary ≠ "") (hcr : '\r' ∉ boundary.toList)
    {ps : List Form.Part} (hps : ∀ p ∈ ps, p.Fits boundary) (maxMemory : Nat)
    (hroom : (ps.map (·.content.length)).sum ≤ maxMemory + Form.textAllowance) :
    ∃ m, Multipart.parse (Form.writeType boundary) (Form.writeForm boundary ps) maxMemory = .ok m ∧
      m.values = Fields.ofPairs (ps.filterMap Form.Part.text?) ∧
      ∀ field,
        m.info? field = ((ps.filterMap Form.Part.file?).find? (·.1 = field)).map
          (fun f => ⟨f.2.filename, f.2.contentType, f.2.content.length⟩) ∧
        m.file? field = ((ps.filterMap Form.Part.file?).find? (·.1 = field)).map (·.2) := by
  obtain ⟨m, hm, hholds⟩ := Multipart.exists_parse_writeForm hb hcr hps hroom
  refine ⟨m, hm, hholds.values, fun field => ?_⟩
  have hfile := hholds.file?_eq field
  refine ⟨?_, hfile⟩
  rw [hholds.info?_eq, hfile, Option.map_map]
  rfl

/-- With no memory allowed, a file is read back whole from disk, though its content ends as a
boundary line begins, and its four bytes are known before. A field of text is no file. -/
theorem multipart_round_trip_of_dashes :
    let file : Upload := ⟨"a;b.txt", "text/plain", [13, 10, 45, 45]⟩
    let ps : List Form.Part := [.text "t" (Bytes.ofText "one"), .file "up" file]
    (∀ p ∈ ps, p.Fits "b\"") ∧
      ∃ m, Multipart.parse (Form.writeType "b\"") (Form.writeForm "b\"" ps) 0 = .ok m ∧
        m.values = Fields.empty.add "t" "one" ∧
        m.info? "up" = some ⟨"a;b.txt", "text/plain", 4⟩ ∧ m.file? "up" = some file ∧
        m.info? "t" = none ∧ m.file? "t" = none := by
  intro file ps
  have hps : ∀ p ∈ ps, p.Fits "b\"" := by
    intro p hp
    rcases List.mem_cons.1 hp with rfl | hp
    · exact ⟨by decide, nofun, by decide⟩
    · rw [List.mem_singleton.1 hp]
      refine ⟨by decide, fun name u hu => ?_, by decide⟩
      cases hu
      exact ⟨by decide, by decide, by decide, by decide, by decide, by decide⟩
  obtain ⟨m, hm, hvalues, hfields⟩ := multipart_round_trip (by decide) (by decide) hps 0 (by decide)
  exact ⟨hps, m, hm, hvalues, (hfields "up").1, (hfields "up").2, (hfields "t").1, (hfields "t").2⟩

end WebScript
