import Mathlib.Data.List.Induction
import WebScript.Proofs.Multipart.RoundTrip

/-!
# What a form may use

Files are kept in memory as long as they fit into the memory allowed, each with those kept before it.
Text fields may use that memory and the text allowance. A file that is kept takes from what is left
for text; one that is put on disk does not.

* `Form.textSize`, `Form.kept`: the bytes of text, and of the files that are kept in memory.
* `Form.Overflows`: some text field does not fit in with the text and the kept files before it.
* `Multipart.Reading.Accounts`: **the account of a reading**; `accounts_add`: one part keeps it.
* `Multipart.Reading.start_cases`: a reading fails exactly if its parts overflow.
* `upload_accounting`: **what a form holds in memory is bounded**, and its files are named well.
* `text_limit_iff`: **a form is too large exactly if its parts overflow**.
* `text_limit_shrinks`: so more memory may be too little, for a file that is kept because of it.
-/

namespace WebScript

/-! ## The bytes of parts -/

namespace Form

variable {maxMemory : Nat} {ps : List Part} {p : Part}

namespace Part

/-- The bytes of text in a part. -/
def textSize : Part → Nat
  | text _ content => content.length
  | file _ _ => 0

/-- The bytes of the file in a part. -/
def fileSize : Part → Nat
  | text _ _ => 0
  | file _ upload => upload.size

/-- The memory that files use when a part has come: a file is kept if there is room for it. -/
def keep (maxMemory used : Nat) : Part → Nat
  | text _ _ => used
  | file _ upload => if used + upload.size ≤ maxMemory then used + upload.size else used

end Part

/-- The bytes of all text fields. -/
def textSize (ps : List Part) : Nat := (ps.map Part.textSize).sum

/-- The bytes of all files. -/
def fileSize (ps : List Part) : Nat := (ps.map Part.fileSize).sum

/-- **The bytes of the files that are kept in memory**: each that fits in with those before it. -/
def kept (maxMemory : Nat) (ps : List Part) : Nat := ps.foldl (Part.keep maxMemory) 0

/-- **There is too much text**: some text field, the text before it and the files that are kept
before it exceed the memory allowed and the text allowance. -/
def Overflows (maxMemory : Nat) (ps : List Part) : Prop :=
  ∃ before name content after, ps = before ++ .text name content :: after ∧
    maxMemory + textAllowance < textSize before + content.length + kept maxMemory before

theorem textSize_append (ps qs : List Part) : textSize (ps ++ qs) = textSize ps + textSize qs := by
  rw [textSize, List.map_append, List.sum_append, textSize, textSize]

theorem fileSize_append (ps qs : List Part) : fileSize (ps ++ qs) = fileSize ps + fileSize qs := by
  rw [fileSize, List.map_append, List.sum_append, fileSize, fileSize]

theorem textSize_concat (ps : List Part) (p : Part) :
    textSize (ps ++ [p]) = textSize ps + p.textSize := by
  rw [textSize_append]
  rfl

theorem fileSize_concat (ps : List Part) (p : Part) :
    fileSize (ps ++ [p]) = fileSize ps + p.fileSize := by
  rw [fileSize_append]
  rfl

theorem kept_concat (maxMemory : Nat) (ps : List Part) (p : Part) :
    kept maxMemory (ps ++ [p]) = p.keep maxMemory (kept maxMemory ps) := by
  rw [kept, List.foldl_append]
  rfl

/-- **The files that are kept fit into the memory allowed.** -/
theorem kept_le (maxMemory : Nat) (ps : List Part) : kept maxMemory ps ≤ maxMemory := by
  -- from the last part, since whether a file is kept depends on those before it
  induction ps using List.reverseRecOn with
  | nil => exact Nat.zero_le _
  | append_singleton ps p ih =>
    rw [kept_concat]
    cases p with
    | text name content => exact ih
    | file name upload =>
      rw [Part.keep]
      split <;> omega

/-- No more files are kept than there are. -/
theorem kept_le_fileSize (maxMemory : Nat) (ps : List Part) : kept maxMemory ps ≤ fileSize ps := by
  induction ps using List.reverseRecOn with
  | nil => exact Nat.le_refl _
  | append_singleton ps p ih =>
    rw [kept_concat, fileSize_concat]
    cases p with
    | text name content => exact ih
    | file name upload =>
      rw [Part.keep, Part.fileSize]
      split <;> omega

/-- The last of some elements is the one that is told apart, or stands behind it. -/
theorem concat_eq_append_cons_iff {α : Type} {l before after : List α} {x y : α} :
    l ++ [x] = before ++ y :: after ↔
      (after = [] ∧ l = before ∧ x = y) ∨ ∃ rest, after = rest ++ [x] ∧ l = before ++ y :: rest := by
  rcases List.eq_nil_or_concat after with rfl | ⟨rest, z, rfl⟩
  · simp
  · rw [List.concat_eq_append, ← List.cons_append, ← List.append_assoc]
    constructor
    · intro h
      obtain ⟨hl, hx⟩ := List.append_inj' h rfl
      cases hx
      exact .inr ⟨rest, rfl, hl⟩
    · rintro (⟨h, -⟩ | ⟨rest', h, rfl⟩)
      · exact absurd h (by simp)
      · obtain ⟨rfl, hx⟩ := List.append_inj' h rfl
        cases hx
        rfl

/-- Parts overflow with the last one if they do without it, or for the text of the last one. -/
theorem overflows_concat_iff :
    Overflows maxMemory (ps ++ [p]) ↔ Overflows maxMemory ps ∨
      ∃ name content, p = .text name content ∧
        maxMemory + textAllowance < textSize ps + content.length + kept maxMemory ps := by
  constructor
  · rintro ⟨before, name, content, after, heq, hover⟩
    rcases concat_eq_append_cons_iff.1 heq with ⟨-, rfl, rfl⟩ | ⟨rest, -, rfl⟩
    · exact .inr ⟨name, content, rfl, hover⟩
    · exact .inl ⟨before, name, content, rest, rfl, hover⟩
  · rintro (⟨before, name, content, rest, rfl, hover⟩ | ⟨name, content, rfl, hover⟩)
    · exact ⟨before, name, content, rest ++ [p], by simp, hover⟩
    · exact ⟨ps, name, content, [], rfl, hover⟩

/-- A file and a text field overflow if the text exceeds what the file leaves. -/
theorem overflows_file_text_iff {field name : String} {upload : Upload} {content : Bytes} :
    Overflows maxMemory [.file field upload, .text name content] ↔
      maxMemory + textAllowance <
        content.length + if upload.size ≤ maxMemory then upload.size else 0 := by
  have hkept : kept maxMemory [.file field upload] =
      if upload.size ≤ maxMemory then upload.size else 0 := by
    simp [kept, Part.keep]
  have hfile : ¬ Overflows maxMemory [.file field upload] := by
    rintro ⟨before, name, content, after, heq, -⟩
    rcases List.cons_eq_append_iff.1 heq with ⟨rfl, h⟩ | ⟨rest, rfl, h⟩
    · cases h
    · simp at h
  have hnone : textSize [.file field upload] = 0 := rfl
  have hlast : Overflows maxMemory ([.file field upload] ++ [.text name content]) ↔ _ :=
    overflows_concat_iff
  rw [or_iff_right hfile, hkept, hnone] at hlast
  refine hlast.trans ?_
  constructor
  · rintro ⟨name', content', heq, h⟩
    cases heq
    rwa [Nat.zero_add] at h
  · intro h
    exact ⟨name, content, rfl, by rwa [Nat.zero_add]⟩

/-- More text than the memory allowed and the text allowance is always too much. -/
theorem overflows_of_textSize (h : maxMemory + textAllowance < textSize ps) :
    Overflows maxMemory ps := by
  induction ps using List.reverseRecOn with
  | nil => exact absurd h (Nat.not_lt_zero _)
  | append_singleton ps p ih =>
    rw [overflows_concat_iff]
    rw [textSize_concat] at h
    cases p with
    | text name content => exact .inr ⟨name, content, rfl, Nat.lt_add_right _ h⟩
    | file name upload => exact .inl (ih h)

/-- Text within the text allowance is never too much: what files use is memory that is allowed. -/
theorem not_overflows_of_textSize (h : textSize ps ≤ textAllowance) (maxMemory : Nat) :
    ¬ Overflows maxMemory ps := by
  rintro ⟨before, name, content, after, rfl, hover⟩
  -- what the kept files use is memory allowed, so the text alone would exceed the allowance
  have hkept := kept_le maxMemory before
  have hsize : textSize (before ++ .text name content :: after) =
      textSize before + (content.length + textSize after) := textSize_append _ _
  omega

/-- Where no file stands before a text field, only text counts. -/
theorem overflows_iff_of_text_first
    (h : ∀ before name content after, ps = before ++ .text name content :: after →
      fileSize before = 0) :
    Overflows maxMemory ps ↔ maxMemory + textAllowance < textSize ps := by
  refine ⟨?_, overflows_of_textSize⟩
  rintro ⟨before, name, content, after, rfl, hover⟩
  have hkept := kept_le_fileSize maxMemory before
  have hnone := h before name content after rfl
  have hsize : textSize (before ++ .text name content :: after) =
      textSize before + (content.length + textSize after) := textSize_append _ _
  omega

/-- Enough more memory for all files makes up for those that are kept because of it. -/
theorem not_overflows_add (h : ¬ Overflows maxMemory ps) {more : Nat} (hmore : fileSize ps ≤ more) :
    ¬ Overflows (maxMemory + more) ps := by
  rintro ⟨before, name, content, after, rfl, hover⟩
  have hkept := kept_le_fileSize (maxMemory + more) before
  have hsize : fileSize (before ++ .text name content :: after) =
      fileSize before + (0 + fileSize after) := fileSize_append _ _
  -- the same field overflowed before, for at most all files are kept now
  refine h ⟨before, name, content, after, rfl, ?_⟩
  omega

end Form

/-! ## The account of a reading -/

namespace Multipart

open Form

/-- The bytes that some files have in memory. -/
def heldBy (files : List FilePart) : Nat := (files.map (·.stored.held)).sum

theorem heldBy_concat (files : List FilePart) (f : FilePart) :
    heldBy (files ++ [f]) = heldBy files + f.stored.held := by
  rw [heldBy, List.map_append, List.sum_append, heldBy]
  rfl

variable {maxMemory : Nat} {ps : List Part} {p : Part} {s t : Reading} {f : MultipartFault}

namespace Reading

/-- **The account of a reading** that has taken in some parts with the memory allowed: what is left
of it, and which files were put on disk. -/
structure Accounts (maxMemory : Nat) (ps : List Part) (s : Reading) : Prop where
  held : heldBy s.form.files = kept maxMemory ps
  memoryLeft : s.memoryLeft = maxMemory - kept maxMemory ps
  textLeft : s.textLeft = s.memoryLeft + textAllowance - textSize ps
  text : textSize ps ≤ maxMemory + textAllowance
  spilled : ∀ before f after, s.form.files = before ++ f :: after →
    (f.spilled ↔ maxMemory - heldBy before < f.info.size)

theorem accounts_start (maxMemory : Nat) : (start maxMemory).Accounts maxMemory [] where
  held := rfl
  memoryLeft := (Int.sub_zero _).symm
  textLeft := (Int.sub_zero _).symm
  text := Nat.zero_le _
  spilled before f after h := by simp [start, empty] at h

/-- A file that exceeds what is left of the memory allowed is put on disk and uses nothing. -/
theorem addFile_of_lt {field : String} {upload : Upload} (h : s.memoryLeft < upload.size) :
    s.addFile field upload =
      { s with form := { s.form with
          files := s.form.files ++ [.ofUpload field upload true] } } := by
  simp [addFile, h]

/-- A file that does not exceed it is kept in memory. -/
theorem addFile_of_le {field : String} {upload : Upload} (h : (upload.size : Int) ≤ s.memoryLeft) :
    s.addFile field upload =
      ⟨{ s.form with files := s.form.files ++ [.ofUpload field upload false] },
        s.memoryLeft - upload.size, s.textLeft - upload.size⟩ := by
  simp [addFile, Int.not_lt.2 h]

/-- There is no room for a text field if it exceeds, with the text and the kept files before it, the
memory allowed and the text allowance. -/
theorem Accounts.add_eq_error_iff (hs : s.Accounts maxMemory ps) :
    s.add p = .error f ↔ f = .tooLarge ∧ ∃ name content, p = .text name content ∧
      maxMemory + textAllowance < textSize ps + content.length + kept maxMemory ps := by
  have hkept := kept_le maxMemory ps
  have hleft := hs.memoryLeft
  have htext := hs.textLeft
  cases p with
  | file name upload =>
    have hok : s.add (.file name upload) ≠ .error f := by
      intro h
      cases h
    exact iff_of_false hok (by simp)
  | text name content =>
    rw [add, addText]
    dsimp only
    by_cases hover : s.textLeft - content.length < 0
    · rw [if_pos hover, Except.error.injEq, eq_comm]
      exact (and_iff_left ⟨name, content, rfl, by omega⟩).symm
    · rw [if_neg hover]
      constructor
      · intro h
        cases h
      · rintro ⟨-, name', content', heq, hsize⟩
        cases heq
        omega

/-- The files of a reading and one more: each is put on disk just if it exceeds what those before it
leave of the memory allowed. -/
theorem Accounts.spilled_concat (hs : s.Accounts maxMemory ps) {field : String} {upload : Upload}
    {spills : Bool} (h : spills ↔ maxMemory - kept maxMemory ps < upload.size) :
    ∀ before f after, s.form.files ++ [.ofUpload field upload spills] = before ++ f :: after →
      (f.spilled ↔ maxMemory - heldBy before < f.info.size) := by
  intro before f after hfiles
  rcases concat_eq_append_cons_iff.1 hfiles with ⟨-, hbefore, rfl⟩ | ⟨rest, -, hrest⟩
  · rw [← hbefore, hs.held, FilePart.spilled, FilePart.ofUpload, Storage.onDisk_store, h]
    rfl
  · exact hs.spilled before f rest hrest

theorem Accounts.addFile (hs : s.Accounts maxMemory ps) (field : String) (upload : Upload) :
    (s.addFile field upload).Accounts maxMemory (ps ++ [.file field upload]) := by
  have hkept := kept_le maxMemory ps
  have hleft := hs.memoryLeft
  have htext := hs.textLeft
  have hsize : textSize (ps ++ [.file field upload]) = textSize ps := textSize_concat ps _
  -- kept, the file uses memory and room for text; put on disk, it uses neither
  by_cases hfits : kept maxMemory ps + upload.size ≤ maxMemory
  · have hnew : kept maxMemory (ps ++ [.file field upload]) = kept maxMemory ps + upload.size := by
      rw [kept_concat, Part.keep, if_pos hfits]
    rw [addFile_of_le (by omega)]
    refine ⟨?_, ?_, ?_, by rw [hsize]; exact hs.text, hs.spilled_concat ?_⟩
    · rw [heldBy_concat, hs.held, hnew]
      rfl
    · rw [hnew]
      dsimp only
      omega
    · rw [hsize]
      dsimp only
      omega
    · exact iff_of_false Bool.false_ne_true (by omega)
  · have hnew : kept maxMemory (ps ++ [.file field upload]) = kept maxMemory ps := by
      rw [kept_concat, Part.keep, if_neg hfits]
    rw [addFile_of_lt (by omega)]
    refine ⟨?_, ?_, ?_, by rw [hsize]; exact hs.text, hs.spilled_concat ?_⟩
    · rw [heldBy_concat, hs.held, hnew]
      rfl
    · rw [hnew]
      exact hleft
    · rw [hsize]
      exact htext
    · exact iff_of_true rfl (by omega)

/-- **One part keeps the account.** -/
theorem accounts_add (hs : s.Accounts maxMemory ps) (h : s.add p = .ok t) :
    t.Accounts maxMemory (ps ++ [p]) := by
  have hkept := kept_le maxMemory ps
  cases p with
  | text name content =>
    obtain ⟨hroom, rfl⟩ := addText_eq_ok_iff.1 h
    have hleft := hs.memoryLeft
    have htext := hs.textLeft
    refine ⟨?_, ?_, ?_, ?_, hs.spilled⟩
    · rw [kept_concat]
      exact hs.held
    · rw [kept_concat]
      exact hs.memoryLeft
    · rw [textSize_concat, Part.textSize]
      dsimp only
      omega
    · rw [textSize_concat, Part.textSize]
      omega
  | file name upload =>
    cases h
    exact hs.addFile name upload

/-- **A reading fails exactly if its parts overflow**, and then as too large. -/
theorem start_cases (maxMemory : Nat) (ps : List Part) :
    (¬ Overflows maxMemory ps ∧
      ∃ t, ps.foldlM add (start maxMemory) = .ok t ∧ t.Accounts maxMemory ps) ∨
    (Overflows maxMemory ps ∧ ps.foldlM add (start maxMemory) = .error .tooLarge) := by
  -- along the account: the parts before the last either failed or have one
  induction ps using List.reverseRecOn with
  | nil => exact .inl ⟨by rintro ⟨before, name, content, after, heq, -⟩; simp at heq,
      start maxMemory, rfl, accounts_start maxMemory⟩
  | append_singleton ps p ih =>
    rw [overflows_concat_iff, List.foldlM_append]
    rcases ih with ⟨hnot, s, hs, haccounts⟩ | ⟨hover, hfail⟩
    · have hnext : (ps.foldlM add (start maxMemory) >>= fun s => [p].foldlM add s) = s.add p := by
        rw [hs]
        exact bind_pure (s.add p)
      rw [hnext]
      cases hadd : s.add p with
      | error f =>
        obtain ⟨rfl, hover⟩ := haccounts.add_eq_error_iff.1 hadd
        exact .inr ⟨.inr hover, rfl⟩
      | ok t =>
        refine .inl ⟨?_, t, rfl, accounts_add haccounts hadd⟩
        rintro (hover | hover)
        · exact hnot hover
        · -- then the last part would have failed
          have hfail : s.add p = .error .tooLarge := haccounts.add_eq_error_iff.2 ⟨rfl, hover⟩
          cases hadd.symm.trans hfail
    · rw [hfail]
      exact .inr ⟨.inl hover, rfl⟩

end Reading

variable {contentType : String} {body : Bytes}

/-- **Reading a body whose parts are known**: it fails if they overflow, and else comes to a form
that holds them. -/
theorem parse_cases (hps : partsOf contentType body = .ok ps) (maxMemory : Nat) :
    (¬ Overflows maxMemory ps ∧ ∃ t : Reading, parse contentType body maxMemory = .ok t.form ∧
      t.form.Holds ps ∧ t.Accounts maxMemory ps) ∨
    (Overflows maxMemory ps ∧ parse contentType body maxMemory = .error .tooLarge) := by
  rw [parse_eq_of_partsOf hps]
  rcases Reading.start_cases maxMemory ps with ⟨hnot, t, ht, haccounts⟩ | ⟨hover, hfail⟩
  · rw [ht]
    exact .inl ⟨hnot, t, rfl, holds_of_foldlM_add ht, haccounts⟩
  · rw [hfail]
    exact .inr ⟨hover, rfl⟩

theorem parse_eq_error_iff (hps : partsOf contentType body = .ok ps) :
    parse contentType body maxMemory = .error .tooLarge ↔ Overflows maxMemory ps := by
  rcases parse_cases hps maxMemory with ⟨hnot, t, ht, -⟩ | ⟨hover, hfail⟩
  · rw [ht]
    exact iff_of_false nofun hnot
  · exact iff_of_true hfail hover

theorem exists_parse_iff (hps : partsOf contentType body = .ok ps) :
    (∃ m, parse contentType body maxMemory = .ok m) ↔ ¬ Overflows maxMemory ps := by
  rcases parse_cases hps maxMemory with ⟨hnot, t, ht, -⟩ | ⟨hover, hfail⟩
  · exact iff_of_true ⟨t.form, ht⟩ hnot
  · rw [hfail]
    exact iff_of_false (by simp) (not_not_intro hover)

end Multipart

/-! ## Main results -/

/-- **What a form holds in memory is bounded, and what it says of its files is true.** The files in
memory have no more bytes than the memory allowed. A file is put on disk exactly if it exceeds what
the files in memory before it leave of that. The text fields have no more bytes than the memory
allowed and the text allowance. Every file has a name without directories, a content type, and the
size that its bytes have when they are read back. -/
theorem upload_accounting {contentType : String} {body : Bytes} {maxMemory : Nat} {m : Multipart}
    (h : Multipart.parse contentType body maxMemory = .ok m) :
    Multipart.heldBy m.files ≤ maxMemory ∧
    (∀ before f after, m.files = before ++ f :: after →
      (f.spilled ↔ maxMemory - Multipart.heldBy before < f.info.size)) ∧
    (∃ ps, Form.partsOf contentType body = .ok ps ∧ m.Holds ps ∧
      Form.textSize ps ≤ maxMemory + Form.textAllowance) ∧
    ∀ f ∈ m.files, Form.Named f.info ∧ f.info.size = f.upload.content.length := by
  obtain ⟨ps, hps⟩ := Multipart.exists_partsOf h
  rcases Multipart.parse_cases hps maxMemory with ⟨-, t, ht, hholds, haccounts⟩ | ⟨-, hfail⟩
  · obtain rfl : m = t.form := Except.ok.inj (h.symm.trans ht)
    refine ⟨?_, haccounts.spilled, ⟨ps, hps, hholds, haccounts.text⟩, fun f hf => ?_⟩
    · rw [haccounts.held]
      exact Form.kept_le maxMemory ps
    · have hinfo : f.info = f.upload.info := hholds.info f hf
      have hupload : (f.field, f.upload) ∈ t.form.uploads := List.mem_map_of_mem hf
      rw [hholds.uploads] at hupload
      obtain ⟨q, hq, hfile⟩ := List.mem_filterMap.1 hupload
      obtain ⟨start, -, hparts⟩ := Form.partsOf_eq_ok_iff.1 hps
      have hnamed := Form.forall_mem_partsFrom (fun p q hp => Form.named_of_part? hp) hparts q hq
      refine ⟨?_, ?_⟩
      · rw [hinfo]
        exact hnamed _ _ hfile
      · rw [hinfo]
        rfl
  · cases h.symm.trans hfail

/-- Of two files that fit into three bytes each, the first is kept and the second put on disk. -/
theorem upload_accounting_of_two :
    let contentType := "multipart/form-data; boundary=b"
    let head := Bytes.ofText "--b\r\nContent-Disposition: form-data; " ++
      Bytes.ofText "name=\"up\"; filename=\"d/a\"\r\n\r\n"
    let body := head ++ Bytes.ofText "xy\r\n" ++ head ++ Bytes.ofText "zz\r\n--b--"
    ∃ m, Multipart.parse contentType body 3 = .ok m ∧
      m.files.map (·.spilled) = [false, true] ∧ Multipart.heldBy m.files ≤ 3 ∧
      ∀ f ∈ m.files, Form.Named f.info ∧ f.info.size = f.upload.content.length := by
  intro contentType head body
  let info : FileInfo := ⟨"a", "application/octet-stream", 2⟩
  let m : Multipart := ⟨.empty, [⟨"up", info, .memory [120, 121]⟩,
    ⟨"up", info, .disk ⟨[122, 122]⟩⟩]⟩
  have hread : Multipart.parse contentType body 3 = .ok m := by decide +kernel
  obtain ⟨hheld, -, -, hfiles⟩ := upload_accounting hread
  exact ⟨m, hread, rfl, hheld, hfiles⟩

/-- **A form is too large exactly if its parts overflow**, and else it is read: a text field, the
text before it and the files that are kept before it have to fit into the memory allowed and the text
allowance. So more text than these is too large in any case, text within the allowance never is, and
where no file stands before a text field only text counts. More memory makes more files stay in
memory, and is enough for a form that was read with less if it is more by the size of all files. -/
theorem text_limit_iff {contentType : String} {body : Bytes} {maxMemory₀ : Nat} {m₀ : Multipart}
    (h : Multipart.parse contentType body maxMemory₀ = .ok m₀) :
    ∃ ps, Form.partsOf contentType body = .ok ps ∧
      (∀ maxMemory,
        (Multipart.parse contentType body maxMemory = .error .tooLarge ↔
          Form.Overflows maxMemory ps) ∧
        ((∃ m, Multipart.parse contentType body maxMemory = .ok m) ↔
          ¬ Form.Overflows maxMemory ps) ∧
        (maxMemory + Form.textAllowance < Form.textSize ps →
          Multipart.parse contentType body maxMemory = .error .tooLarge) ∧
        (Form.textSize ps ≤ Form.textAllowance →
          ∃ m, Multipart.parse contentType body maxMemory = .ok m) ∧
        ((∀ before name content after, ps = before ++ .text name content :: after →
            Form.fileSize before = 0) →
          (Multipart.parse contentType body maxMemory = .error .tooLarge ↔
            maxMemory + Form.textAllowance < Form.textSize ps))) ∧
      ∀ maxMemory more m, Multipart.parse contentType body maxMemory = .ok m →
        Form.fileSize ps ≤ more →
        ∃ m', Multipart.parse contentType body (maxMemory + more) = .ok m' := by
  obtain ⟨ps, hps⟩ := Multipart.exists_partsOf h
  refine ⟨ps, hps, fun maxMemory => ⟨?_, ?_, fun hover => ?_, fun hsmall => ?_, fun hfirst => ?_⟩,
    fun maxMemory more m hm hmore => ?_⟩
  · exact Multipart.parse_eq_error_iff hps
  · exact Multipart.exists_parse_iff hps
  · exact (Multipart.parse_eq_error_iff hps).2 (Form.overflows_of_textSize hover)
  · exact (Multipart.exists_parse_iff hps).2 (Form.not_overflows_of_textSize hsmall maxMemory)
  · rw [Multipart.parse_eq_error_iff hps, Form.overflows_iff_of_text_first hfirst]
  · have hnot : ¬ Form.Overflows maxMemory ps := (Multipart.exists_parse_iff hps).1 ⟨m, hm⟩
    exact (Multipart.exists_parse_iff hps).2 (Form.not_overflows_add hnot hmore)

/-- A file and little text are read with any memory, if with none. -/
theorem text_limit_iff_of_little_text :
    let contentType := "multipart/form-data; boundary=b"
    let head := Bytes.ofText "--b\r\nContent-Disposition: form-data; "
    let body := head ++ Bytes.ofText "name=\"up\"; filename=\"a\"\r\n\r\nxy\r\n" ++
      head ++ Bytes.ofText "name=\"t\"\r\n\r\none\r\n--b--"
    (Multipart.parse contentType body 0).isOk ∧
      ∀ maxMemory, ∃ m, Multipart.parse contentType body maxMemory = .ok m := by
  intro contentType head body
  let ps : List Form.Part :=
    [.file "up" ⟨"a", "application/octet-stream", [120, 121]⟩, .text "t" [111, 110, 101]]
  have hread : (Multipart.parse contentType body 0).isOk := by decide +kernel
  have hparts : Form.partsOf contentType body = .ok ps := by decide +kernel
  obtain ⟨m₀, hm₀⟩ := Result.isOk_iff.1 hread
  obtain ⟨qs, hqs, hlimit, -⟩ := text_limit_iff hm₀
  obtain rfl : ps = qs := Except.ok.inj (hparts.symm.trans hqs)
  refine ⟨hread, fun maxMemory => (hlimit maxMemory).2.2.2.1 ?_⟩
  exact (by decide : Form.textSize ps ≤ Form.textAllowance)

/-- **The limit of text shrinks** when a file is kept. With one byte of memory a file of two bytes is
put on disk, and one byte more than the allowance is left for text. With two bytes of memory it is
kept, and as much text is too large, although it has fewer bytes than the memory allowed and the
text allowance. -/
theorem text_limit_shrinks :
    let ps := [Form.Part.file "f" ⟨"a", "text/plain", [120, 121]⟩,
      .text "t" (List.replicate (Form.textAllowance + 1) 97)]
    let contentType := Form.writeType "b"
    let body := Form.writeForm "b" ps
    Form.partsOf contentType body = .ok ps ∧
      (∃ m, Multipart.parse contentType body 1 = .ok m) ∧
      Form.textSize ps < 2 + Form.textAllowance ∧
      Multipart.parse contentType body 2 = .error .tooLarge := by
  intro ps contentType body
  have hfits : ∀ p ∈ ps, p.Fits "b" := by
    intro p hp
    rcases List.mem_cons.1 hp with rfl | hp
    · refine ⟨by decide, fun name u hu => ?_, by decide⟩
      cases hu
      exact ⟨by decide, by decide, by decide, by decide, by decide, by decide⟩
    · rw [List.mem_singleton.1 hp]
      refine ⟨by decide, nofun, fun hclose => ?_⟩
      have hmem : (13 : UInt8) ∈ List.replicate (Form.textAllowance + 1) (97 : UInt8) :=
        hclose.subset List.mem_cons_self
      exact absurd (List.eq_of_mem_replicate hmem) (by decide)
  have hps : Form.partsOf contentType body = .ok ps :=
    Form.partsOf_writeForm (by decide) (by decide) hfits
  have hlen : (List.replicate (Form.textAllowance + 1) (97 : UInt8)).length =
      Form.textAllowance + 1 := List.length_replicate
  have htext (content : Bytes) : Form.textSize [ps[0], .text "t" content] = content.length :=
    Nat.zero_add content.length
  refine ⟨hps, ?_, ?_, ?_⟩
  -- the file is put on disk, and the text is as much as memory and allowance together
  · rw [Multipart.exists_parse_iff hps, Form.overflows_file_text_iff, hlen]
    exact Nat.lt_irrefl _
  · have hsize : Form.textSize ps = Form.textAllowance + 1 := (htext _).trans hlen
    omega
  -- the file is kept, and leaves one byte too few for the text
  · rw [Multipart.parse_eq_error_iff hps, Form.overflows_file_text_iff, hlen]
    decide

end WebScript
