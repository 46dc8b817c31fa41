import WebScript.Proofs.Multipart.Parts

/-!
# The memory allowed to a form

The memory allowed decides which files are put on disk and how much text is too much. It decides
nothing about what a form holds.

* `Multipart.Agrees`: two forms have the same values and the same files, wherever these are kept.
* `Multipart.parse_agrees`: **all forms that can be read from a body agree**.
* `multipart_threshold_transparent`: **nothing that is asked of them tells one from another**.
-/

namespace WebScript

namespace Multipart

open Form

/-- Two forms hold the same values and the same files, which may be kept in different places. -/
structure Agrees (m m' : Multipart) : Prop where
  values : m'.values = m.values
  uploads : m'.uploads = m.uploads

variable {m m' : Multipart} {contentType : String} {body : Bytes} {maxMemory maxMemory' : Nat}

/-- Forms that agree have the same file for a field, if they have any. -/
theorem Agrees.file?_eq (h : m.Agrees m') (field : String) : m'.file? field = m.file? field := by
  rw [Multipart.file?_eq, Multipart.file?_eq, h.uploads]

/-- Forms that hold the same parts agree. -/
theorem Holds.agrees {ps : List Part} (h : m.Holds ps) (h' : m'.Holds ps) : m.Agrees m' where
  values := h'.values.trans h.values.symm
  uploads := h'.uploads.trans h.uploads.symm

/-- All forms that can be read from a body hold the same parts. -/
theorem exists_holds (hm : parse contentType body maxMemory = .ok m)
    (hm' : parse contentType body maxMemory' = .ok m') : ∃ ps, m.Holds ps ∧ m'.Holds ps := by
  obtain ⟨ps, hps⟩ := exists_partsOf hm
  obtain ⟨t, ht, rfl⟩ := exists_reading_of_parse hps hm
  obtain ⟨t', ht', rfl⟩ := exists_reading_of_parse hps hm'
  exact ⟨ps, holds_of_foldlM_add ht, holds_of_foldlM_add ht'⟩

/-- **All forms that can be read from a body agree**, whatever memory was allowed. -/
theorem parse_agrees (hm : parse contentType body maxMemory = .ok m)
    (hm' : parse contentType body maxMemory' = .ok m') : m.Agrees m' := by
  obtain ⟨ps, h, h'⟩ := exists_holds hm hm'
  exact h.agrees h'

end Multipart

/-- **The memory allowed is not seen in a form.** Whatever memory a body is read with, if it can be
read, the form has the same values, and for every field it knows the same of the same file, which
is read back alike from memory and from disk. -/
theorem multipart_threshold_transparent {contentType : String} {body : Bytes}
    {maxMemory maxMemory' : Nat} {m m' : Multipart}
    (hm : Multipart.parse contentType body maxMemory = .ok m)
    (hm' : Multipart.parse contentType body maxMemory' = .ok m') :
    m.values = m'.values ∧
      ∀ field, m.info? field = m'.info? field ∧ m.file? field = m'.file? field := by
  obtain ⟨ps, h, h'⟩ := Multipart.exists_holds hm hm'
  have hagrees : m.Agrees m' := h.agrees h'
  refine ⟨hagrees.values.symm, fun field => ?_⟩
  have hfile : m.file? field = m'.file? field := (hagrees.file?_eq field).symm
  exact ⟨by rw [h.info?_eq, h'.info?_eq, hfile], hfile⟩

/-- A file is the same when it is put on disk for want of a byte of memory. -/
theorem multipart_threshold_transparent_of_spilled :
    let contentType := "multipart/form-data; boundary=b"
    let body := Bytes.ofText "--b\r\nContent-Disposition: form-data; " ++
      Bytes.ofText "name=\"up\"; filename=\"a\"\r\n\r\nxy\r\n--b--"
    ∃ m m', Multipart.parse contentType body 1 = .ok m ∧
      Multipart.parse contentType body 2 = .ok m' ∧ m.hasSpilled = true ∧ m'.hasSpilled = false ∧
      m.info? "up" = m'.info? "up" ∧ m.file? "up" = m'.file? "up" := by
  intro contentType body
  let info : FileInfo := ⟨"a", "application/octet-stream", 2⟩
  let m : Multipart := ⟨.empty, [⟨"up", info, .disk ⟨[120, 121]⟩⟩]⟩
  let m' : Multipart := ⟨.empty, [⟨"up", info, .memory [120, 121]⟩]⟩
  have hm : Multipart.parse contentType body 1 = .ok m := by decide +kernel
  have hm' : Multipart.parse contentType body 2 = .ok m' := by decide +kernel
  obtain ⟨-, hfields⟩ := multipart_threshold_transparent hm hm'
  exact ⟨m, m', hm, hm', rfl, rfl, (hfields "up").1, (hfields "up").2⟩

end WebScript
