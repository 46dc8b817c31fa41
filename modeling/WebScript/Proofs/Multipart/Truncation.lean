import WebScript.Proofs.Multipart.RoundTrip

/-!
# Cut-off forms

* `Takes`: a reader goes through some bytes to their end and looks at nothing behind them;
  `Takes.trans` joins two that follow one another.
* `nextPart_takes`, `Multipart.readParts_takes`: parts are read in this way, one and all of them.
* `multipart_truncation`: **a form needs every byte up to the end of its last boundary**, and none
  behind it.
-/

namespace WebScript

namespace Form

/-- A reader goes through all of `taken` and looks at nothing behind it: whatever follows, it goes
on as `next` does, and it fails with any less. -/
structure Takes {β : Type} (fails : β → Prop) (read next : Bytes → β) (taken : Bytes) : Prop where
  whole (rest : Bytes) : read (taken ++ rest) = next rest
  short : ∀ k < taken.length, fails (read (taken.take k))

namespace Takes

variable {β γ : Type} {fails : β → Prop} {read next last : Bytes → β} {taken taken' : Bytes}

/-- One reader after another. -/
theorem trans (h : Takes fails read next taken) (h' : Takes fails next last taken') :
    Takes fails read last (taken ++ taken') where
  whole rest := by rw [List.append_assoc, h.whole, h'.whole]
  short k hk := by
    by_cases hkt : k < taken.length
    · rw [List.take_append_of_le_length (Nat.le_of_lt hkt)]
      exact h.short k hkt
    · -- the first reader has got all it takes
      have hle : taken.length ≤ k := Nat.le_of_not_lt hkt
      rw [List.length_append] at hk
      rw [List.take_append, List.take_of_length_le hle, h.whole]
      exact h'.short _ (by omega)

/-- One byte is taken where none is not enough. -/
theorem single {b : UInt8} (h : ∀ rest, read (b :: rest) = next rest) (h₀ : fails (read [])) :
    Takes fails read next [b] where
  whole := h
  short k hk := by
    obtain rfl : k = 0 := by simpa using hk
    exact h₀

/-- Two bytes are taken where one is not enough. -/
theorem pair {b c : UInt8} (h : ∀ rest, read (b :: c :: rest) = next rest) (h₀ : fails (read []))
    (h₁ : fails (read [b])) : Takes fails read next [b, c] where
  whole := h
  short k hk := by
    have hk : k = 0 ∨ k = 1 := by
      change k < 2 at hk
      omega
    rcases hk with rfl | rfl
    · exact h₀
    · exact h₁

/-- What is made of the result keeps failures. -/
theorem map (h : Takes fails read next taken) {fails' : γ → Prop} (f : β → γ)
    (hf : ∀ b, fails b → fails' (f b)) :
    Takes fails' (fun bs => f (read bs)) (fun rest => f (next rest)) taken where
  whole rest := congrArg f (h.whole rest)
  short k hk := hf _ (h.short k hk)

end Takes

/-- Some fault is reported. -/
def Faulty {ε α : Type} (x : Except ε α) : Prop := ∃ f, x = .error f

variable {close bs r headers : Bytes} {p : RawPart}

/-! ## The pieces of a part -/

/-- **A boundary line** is read to its line break. -/
theorem afterBoundaryLine?_takes (h : afterBoundaryLine? bs = some r) :
    ∃ line, bs = line ++ r ∧ Takes (· = none) afterBoundaryLine? some line := by
  induction bs with
  | nil => cases h
  | cons b bs ih =>
    by_cases hb : (b = 32 || b = 9) = true
    · have hpass (l : Bytes) : afterBoundaryLine? (b :: l) = afterBoundaryLine? l := by
        simp only [afterBoundaryLine?, List.dropWhile_cons, hb, if_true]
      have hblank : Takes (· = none) afterBoundaryLine? afterBoundaryLine? [b] :=
        .single hpass rfl
      rw [hpass] at h
      obtain ⟨line, hline, ht⟩ := ih h
      exact ⟨b :: line, by rw [hline, List.cons_append], hblank.trans ht⟩
    · simp only [afterBoundaryLine?, List.dropWhile_cons, hb] at h
      split at h
      · rename_i heq
        cases heq
        cases h
        exact ⟨crlf, rfl, .pair (fun rest => rfl) rfl rfl⟩
      · rename_i heq
        cases heq
        cases h
        exact ⟨[10], rfl, .single (fun rest => rfl) rfl⟩
      · cases h

/-- No boundary line that has a part behind it begins with hyphens. -/
theorem not_dashes_of_line (h : afterBoundaryLine? bs = some r) : ¬ dashes <+: bs := by
  rintro ⟨t, rfl⟩
  cases h

theorem splitHeaders_of_not_crlf (h : ¬ crlf <+: bs) :
    splitHeaders bs =
      match Bytes.splitAt? (crlf ++ crlf) bs with
      | some p => .ok p
      | none => .error .openHeaders := by
  unfold splitHeaders
  split
  · rename_i r
    exact absurd (List.prefix_append crlf r) h
  · rfl

/-- **Headers** are read to the empty line that ends them. -/
theorem splitHeaders_takes (h : splitHeaders bs = .ok (headers, r)) :
    ∃ head, bs = head ++ r ∧
      Takes Faulty splitHeaders (fun rest => .ok (headers, rest)) head := by
  by_cases hc : crlf <+: bs
  · obtain ⟨t, rfl⟩ := hc
    cases h
    exact ⟨crlf, rfl, .pair (fun rest => rfl) ⟨.openHeaders, rfl⟩ ⟨.openHeaders, rfl⟩⟩
  · rw [splitHeaders_of_not_crlf hc] at h
    split at h
    · rename_i q hq
      cases h
      have hbs := Bytes.eq_of_splitAt? hq
      have hlen : crlf.length ≤ (headers ++ (crlf ++ crlf)).length := by
        rw [List.length_append]
        exact Nat.le_add_left_of_le (by decide)
      -- so neither more nor fewer bytes make the first line an empty one
      have hnot : ¬ crlf <+: headers ++ (crlf ++ crlf) := by
        intro hp
        rw [hbs] at hc
        exact hc (List.prefix_append_of_prefix hp)
      refine ⟨headers ++ (crlf ++ crlf), hbs, fun rest => ?_, fun k hk => ⟨.openHeaders, ?_⟩⟩
      · have hmore : ¬ crlf <+: headers ++ (crlf ++ crlf) ++ rest := fun hp =>
          hnot (List.prefix_of_prefix_length_le hp (List.prefix_append _ rest) hlen)
        rw [splitHeaders_of_not_crlf hmore, List.append_assoc, Bytes.splitAt?_append_right hq]
      · have hfewer : ¬ crlf <+: (headers ++ (crlf ++ crlf)).take k := fun hp =>
          hnot (hp.trans (List.take_prefix k _))
        rw [splitHeaders_of_not_crlf hfewer, Bytes.splitAt?_take_eq_none hq hk]
    · cases h

/-! ## Parts -/

/-- Reads the content of a part behind its headers. -/
def readContent (close headers bs : Bytes) : Except BodyFault (Option RawPart) :=
  match Bytes.splitAt? close bs with
  | none => .error .openContent
  | some (content, r) => .ok (some ⟨headers, content, r⟩)

/-- Reads a part behind its boundary line. -/
def readPart (close bs : Bytes) : Except BodyFault (Option RawPart) :=
  splitHeaders bs >>= fun q => readContent close q.1 q.2

theorem nextPart_of_line (h : afterBoundaryLine? bs = some r) :
    nextPart close bs = readPart close r := by
  have hd : dashes.isPrefixOf bs = false := by
    rw [← Bool.not_eq_true, List.isPrefixOf_iff_prefix]
    exact not_dashes_of_line h
  rw [nextPart, hd, if_neg Bool.false_ne_true, h]
  rfl

theorem nextPart_of_no_line (hd : ¬ dashes <+: bs) (h : afterBoundaryLine? bs = none) :
    nextPart close bs = .error .boundaryLine := by
  have hd : dashes.isPrefixOf bs = false := by
    rw [← Bool.not_eq_true, List.isPrefixOf_iff_prefix]
    exact hd
  rw [nextPart, hd, if_neg Bool.false_ne_true, h]

theorem nextPart_takes_line {line : Bytes} (h : Takes (· = none) afterBoundaryLine? some line) :
    Takes Faulty (nextPart close) (readPart close) line where
  whole rest := nextPart_of_line (h.whole rest)
  short k hk := by
    have hd : ¬ dashes <+: line.take k := by
      intro hp
      refine not_dashes_of_line (h.whole []) ?_
      exact List.prefix_append_of_prefix (hp.trans (List.take_prefix k line))
    exact ⟨.boundaryLine, nextPart_of_no_line hd (h.short k hk)⟩

theorem readContent_takes {content : Bytes} (headers : Bytes)
    (h : Bytes.splitAt? close bs = some (content, r)) :
    Takes Faulty (readContent close headers) (fun rest => .ok (some ⟨headers, content, rest⟩))
      (content ++ close) where
  whole rest := by rw [readContent, List.append_assoc, Bytes.splitAt?_append_right h]
  short k hk := ⟨.openContent, by rw [readContent, Bytes.splitAt?_take_eq_none h hk]⟩

/-- What is read behind a boundary: nothing, if it is the last one, or else a part. -/
theorem nextPart_cases {part : Option RawPart} (h : nextPart close bs = .ok part) :
    (dashes <+: bs ∧ part = none) ∨
    ∃ body headers tail content rest, afterBoundaryLine? bs = some body ∧
      splitHeaders body = .ok (headers, tail) ∧
      Bytes.splitAt? close tail = some (content, rest) ∧
      part = some ⟨headers, content, rest⟩ := by
  by_cases hd : dashes <+: bs
  · rw [nextPart, if_pos (List.isPrefixOf_iff_prefix.2 hd)] at h
    cases h
    exact .inl ⟨hd, rfl⟩
  · cases hl : afterBoundaryLine? bs with
    | none =>
      rw [nextPart_of_no_line hd hl] at h
      cases h
    | some body =>
      rw [nextPart_of_line hl, readPart] at h
      cases hs : splitHeaders body with
      | error f =>
        rw [hs] at h
        cases h
      | ok q =>
        rw [hs] at h
        change readContent close q.1 q.2 = _ at h
        cases hc : Bytes.splitAt? close q.2 with
        | none =>
          rw [readContent, hc] at h
          cases h
        | some found =>
          rw [readContent, hc] at h
          cases h
          exact .inr ⟨body, q.1, q.2, found.1, found.2, rfl, hs, hc, rfl⟩

/-- **A part** is read to the end of the boundary behind it. -/
theorem nextPart_takes (h : nextPart close bs = .ok (some p)) :
    ∃ taken, bs = taken ++ p.rest ∧
      Takes Faulty (nextPart close) (fun rest => .ok (some { p with rest := rest })) taken := by
  rcases nextPart_cases h with ⟨-, hnone⟩ |
    ⟨body, headers, tail, content, rest, hbody, htail, hrest, hp⟩
  · cases hnone
  · cases hp
    obtain ⟨line, hline, hlineTakes⟩ := afterBoundaryLine?_takes hbody
    obtain ⟨head, hhead, hheadTakes⟩ := splitHeaders_takes htail
    have hlinePart : Takes Faulty (nextPart close) (readPart close) line :=
      nextPart_takes_line hlineTakes
    have hheadPart : Takes Faulty (readPart close) (readContent close headers) head := by
      refine hheadTakes.map (· >>= fun q => readContent close q.1 q.2) ?_
      rintro _ ⟨f, rfl⟩
      exact ⟨f, rfl⟩
    refine ⟨line ++ head ++ (content ++ close), ?_,
      (hlinePart.trans hheadPart).trans (readContent_takes headers hrest)⟩
    rw [hline, hhead, Bytes.eq_of_splitAt? hrest, List.append_assoc, List.append_assoc,
      List.append_assoc, List.append_assoc]

end Form

/-! ## Forms -/

namespace Multipart

open Form

variable {close bs : Bytes} {s : Reading} {m : Multipart}

/-- The body is refused as malformed. -/
def Malformed {α : Type} (x : Except MultipartFault α) : Prop := ∃ f, x = .error (.malformed f)

/-- The last boundary is read to its closing hyphens. -/
theorem readParts_takes_dashes (close : Bytes) (s : Reading) :
    Takes Malformed (readParts close s) (fun _ => .ok s.form) dashes :=
  .pair (fun _ => readParts_of_none rfl) ⟨.boundaryLine, readParts_of_error rfl⟩
    ⟨.boundaryLine, readParts_of_error rfl⟩

/-- **All parts** are read to the end of the last boundary. -/
theorem readParts_takes (h : readParts close s bs = .ok m) :
    ∃ taken, taken <+: bs ∧ Takes Malformed (readParts close s) (fun _ => .ok m) taken := by
  fun_induction readParts close s bs with
  | case1 s bs f hf => cases h
  | case2 s bs hnone =>
    cases h
    rcases nextPart_cases hnone with ⟨hd, -⟩ | ⟨_, _, _, _, _, -, -, -, hp⟩
    · exact ⟨dashes, hd, readParts_takes_dashes close s⟩
    · cases hp
  | case3 s bs p hp f hf => cases h
  | case4 s bs p hp t ht ih =>
    obtain ⟨part, hpart, hpartTakes⟩ := nextPart_takes hp
    obtain ⟨taken, htaken, hrestTakes⟩ := ih h
    have hnext : Takes Malformed (readParts close s) (readParts close t) part := by
      refine ⟨fun rest => ?_, fun k hk => ?_⟩
      · -- what a part adds to the form does not depend on what follows it
        exact readParts_of_part (hpartTakes.whole rest) ht
      · obtain ⟨f, hf⟩ := hpartTakes.short k hk
        exact ⟨f, readParts_of_error hf⟩
    refine ⟨part ++ taken, ?_, hnext.trans hrestTakes⟩
    rw [hpart]
    exact (List.prefix_append_right_inj part).2 htaken

/-- A body that is read as a form is read to the end of its last boundary. -/
theorem parse_takes {contentType : String} {body : Bytes} {maxMemory : Nat}
    (h : Multipart.parse contentType body maxMemory = .ok m) :
    ∃ taken, taken <+: body ∧
      Takes Malformed (fun bs => Multipart.parse contentType bs maxMemory) (fun _ => .ok m)
        taken := by
  cases hb : boundary contentType with
  | error f =>
    rw [Multipart.parse, hb] at h
    cases h
  | ok b =>
    cases hs : Bytes.splitAt? (dashes ++ Bytes.ofText b) body with
    | none =>
      rw [Multipart.parse, hb] at h
      dsimp only at h
      rw [hs] at h
      cases h
    | some q =>
      obtain ⟨front, r⟩ := q
      have hfirst : Takes Malformed (fun bs => Multipart.parse contentType bs maxMemory)
          (readParts (crlf ++ (dashes ++ Bytes.ofText b)) (.start maxMemory))
          (front ++ (dashes ++ Bytes.ofText b)) := by
        refine ⟨fun rest => ?_, fun k hk => ⟨.noBoundary, ?_⟩⟩
        · rw [Multipart.parse, hb]
          dsimp only
          rw [List.append_assoc, Bytes.splitAt?_append_right hs]
        · rw [Multipart.parse, hb]
          dsimp only
          rw [Bytes.splitAt?_take_eq_none hs hk]
      have hbody := Bytes.eq_of_splitAt? hs
      rw [hbody, hfirst.whole] at h
      obtain ⟨taken, htaken, hrestTakes⟩ := readParts_takes h
      refine ⟨front ++ (dashes ++ Bytes.ofText b) ++ taken, ?_, hfirst.trans hrestTakes⟩
      rw [hbody]
      exact (List.prefix_append_right_inj _).2 htaken

end Multipart

/-- **A form needs every byte up to the end of its last boundary, and none behind it.** If a body
is read as a form, then so is every body that has the same first `n` bytes, and as the same form,
and each proper prefix of these is malformed. So no upload that was cut off is taken for a whole
one. -/
theorem multipart_truncation {contentType : String} {body : Bytes} {maxMemory : Nat}
    {m : Multipart} (h : Multipart.parse contentType body maxMemory = .ok m) :
    ∃ n ≤ body.length,
      (∀ body', body.take n <+: body' → Multipart.parse contentType body' maxMemory = .ok m) ∧
      ∀ k < n, ∃ f,
        Multipart.parse contentType (body.take k) maxMemory = .error (.malformed f) := by
  obtain ⟨taken, ⟨rest, rfl⟩, ht⟩ := Multipart.parse_takes h
  refine ⟨taken.length, ?_, ?_, ?_⟩
  · rw [List.length_append]
    exact Nat.le_add_right _ _
  · rw [List.take_left]
    rintro body' ⟨rest', rfl⟩
    exact ht.whole rest'
  · intro k hk
    rw [List.take_append_of_le_length (Nat.le_of_lt hk)]
    exact ht.short k hk

/-- A form with a text field is read up to its last boundary, and what follows is passed over. -/
theorem multipart_truncation_of_epilogue :
    let contentType := "multipart/form-data; boundary=b"
    let body := Bytes.ofText ("--b \r\nContent-Disposition: form-data; name=\"t\"\r\n\r\n" ++
      "one\r\n--b--\r\n--b\r\n")
    let m : Multipart := ⟨Fields.empty.add "t" "one", []⟩
    Multipart.parse contentType body 0 = .ok m ∧
    ∃ n ≤ body.length,
      (∀ body', body.take n <+: body' → Multipart.parse contentType body' 0 = .ok m) ∧
      ∀ k < n, ∃ f, Multipart.parse contentType (body.take k) 0 = .error (.malformed f) := by
  intro contentType body m
  have hread : Multipart.parse contentType body 0 = .ok m := by decide +kernel
  exact ⟨hread, multipart_truncation hread⟩

end WebScript
