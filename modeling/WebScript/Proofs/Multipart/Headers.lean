import WebScript.Form.Multipart
import WebScript.Proofs.Headers
import WebScript.Proofs.Parameters
import WebScript.Proofs.Search
import WebScript.Proofs.Utf8

/-!
# Reading back the headers of a part

* `writeHeaders`: headers as they stand in front of a part.
* `splitHeaders_writeHeaders`: **headers end where they were ended**, whatever follows.
* `readHeaders_writeHeaders`: **headers are read back**, in order.
-/

namespace WebScript.Form

/-- A header that may be written: its value is trimmed and holds no carriage return. -/
structure IsHeader (p : String × String) : Prop where
  ne_empty : p.1.toList ≠ []
  name : ∀ c ∈ p.1.toList, c ≠ ':' ∧ Text.isBlank c = false
  value : '\r' ∉ p.2.toList
  trimmed : Text.trim p.2.toList = p.2.toList

theorem IsHeader.of_all {name value : String} (hne : name.toList ≠ [])
    (hname : name.toList.all (fun c => c != ':' && ! Text.isBlank c) = true)
    (hvalue : '\r' ∉ value.toList) (htrim : Text.trim value.toList = value.toList) :
    IsHeader (name, value) := by
  refine ⟨hne, fun c hc => ?_, hvalue, htrim⟩
  simpa using List.all_eq_true.1 hname c hc

/-- A header as it is written. -/
def headerLine (p : String × String) : List Char := p.1.toList ++ ':' :: ' ' :: p.2.toList

/-- Headers as they are written, without the empty line that ends them. -/
def writeHeaders (hs : List (String × String)) : Bytes :=
  Text.Utf8.encode (['\r', '\n'].intercalate (hs.map headerLine))

variable {p : String × String} {hs : List (String × String)} {l r : List Char}

theorem IsHeader.not_mem_headerLine (h : IsHeader p) : '\r' ∉ headerLine p := by
  intro hc
  rw [headerLine, List.mem_append, List.mem_cons, List.mem_cons] at hc
  rcases hc with hn | he | he | hv
  · exact absurd (h.name _ hn).2 (by decide)
  · exact absurd he (by decide)
  · exact absurd he (by decide)
  · exact h.value hv

/-- Characters other than a carriage return go on the line that is begun. -/
theorem headerLines_append (line : List Char) (h : '\r' ∉ l) (r : List Char) :
    headerLines line (l ++ r) = headerLines (l.reverse ++ line) r := by
  induction l generalizing line with
  | nil => rfl
  | cons c l ih =>
    have hc : c ≠ '\r' := fun he => h (he ▸ List.mem_cons_self)
    rw [List.cons_append, headerLines, ih _ fun hm => h (List.mem_cons_of_mem c hm),
      List.reverse_cons, List.append_assoc]
    · rfl
    · exact fun _ he _ => hc he

/-- Lines that are written between line breaks are read back. -/
theorem headerLines_intercalate {ls : List (List Char)} (hne : ls ≠ [])
    (h : ∀ l ∈ ls, '\r' ∉ l) : headerLines [] (['\r', '\n'].intercalate ls) = ls := by
  induction ls with
  | nil => exact absurd rfl hne
  | cons l ls ih =>
    have hl : '\r' ∉ l := h l List.mem_cons_self
    cases ls with
    | nil =>
      rw [List.intercalate_singleton, ← List.append_nil l, headerLines_append [] hl, headerLines,
        List.append_nil, List.reverse_reverse, List.append_nil]
    | cons l' ls =>
      have hrest := ih (List.cons_ne_nil l' ls) fun m hm => h m (List.mem_cons_of_mem l hm)
      rw [List.intercalate_cons_cons, List.append_assoc, headerLines_append [] hl, List.append_nil]
      change headerLines l.reverse ('\r' :: '\n' :: ['\r', '\n'].intercalate (l' :: ls)) = _
      rw [headerLines, hrest, List.reverse_reverse]

/-- **Headers are read back**, in order. -/
theorem readHeaders_writeHeaders (hne : hs ≠ []) (h : ∀ p ∈ hs, IsHeader p) :
    readHeaders (writeHeaders hs) = .ok (Headers.ofPairs hs) := by
  have hlines : headerLines [] (Text.Utf8.decode (writeHeaders hs)) = hs.map headerLine := by
    rw [writeHeaders, Text.Utf8.decode_encode]
    refine headerLines_intercalate (by simpa using hne) fun l hl => ?_
    obtain ⟨p, hp, rfl⟩ := List.mem_map.1 hl
    exact (h p hp).not_mem_headerLine
  have hfilter : (hs.map headerLine).filter (! ·.isEmpty) = hs.map headerLine := by
    rw [List.filter_eq_self]
    intro l hl
    obtain ⟨p, -, rfl⟩ := List.mem_map.1 hl
    simp [headerLine]
  rw [readHeaders, hlines, hfilter, List.foldlM_map, Headers.ofPairs]
  -- from here on by induction, with any headers read before
  clear hlines hfilter hne
  generalize Headers.empty = headers
  induction hs generalizing headers with
  | nil => rfl
  | cons p hs ih =>
    have hp := h p List.mem_cons_self
    have hcut : Text.cut (· = ':') (headerLine p) = (p.1.toList, some (' ' :: p.2.toList)) :=
      Text.cut_append_cons (fun c hc => decide_eq_false (hp.name c hc).1) (decide_eq_true rfl)
    have hkey : Text.trim p.1.toList = p.1.toList :=
      Text.trim_eq_self (fun c hc => (hp.name c (List.mem_of_mem_head? hc)).2)
        fun c hc => (hp.name c (List.mem_of_mem_getLast? hc)).2
    have hvalue : Text.trim (' ' :: p.2.toList) = p.2.toList := by
      rw [Text.trim_blank_cons (by decide), hp.trimmed]
    rw [List.foldlM_cons, List.foldl_cons, hcut]
    dsimp only
    rw [hkey, hvalue, String.ofList_toList, String.ofList_toList]
    exact ih (fun q hq => h q (List.mem_cons_of_mem p hq)) _

/-! ### Where the headers end -/

theorem not_mem_encode (h : '\r' ∉ l) : (13 : UInt8) ∉ Text.Utf8.encode l :=
  fun hm => h (Text.Utf8.mem_of_mem_encode (by decide) hm)

theorem writeHeaders_singleton (p : String × String) :
    writeHeaders [p] = Text.Utf8.encode (headerLine p) := by
  rw [writeHeaders, List.map_singleton, List.intercalate_singleton]

theorem writeHeaders_cons_cons (p q : String × String) (hs : List (String × String)) :
    writeHeaders (p :: q :: hs) =
      Text.Utf8.encode (headerLine p) ++ (crlf ++ writeHeaders (q :: hs)) := by
  rw [writeHeaders, List.map_cons, List.map_cons, List.intercalate_cons_cons,
    Text.Utf8.encode_append, Text.Utf8.encode_append, List.append_assoc]
  rfl

/-- Written headers begin with another byte than a line break does. -/
theorem head?_writeHeaders (hne : hs ≠ []) (h : ∀ p ∈ hs, IsHeader p) (rest : Bytes) :
    ∃ b, b ≠ 13 ∧ (writeHeaders hs ++ rest).head? = some b := by
  cases hs with
  | nil => exact absurd rfl hne
  | cons p hs =>
    obtain ⟨more, hmore⟩ : ∃ more, writeHeaders (p :: hs) =
        Text.Utf8.encode (headerLine p) ++ more := by
      cases hs with
      | nil => exact ⟨[], by rw [writeHeaders_singleton, List.append_nil]⟩
      | cons q hs => exact ⟨_, writeHeaders_cons_cons p q hs⟩
    have hline : headerLine p ≠ [] := by simp [headerLine]
    obtain ⟨b, bs, hbs⟩ := List.exists_cons_of_ne_nil (Text.Utf8.encode_ne_nil hline)
    refine ⟨b, ?_, by rw [hmore, hbs]; rfl⟩
    rintro rfl
    refine not_mem_encode (h p List.mem_cons_self).not_mem_headerLine ?_
    rw [hbs]
    exact List.mem_cons_self

theorem splitAt?_writeHeaders (hne : hs ≠ []) (h : ∀ p ∈ hs, IsHeader p) (rest : Bytes) :
    Bytes.splitAt? (crlf ++ crlf) (writeHeaders hs ++ (crlf ++ crlf ++ rest)) =
      some (writeHeaders hs, rest) := by
  induction hs with
  | nil => exact absurd rfl hne
  | cons p hs ih =>
    have hp : (13 : UInt8) ∉ Text.Utf8.encode (headerLine p) :=
      not_mem_encode (h p List.mem_cons_self).not_mem_headerLine
    have hcrlf : (crlf ++ crlf).head? = some 13 := rfl
    cases hs with
    | nil =>
      rw [writeHeaders_singleton, Bytes.splitAt?_append_of_not_mem hcrlf hp,
        Bytes.splitAt?_self_append, Option.map_some, List.append_nil]
    | cons q hs =>
      have hq : ∀ r ∈ q :: hs, IsHeader r := fun r hr => h r (List.mem_cons_of_mem p hr)
      obtain ⟨b, hb, hhead⟩ := head?_writeHeaders (List.cons_ne_nil q hs) hq (crlf ++ crlf ++ rest)
      -- a line break that is followed by a header does not end the headers
      have hbreak : ∀ i < crlf.length, ¬ crlf ++ crlf <+:
          (crlf ++ (writeHeaders (q :: hs) ++ (crlf ++ crlf ++ rest))).drop i := by
        intro i hi ⟨t, ht⟩
        have hi : i = 0 ∨ i = 1 := by
          change i < 2 at hi
          omega
        rcases hi with rfl | rfl
        · rw [List.drop_zero, List.append_assoc] at ht
          have hcons : crlf ++ t = writeHeaders (q :: hs) ++ (crlf ++ crlf ++ rest) :=
            List.append_cancel_left ht
          rw [← hcons] at hhead
          exact hb (Option.some.inj hhead).symm
        · cases ht
      rw [writeHeaders_cons_cons, List.append_assoc, List.append_assoc,
        Bytes.splitAt?_append_of_not_mem hcrlf hp, Bytes.splitAt?_append hbreak,
        ih (List.cons_ne_nil q hs) hq]
      rfl

/-- **Headers end where they were ended.** -/
theorem splitHeaders_writeHeaders (hne : hs ≠ []) (h : ∀ p ∈ hs, IsHeader p) (rest : Bytes) :
    splitHeaders (writeHeaders hs ++ (crlf ++ crlf ++ rest)) = .ok (writeHeaders hs, rest) := by
  have hsplit := splitAt?_writeHeaders hne h rest
  obtain ⟨b, hb, hhead⟩ := head?_writeHeaders hne h (crlf ++ crlf ++ rest)
  obtain ⟨bs, hbs⟩ := List.head?_eq_some_iff.1 hhead
  rw [hbs] at hsplit ⊢
  -- a part without headers would begin with the empty line, but the first byte is another
  unfold splitHeaders
  split
  · rename_i heq
    cases heq
    exact absurd rfl hb
  · rw [hsplit]

end WebScript.Form
