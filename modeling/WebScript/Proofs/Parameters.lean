import WebScript.Form.Parameters
import WebScript.Proofs.Text

/-!
# Reading back header parameters

Parameters written behind a header value, each with its value in quotes or bare.

* `Parameter.write`, `writeParameters`: the written form, and that with all values in quotes.
* `readValue_quoted_append`, `IsBare.readValue_append`: a value is read up to where it ends.
* `scanParameters_of_readValue`: a key is taken with whatever is read as its value.
* `scanParameters_flatMap_write`: **reading what was written gives the parameters**, in order, with
  any characters in the values that are in quotes.
* `parameters_append_write`: the same of a whole header value.
-/

namespace WebScript.Form

/-- How a character is written in quotes. -/
def quoteChar (c : Char) : List Char := if c = '"' ∨ c = '\\' then ['\\', c] else [c]

/-- A text in quotes. -/
def quoted (s : String) : List Char := '"' :: (s.toList.flatMap quoteChar ++ ['"'])

/-- Parameters as they are written behind a header value. -/
def writeParameters (ps : List (String × String)) : List Char :=
  ps.flatMap fun p => ';' :: ' ' :: (p.1.toList ++ '=' :: quoted p.2)

/-- A value that may be written without quotes: it does not look like one that has them, no
semicolon ends it, and no white space at its ends is lost. -/
structure IsBare (cs : List Char) : Prop where
  no_semicolon : ';' ∉ cs
  no_quote : cs.head? ≠ some '"'
  first : ∀ c ∈ cs.head?, Text.isBlank c = false
  last : ∀ c ∈ cs.getLast?, Text.isBlank c = false

theorem isBare_iff {cs : List Char} :
    IsBare cs ↔ ';' ∉ cs ∧ cs.head? ≠ some '"' ∧ cs.head?.all (! Text.isBlank ·) = true ∧
      cs.getLast?.all (! Text.isBlank ·) = true := by
  simp only [Option.all_eq_true, Bool.not_eq_true']
  exact ⟨fun h => ⟨h.1, h.2, h.3, h.4⟩, fun ⟨h₁, h₂, h₃, h₄⟩ => ⟨h₁, h₂, h₃, h₄⟩⟩

instance (cs : List Char) : Decidable (IsBare cs) := decidable_of_iff' _ isBare_iff

/-- A parameter, and how its value is written. -/
structure Parameter where
  key : String
  value : String
  inQuotes : Bool

/-- A parameter as it is written behind a header value. -/
def Parameter.write (p : Parameter) : List Char :=
  ';' :: ' ' :: (p.key.toList ++ '=' :: if p.inQuotes then quoted p.value else p.value.toList)

/-- A key that may be written: it is not empty, and has neither separators nor white space. -/
structure IsKey (key : String) : Prop where
  ne_empty : key.toList ≠ []
  chars : ∀ c ∈ key.toList, isKeyChar c = true
  not_blank : ∀ c ∈ key.toList, Text.isBlank c = false

theorem IsKey.of_all {key : String} (hne : key.toList ≠ [])
    (h : key.toList.all (fun c => isKeyChar c && ! Text.isBlank c) = true) : IsKey key := by
  have hall : ∀ c ∈ key.toList, isKeyChar c = true ∧ Text.isBlank c = false := by
    intro c hc
    simpa using List.all_eq_true.1 h c hc
  exact ⟨hne, fun c hc => (hall c hc).1, fun c hc => (hall c hc).2⟩

/-! ## Values -/

theorem readQuoted_append_quote (cs r : List Char) :
    readQuoted (cs.flatMap quoteChar ++ '"' :: r) = (cs, r) := by
  induction cs with
  | nil => rfl
  | cons c cs ih =>
    rw [List.flatMap_cons, List.append_assoc, quoteChar]
    split
    · rw [List.cons_append, List.cons_append, List.nil_append, readQuoted, ih]
    · -- neither the closing quote nor the start of an escape
      rename_i hc
      obtain ⟨hq, hb⟩ := not_or.1 hc
      rw [List.cons_append, List.nil_append, readQuoted, ih]
      · exact hq
      · exact fun _ _ he _ => hb he
      · exact fun he _ => hb he

theorem readValue_quoted_append (s : String) (r : List Char) :
    readValue (quoted s ++ r) = (s.toList, r) := by
  have hstart : Text.trimStart (quoted s ++ r) =
      '"' :: (s.toList.flatMap quoteChar ++ '"' :: r) := by
    rw [Text.trimStart_eq_self (by intro c hc; cases hc; decide)]
    simp [quoted]
  rw [readValue, hstart]
  exact readQuoted_append_quote s.toList r

/-- A bare value ends where the next parameter begins, or with the text. -/
theorem IsBare.readValue_append {v r : List Char} (hv : IsBare v) (hr : ∀ c ∈ r.head?, c = ';') :
    readValue (v ++ r) = (v, r) := by
  have hhead : ∀ c ∈ (v ++ r).head?, c ≠ '"' ∧ Text.isBlank c = false := by
    intro c hc
    cases v with
    | nil =>
      obtain rfl : c = ';' := hr c hc
      exact ⟨by decide, by decide⟩
    | cons d v =>
      refine ⟨?_, hv.first c hc⟩
      rintro rfl
      exact hv.no_quote hc
  have hspan : (v ++ r).takeWhile (· ≠ ';') = v ∧ (v ++ r).dropWhile (· ≠ ';') = r := by
    refine Text.span_append (fun c hc => decide_eq_true ?_) fun c hc => decide_eq_false ?_
    · rintro rfl
      exact hv.no_semicolon hc
    · exact not_not.2 (hr c hc)
  rw [readValue, Text.trimStart_eq_self fun c hc => (hhead c hc).2]
  split
  · rename_i hquote
    exact absurd rfl (hhead '"' (by rw [hquote]; rfl)).1
  · rw [hspan.1, hspan.2, Text.trimEnd_eq_self hv.last]

/-! ## Keys -/

section

variable {key : String} {value r : List Char}

theorem IsKey.keyOf_append (hk : IsKey key) :
    keyOf (key.toList ++ '=' :: value) = Text.Case.lowerAscii key := by
  have htake : (key.toList ++ '=' :: value).takeWhile isKeyChar = key.toList := by
    rw [List.takeWhile_append_of_pos hk.chars]
    simp [isKeyChar]
  have htrim : Text.trim key.toList = key.toList :=
    Text.trim_eq_self (fun c hc => hk.not_blank c (List.mem_of_mem_head? hc))
      fun c hc => hk.not_blank c (List.mem_of_mem_getLast? hc)
  rw [keyOf, htake, htrim]
  rfl

theorem IsKey.afterKey_append (hk : IsKey key) :
    afterKey (key.toList ++ '=' :: value) = '=' :: value := by
  rw [afterKey, List.dropWhile_append_of_pos hk.chars]
  simp [isKeyChar]

theorem scanParameters_gap_cons {c : Char} (hc : isGap c = true) (cs : List Char) :
    scanParameters (c :: cs) = scanParameters cs := by
  rw [scanParameters, scanParameters, List.dropWhile_cons_of_pos hc]

/-- A key is taken with whatever is read as its value. -/
theorem scanParameters_of_readValue (hk : IsKey key) {v : List Char}
    (hv : readValue value = (v, r)) :
    scanParameters (key.toList ++ '=' :: value) =
      (Text.Case.lowerAscii key, String.ofList v) :: scanParameters r := by
  have hdrop : (key.toList ++ '=' :: value).dropWhile isGap = key.toList ++ '=' :: value := by
    obtain ⟨c, cs, hcs⟩ := List.exists_cons_of_ne_nil hk.ne_empty
    have hc : c ∈ key.toList := by
      rw [hcs]
      exact List.mem_cons_self
    have hgap : isGap c = false := by
      have hchar := hk.chars c hc
      rw [isKeyChar, Bool.and_eq_true, bne_iff_ne, bne_iff_ne] at hchar
      rw [isGap, hk.not_blank c hc, Bool.or_false, beq_eq_false_iff_ne]
      exact hchar.2
    rw [hcs, List.cons_append, List.dropWhile_cons_of_neg (by rw [hgap]; exact Bool.false_ne_true)]
  have hkey : keyOf (key.toList ++ '=' :: value) = Text.Case.lowerAscii key := hk.keyOf_append
  have hafter : afterKey (key.toList ++ '=' :: value) = '=' :: value := hk.afterKey_append
  rw [scanParameters]
  split
  · rename_i hnil
    rw [hdrop] at hnil
    simp at hnil
  · rename_i c cs hcons
    rw [hdrop] at hcons
    have hne : (Text.Case.lowerAscii key).isEmpty = false := by
      rw [Text.Case.lowerAscii, String.isEmpty_eq_false_iff]
      intro he
      have hnil := congrArg String.toList he
      rw [String.toList_ofList] at hnil
      exact hk.ne_empty (List.map_eq_nil_iff.1 hnil)
    simp only [← hcons, hkey, hafter, List.head?_cons, List.drop_succ_cons, List.drop_zero, hv]
    rw [dif_pos trivial, hne, if_neg Bool.false_ne_true]

/-! ## All parameters -/

variable {first : List Char} {ps : List (String × String)}

/-- What is written begins with a semicolon, if there is anything to write. -/
theorem head?_flatMap_write (ps : List Parameter) :
    ∀ c ∈ (ps.flatMap Parameter.write).head?, c = ';' := by
  intro c hc
  cases ps with
  | nil => cases hc
  | cons p ps => exact (Option.some.inj hc).symm

/-- **Parameters are read back** from what was written for them, with their keys in lower case. -/
theorem scanParameters_flatMap_write {ps : List Parameter}
    (h : ∀ p ∈ ps, IsKey p.key ∧ (p.inQuotes = false → IsBare p.value.toList)) :
    scanParameters (ps.flatMap Parameter.write) =
      ps.map fun p => (Text.Case.lowerAscii p.key, p.value) := by
  induction ps with
  | nil => rw [List.flatMap_nil, scanParameters]; rfl
  | cons p ps ih =>
    obtain ⟨hkey, hbare⟩ := h p List.mem_cons_self
    have hvalue : readValue ((if p.inQuotes then quoted p.value else p.value.toList) ++
        ps.flatMap Parameter.write) = (p.value.toList, ps.flatMap Parameter.write) := by
      cases hq : p.inQuotes with
      | true => exact readValue_quoted_append _ _
      | false => exact (hbare hq).readValue_append (head?_flatMap_write ps)
    have hcons : (p :: ps).flatMap Parameter.write =
        ';' :: ' ' :: (p.key.toList ++ '=' ::
          ((if p.inQuotes then quoted p.value else p.value.toList) ++
            ps.flatMap Parameter.write)) := by
      simp [Parameter.write]
    rw [hcons, scanParameters_gap_cons (by decide), scanParameters_gap_cons (by decide),
      scanParameters_of_readValue hkey hvalue, ih fun q hq => h q (List.mem_cons_of_mem _ hq),
      String.ofList_toList, List.map_cons]

/-- What is written with all values in quotes. -/
theorem writeParameters_eq (ps : List (String × String)) :
    writeParameters ps =
      (ps.map fun p => (⟨p.1, p.2, true⟩ : Parameter)).flatMap Parameter.write := by
  rw [List.flatMap_map]
  rfl

theorem scanParameters_write (hk : ∀ p ∈ ps, IsKey p.1) :
    scanParameters (writeParameters ps) = ps.map fun p => (Text.Case.lowerAscii p.1, p.2) := by
  rw [writeParameters_eq, scanParameters_flatMap_write, List.map_map]
  · rfl
  · intro p hp
    obtain ⟨q, hq, rfl⟩ := List.mem_map.1 hp
    exact ⟨hk q hq, nofun⟩

/-- What is written behind a header value begins where the value ends. -/
theorem cut_append {r : List Char} (hfirst : ';' ∉ first) (hr : ∀ c ∈ r.head?, c = ';') :
    Text.cut (· = ';') (first ++ r) = (first, if r = [] then none else some r.tail) := by
  have hsep : ∀ c ∈ first, decide (c = ';') = false := by
    intro c hc
    rw [decide_eq_false_iff_not]
    rintro rfl
    exact hfirst hc
  cases r with
  | nil => rw [List.append_nil, Text.cut_of_not_mem hsep, if_pos rfl]
  | cons c r =>
    rw [Text.cut_append_cons hsep (decide_eq_true (hr c rfl)), if_neg (List.cons_ne_nil c r)]
    rfl

/-- What is scanned of a header value is what is written behind it. -/
theorem parameters_append {r : List Char} (hfirst : ';' ∉ first) (hr : ∀ c ∈ r.head?, c = ';') :
    parameters (String.ofList (first ++ r)) = scanParameters r := by
  rw [parameters, String.toList_ofList, cut_append hfirst hr]
  cases r with
  | nil =>
    rw [scanParameters]
    rfl
  | cons c r =>
    -- the first semicolon is gone, but it would have been passed over
    obtain rfl : c = ';' := hr c rfl
    exact (scanParameters_gap_cons (by decide) _).symm

theorem head?_writeParameters (ps : List (String × String)) :
    ∀ c ∈ (writeParameters ps).head?, c = ';' := by
  rw [writeParameters_eq]
  exact head?_flatMap_write _

/-- **Reading what was written gives the parameters**, with their keys in lower case. -/
theorem parameters_append_write (hfirst : ';' ∉ first) (hk : ∀ p ∈ ps, IsKey p.1) :
    parameters (String.ofList (first ++ writeParameters ps)) =
      ps.map fun p => (Text.Case.lowerAscii p.1, p.2) := by
  rw [parameters_append hfirst (head?_writeParameters ps), scanParameters_write hk]

theorem mediaType_append_write (hfirst : ';' ∉ first) :
    mediaType (String.ofList (first ++ writeParameters ps)) =
      String.ofList ((Text.trim first).map Char.toLower) := by
  rw [mediaType, String.toList_ofList, cut_append hfirst (head?_writeParameters ps)]

/-! ## The written form -/

/-- Parameters hold no character that their keys and values do not hold, but for separators. -/
theorem not_mem_writeParameters {c : Char} (hc : c ∉ [';', ' ', '=', '"', '\\'])
    (h : ∀ p ∈ ps, c ∉ p.1.toList ∧ c ∉ p.2.toList) : c ∉ writeParameters ps := by
  intro hm
  obtain ⟨p, hp, hm⟩ := List.mem_flatMap.1 hm
  obtain ⟨hkey, hvalue⟩ := h p hp
  simp only [List.mem_cons, List.not_mem_nil, or_false, not_or] at hc
  simp only [quoted, List.mem_cons, List.mem_append, List.mem_flatMap, quoteChar,
    List.not_mem_nil, or_false] at hm
  rcases hm with h | h | h | h | h | ⟨d, hd, h⟩ | h
  · exact hc.1 h
  · exact hc.2.1 h
  · exact hkey h
  · exact hc.2.2.1 h
  · exact hc.2.2.2.1 h
  · split at h
    · simp only [List.mem_cons, List.not_mem_nil, or_false] at h
      rcases h with h | h
      · exact hc.2.2.2.2 h
      · exact hvalue (h ▸ hd)
    · exact hvalue (List.mem_singleton.1 h ▸ hd)
  · exact hc.2.2.2.1 h

/-- Parameters end with the quote that closes the last of them. -/
theorem getLast?_append_write (first : List Char) (hne : ps ≠ []) :
    (first ++ writeParameters ps).getLast? = some '"' := by
  obtain ⟨qs, p, rfl⟩ := List.eq_nil_or_concat ps |>.resolve_left hne
  have hw : first ++ writeParameters (qs.concat p) =
      first ++ writeParameters qs ++
        ';' :: ' ' :: (p.1.toList ++ '=' :: '"' :: p.2.toList.flatMap quoteChar) ++ ['"'] := by
    simp [writeParameters, quoted]
  rw [hw, List.getLast?_concat]

end

end WebScript.Form
