import WebScript.Proofs.Loop
import WebScript.Proofs.Parameters
import WebScript.Proofs.Token

/-!
# Scanning header parameters

The parameters of a header value are found by passes over it, each of which takes one parameter from
the front of what is left. A key without an equals sign, an empty key, a bare value and a quote that
is never closed all end in different places.

* `Scan.pass`: one pass.
* `Scan.pass_cases`: **what a pass can do.**
* `Scan.rest_of_pass`: **every pass leaves less**: an end of what it was given, and not all of it.
* `Scan.parameters_of_pass`: what a pass leaves to find, with what was found, are the parameters.
* `scan_ends_and_undoes_writing`: **the scan ends on every text**, and reads back what was written.
-/

namespace WebScript.Form

/-- The parameters that were found, and the text that is left to scan. -/
structure Scan where
  found : List (String × String)
  rest : List Char

namespace Scan

variable {s s' : Scan} {found : List (String × String)}

/-- One pass: over the gap in front, then over a key, and over its value if it has one. With no text
left, the scan is over. -/
def pass (s : Scan) : Except (List (String × String)) Scan :=
  match s.rest.dropWhile isGap with
  | [] => .error s.found
  | c :: r =>
    if (afterKey (c :: r)).head? = some '=' then
      let key := keyOf (c :: r)
      let value := readValue ((afterKey (c :: r)).drop 1)
      .ok ⟨if key.isEmpty then s.found else s.found ++ [(key, String.ofList value.1)], value.2⟩
    else .ok ⟨s.found, afterKey (c :: r)⟩

/-- The scan of a header value starts behind its first semicolon. -/
def start (value : String) : Except (List (String × String)) Scan :=
  match Text.cut (· = ';') value.toList with
  | (_, some r) => .ok ⟨[], r⟩
  | (_, none) => .error []

/-- **What a pass can do**: it takes a key with its value, or passes over a key without one. -/
theorem pass_cases (h : s.pass = .ok s') :
    ∃ c r, s.rest.dropWhile isGap = c :: r ∧
      ((∃ v, afterKey (c :: r) = '=' :: v ∧
          s' = ⟨if (keyOf (c :: r)).isEmpty then s.found
            else s.found ++ [(keyOf (c :: r), String.ofList (readValue v).1)], (readValue v).2⟩) ∨
        ((afterKey (c :: r)).head? ≠ some '=' ∧ s' = ⟨s.found, afterKey (c :: r)⟩)) := by
  unfold pass at h
  split at h
  · cases h
  · rename_i c r hcons
    refine ⟨c, r, hcons, ?_⟩
    split at h
    · rename_i hvalue
      obtain ⟨v, hv⟩ := List.head?_eq_some_iff.1 hvalue
      rw [hv, List.drop_succ_cons, List.drop_zero] at h
      exact .inl ⟨v, hv, (Except.ok.inj h).symm⟩
    · rename_i hflag
      exact .inr ⟨hflag, (Except.ok.inj h).symm⟩

/-- The scan is over where nothing but a gap is left. -/
theorem pass_eq_error_iff : s.pass = .error found ↔
    s.rest.dropWhile isGap = [] ∧ found = s.found := by
  unfold pass
  split
  · rename_i hnil
    rw [Except.error.injEq, hnil, eq_comm]
    simp
  · rename_i hcons
    rw [hcons]
    split <;> simp

/-! ## What is left -/

theorem readQuoted_suffix (cs : List Char) : (readQuoted cs).2 <:+ cs := by
  fun_induction readQuoted cs with
  | case1 => exact List.suffix_refl _
  | case2 r => exact List.suffix_cons _ r
  | case3 c r v rest hread ih =>
    rw [hread] at ih
    exact ih.trans ((List.suffix_cons c r).trans (List.suffix_cons _ _))
  | case4 => exact List.nil_suffix
  | case5 c r _ _ _ v rest hread ih =>
    rw [hread] at ih
    exact ih.trans (List.suffix_cons c r)

theorem readValue_suffix (cs : List Char) : (readValue cs).2 <:+ cs := by
  have hstart : Text.trimStart cs <:+ cs := List.dropWhile_suffix _
  unfold readValue
  split
  · rename_i r hquote
    rw [hquote] at hstart
    exact (readQuoted_suffix r).trans ((List.suffix_cons _ r).trans hstart)
  · exact (List.dropWhile_suffix _).trans hstart

/-- **Every pass leaves less**: an end of the text that it was given, and not all of it. -/
theorem rest_of_pass (h : s.pass = .ok s') :
    s'.rest <:+ s.rest ∧ s'.rest.length < s.rest.length := by
  obtain ⟨c, r, hcons, hcase⟩ := pass_cases h
  have hgap : c :: r <:+ s.rest := hcons ▸ List.dropWhile_suffix _
  have hkey : afterKey (c :: r) <:+ c :: r := List.dropWhile_suffix _
  rcases hcase with ⟨v, hv, rfl⟩ | ⟨hflag, rfl⟩
  · -- the equals sign is gone
    have hvalue : (readValue v).2 <:+ v := readValue_suffix v
    have hsign : '=' :: v <:+ s.rest := hv ▸ hkey.trans hgap
    have hlt : v.length < s.rest.length := hsign.length_le
    exact ⟨hvalue.trans ((List.suffix_cons _ v).trans hsign), hvalue.length_le.trans_lt hlt⟩
  · -- the key is gone, and is not empty: it begins where the gap ends
    have hc : isGap c = false := by
      have hhead := List.head?_dropWhile_not isGap s.rest
      rw [hcons] at hhead
      simpa using hhead
    exact ⟨hkey.trans hgap, (length_afterKey_lt hc hflag).trans_le hgap.length_le⟩

/-! ## What is found -/

/-- What a pass leaves to find, with what was found, are the parameters. -/
theorem parameters_of_pass (h : s.pass = .ok s') :
    s'.found ++ scanParameters s'.rest = s.found ++ scanParameters s.rest := by
  -- a pass adds behind what was found just what the recursion puts in front of what is left
  obtain ⟨c, r, hcons, hcase⟩ := pass_cases h
  rw [scanParameters.eq_def s.rest]
  split
  · rename_i hnil
    rw [hcons] at hnil
    cases hnil
  · rename_i c' r' hcons'
    obtain ⟨rfl, rfl⟩ := List.cons.inj (hcons.symm.trans hcons')
    rcases hcase with ⟨v, hv, rfl⟩ | ⟨hflag, rfl⟩
    · simp only [hv, List.head?_cons, List.drop_succ_cons, List.drop_zero, dite_true]
      split <;> simp
    · rw [dif_neg hflag]

/-- Where the scan is over, the parameters are those that were found. -/
theorem parameters_of_pass_error (h : s.pass = .error found) :
    found = s.found ++ scanParameters s.rest := by
  obtain ⟨hnil, rfl⟩ := pass_eq_error_iff.1 h
  rw [scanParameters.eq_def]
  split
  · rw [List.append_nil]
  · rename_i hcons
    rw [hnil] at hcons
    cases hcons

/-- **The scan ends on every text**, after no more passes than the text has characters, with its
parameters. -/
theorem exists_ended (value : String) :
    ∃ n ≤ value.length, Loop.after pass (start value) n = .error (parameters value) := by
  rw [start, parameters]
  rcases hcut : Text.cut (· = ';') value.toList with ⟨first, _ | r⟩
  · exact ⟨0, Nat.zero_le _, rfl⟩
  · obtain ⟨n, hn, hended⟩ := Loop.exists_ended (fun _ => True) (fun s => s.rest.length)
      (fun s => s.found ++ scanParameters s.rest)
      (fun s s' _ hs => ⟨trivial, (rest_of_pass hs).2, parameters_of_pass hs⟩)
      (fun s found _ hs => parameters_of_pass_error hs) (s := ⟨[], r⟩) trivial
    have hlength : r.length + 1 ≤ value.length := by
      rw [← String.length_toList, (Text.cut_eq_some_iff.1 hcut).1, List.length_append,
        List.length_cons]
      exact Nat.le_add_left _ _
    exact ⟨n, hn.trans hlength, hended⟩

end Scan

/-- A token may be written as a key. -/
theorem IsKey.of_isToken {key : String} (h : Http.isToken key = true) : IsKey key := by
  refine ⟨?_, ?_, Http.isBlank_of_mem_token h⟩
  · intro hnil
    rw [String.toList_eq_nil_iff] at hnil
    rw [hnil] at h
    cases h
  · intro c hc
    rw [isKeyChar, Bool.and_eq_true, bne_iff_ne, bne_iff_ne]
    constructor
    · rintro rfl
      exact Http.not_mem_of_isToken h (by decide) hc
    · rintro rfl
      exact Http.not_mem_of_isToken h (by decide) hc

/-- **The scan ends on every text**, with a text left by each pass that is a proper end of the one
before, **and it undoes writing**: of tokens with values, in quotes or bare, behind any text without
a semicolon, it finds the tokens in lower case with the values, in order. -/
theorem scan_ends_and_undoes_writing :
    (∀ value, ∃ n ≤ value.length,
      Loop.after Scan.pass (Scan.start value) n = .error (parameters value)) ∧
    (∀ s s', Scan.pass s = .ok s' → s'.rest <:+ s.rest ∧ s'.rest.length < s.rest.length) ∧
    ∀ (first : List Char) (ps : List Parameter), ';' ∉ first →
      (∀ p ∈ ps, Http.isToken p.key = true ∧ (p.inQuotes = false → IsBare p.value.toList)) →
      parameters (String.ofList (first ++ ps.flatMap Parameter.write)) =
        ps.map fun p => (Text.Case.lowerAscii p.key, p.value) := by
  refine ⟨Scan.exists_ended, fun s s' => Scan.rest_of_pass, ?_⟩
  intro first ps hfirst hps
  rw [parameters_append hfirst (head?_flatMap_write ps)]
  apply scanParameters_flatMap_write
  intro p hp
  exact ⟨.of_isToken (hps p hp).1, (hps p hp).2⟩

/-- Separators and quotes in quotes, a bare value with a space inside it, and an empty one. -/
theorem scan_of_mixed_parameters :
    let ps : List Parameter :=
      [⟨"Name", "a; b=\"c\\", true⟩, ⟨"filename", "x y.txt", false⟩, ⟨"empty", "", false⟩]
    (∀ p ∈ ps, Http.isToken p.key = true ∧ (p.inQuotes = false → IsBare p.value.toList)) ∧
    parameters "form-data; Name=\"a; b=\\\"c\\\\\"; filename=x y.txt; empty=" =
      [("name", "a; b=\"c\\"), ("filename", "x y.txt"), ("empty", "")] := by
  intro ps
  have hps : ∀ p ∈ ps,
      Http.isToken p.key = true ∧ (p.inQuotes = false → IsBare p.value.toList) := by decide
  exact ⟨hps, scan_ends_and_undoes_writing.2.2 "form-data".toList ps (by decide) hps⟩

end WebScript.Form
