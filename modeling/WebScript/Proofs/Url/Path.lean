import Mathlib.Data.List.Flatten
import WebScript.Proofs.Case
import WebScript.Proofs.Text
import WebScript.Proofs.Url.Percent
import WebScript.Url.Path

/-!
# Paths of URLs, written and read

A segment that was read is written so that it is read as itself: it has no slash, and it is a dot
only if it was read as one.

* `isDot_of_percentEncode`, `isDoubleDot_of_percentEncode`: writing makes no dots.
* `isSegment_resolve`: **what a text leads to are segments** in this sense.
* `resolve_textOf`: **a path is read back from its text**.
* `length_textOf_resolve_le`: a path is hardly longer than what it is read from.
-/

namespace WebScript.UrlPath

open Url

variable {c : Char} {cs r : List Char}

/-! ## Dots -/

/-- What follows a dot, plain or percent-encoded. -/
def afterDot? : List Char → Option (List Char)
  | '.' :: r => some r
  | '%' :: '2' :: c :: r => if c.toLower = 'e' then some r else none
  | _ => none

theorem afterDot?_eq_some_iff : afterDot? cs = some r ↔
    cs = '.' :: r ∨ ∃ c, cs = '%' :: '2' :: c :: r ∧ c.toLower = 'e' := by
  unfold afterDot?
  split <;> simp_all [and_comm]

/-- The signs in a dot have no case. -/
theorem toLower_of_sign : (∀ c : Char, c.toLower = '.' ↔ c = '.') ∧
    (∀ c : Char, c.toLower = '%' ↔ c = '%') ∧ ∀ c : Char, c.toLower = '2' ↔ c = '2' :=
  ⟨fun _ => Text.Case.toLower_eq_iff (by decide), fun _ => Text.Case.toLower_eq_iff (by decide),
    fun _ => Text.Case.toLower_eq_iff (by decide)⟩

theorem isDot_iff : isDot cs = true ↔ afterDot? cs = some [] := by
  obtain ⟨hdot, hpercent, htwo⟩ := toLower_of_sign
  rw [afterDot?_eq_some_iff]
  simp [isDot, ← String.toList_inj, List.map_eq_cons_iff, hdot, hpercent, htwo]

theorem isDoubleDot_iff :
    isDoubleDot cs = true ↔ ∃ r, afterDot? cs = some r ∧ afterDot? r = some [] := by
  obtain ⟨hdot, hpercent, htwo⟩ := toLower_of_sign
  have hcases : isDoubleDot cs = true ↔ cs = ['.', '.'] ∨
      (∃ c, cs = ['.', '%', '2', c] ∧ c.toLower = 'e') ∨
      (∃ c, cs = ['%', '2', c, '.'] ∧ c.toLower = 'e') ∨
      ∃ c d, cs = ['%', '2', c, '%', '2', d] ∧ c.toLower = 'e' ∧ d.toLower = 'e' := by
    simp [isDoubleDot, ← String.toList_inj, List.map_eq_cons_iff, hdot, hpercent, htwo]
  simp only [hcases, afterDot?_eq_some_iff]
  constructor
  · rintro (rfl | ⟨c, rfl, hc⟩ | ⟨c, rfl, hc⟩ | ⟨c, d, rfl, hc, hd⟩) <;> simp [*]
  · rintro ⟨r, rfl | ⟨c, rfl, hc⟩, rfl | ⟨d, rfl, hd⟩⟩ <;> simp [*]

/-- A percent-encoded byte is a dot only if it is the byte of one. -/
theorem afterDot?_percentByte {b : UInt8} (hb : b ≠ UInt8.ofNat '.'.toNat) :
    afterDot? (percentByte b) = none := by
  have hall : ∀ n : Fin 256, UInt8.ofFin n ≠ UInt8.ofNat '.'.toNat →
      afterDot? (percentByte (UInt8.ofFin n)) = none := by
    decide +kernel
  exact hall b.toFin hb

/-- **What is written begins with a dot only if the text does.** -/
theorem afterDot?_of_percentEncode (h : afterDot? (percentEncode isPathChar cs) = some r) :
    ∃ s, afterDot? cs = some s ∧ percentEncode isPathChar s = r := by
  have hsign : ∀ c : Char, c.toLower = 'e' → c ≠ '%' := by
    rintro c hc rfl
    cases hc
  rcases afterDot?_eq_some_iff.1 h with h | ⟨c, h, hc⟩
  · obtain ⟨s, rfl, hs⟩ := eq_cons_of_percentEncode_eq_cons (by decide) h
    exact ⟨s, rfl, hs⟩
  · rcases exists_of_percentEncode_eq_cons h with ⟨s, rfl, hs⟩ | ⟨b, s, he, hb⟩
    · obtain ⟨t, rfl, ht⟩ := eq_cons_of_percentEncode_eq_cons (by decide) hs
      obtain ⟨u, rfl, hu⟩ := eq_cons_of_percentEncode_eq_cons (hsign c hc) ht
      exact ⟨u, afterDot?_eq_some_iff.2 (.inr ⟨c, rfl, hc⟩), hu⟩
    · -- no byte written with a percent sign is that of a dot
      have hnone := afterDot?_percentByte (hb '.' (by decide) (by decide))
      have hbyte : ['%', '2', c] = percentByte b := List.append_inj_left he rfl
      rw [← hbyte, afterDot?, if_pos hc] at hnone
      cases hnone

theorem isDot_of_percentEncode (h : isDot (percentEncode isPathChar cs) = true) :
    isDot cs = true := by
  obtain ⟨s, hs, hnil⟩ := afterDot?_of_percentEncode (isDot_iff.1 h)
  rw [percentEncode_eq_nil hnil] at hs
  exact isDot_iff.2 hs

theorem isDoubleDot_of_percentEncode (h : isDoubleDot (percentEncode isPathChar cs) = true) :
    isDoubleDot cs = true := by
  obtain ⟨r, hr, hlast⟩ := isDoubleDot_iff.1 h
  obtain ⟨s, hs, rfl⟩ := afterDot?_of_percentEncode hr
  obtain ⟨t, ht, hnil⟩ := afterDot?_of_percentEncode hlast
  rw [percentEncode_eq_nil hnil] at ht
  exact isDoubleDot_iff.2 ⟨s, hs, ht⟩

/-! ## Segments -/

variable {isSlash : Char → Bool} {names : List String} {n : String} {pieces : List (List Char)}

/-- **A segment as it is written**: shown, without slashes, and not one of the dots. -/
structure IsSegment (isSlash : Char → Bool) (cs : List Char) : Prop where
  shown : IsShown isPathChar cs
  slash : ∀ c ∈ cs, isSlash c = false
  dot : isDot cs = false
  doubleDot : isDoubleDot cs = false

theorem isSegment_nil : IsSegment isSlash [] :=
  ⟨fun _ h => absurd h List.not_mem_nil, fun _ h => absurd h List.not_mem_nil, rfl, rfl⟩

theorem isShown_escapeChars : IsShown isPathChar escapeChars := by decide

/-- What is written for a text without slashes that is not one of the dots is a segment. -/
theorem isSegment_writeSegment (hescape : ∀ c ∈ escapeChars, isSlash c = false)
    (hslash : ∀ c ∈ cs, isSlash c = false) (hdot : ¬ isDot cs = true)
    (hdouble : ¬ isDoubleDot cs = true) : IsSegment isSlash (writeSegment cs).toList := by
  rw [writeSegment, String.toList_ofList]
  refine ⟨isShown_percentEncode isShown_escapeChars cs, fun c hc => ?_,
    Bool.eq_false_iff.2 (mt isDot_of_percentEncode hdot),
    Bool.eq_false_iff.2 (mt isDoubleDot_of_percentEncode hdouble)⟩
  rcases mem_percentEncode hc with ⟨hc, -⟩ | hc
  · exact hslash c hc
  · exact hescape c hc

theorem mem_of_mem_stepUp (h : n ∈ stepUp names) : n ∈ names := by
  unfold stepUp at h
  split at h
  · exact h
  · exact List.dropLast_subset names h

theorem isSegment_addSegment (hescape : ∀ c ∈ escapeChars, isSlash c = false)
    (hcs : ∀ c ∈ cs, isSlash c = false) (hnames : ∀ n ∈ names, IsSegment isSlash n.toList)
    (isLast : Bool) : ∀ n ∈ addSegment names cs isLast, IsSegment isSlash n.toList := by
  have hend : ∀ n ∈ if isLast then [""] else [], IsSegment isSlash n.toList := by
    intro n hn
    cases isLast with
    | true =>
      obtain rfl := List.mem_singleton.1 hn
      exact isSegment_nil
    | false => cases hn
  intro n hn
  unfold addSegment at hn
  split at hn
  · rcases List.mem_append.1 hn with hn | hn
    · exact hnames n (mem_of_mem_stepUp hn)
    · exact hend n hn
  split at hn
  · rcases List.mem_append.1 hn with hn | hn
    · exact hnames n hn
    · exact hend n hn
  · rename_i hdouble hdot
    rcases List.mem_append.1 hn with hn | hn
    · exact hnames n hn
    · obtain rfl := List.mem_singleton.1 hn
      exact isSegment_writeSegment hescape hcs hdot hdouble

/-- Adding segments keeps what adding one keeps. -/
theorem addSegments_induction {add : List String → List Char → Bool → List String}
    {P : List String → Prop} (hadd : ∀ cs ∈ pieces, ∀ names isLast, P names →
      P (add names cs isLast)) (hnames : P names) : P (addSegments add names pieces) := by
  induction pieces generalizing names with
  | nil => exact hnames
  | cons cs rest ih =>
    cases rest with
    | nil => exact hadd cs List.mem_cons_self names true hnames
    | cons _ _ =>
      exact ih (fun ds hds => hadd ds (List.mem_cons_of_mem cs hds))
        (hadd cs List.mem_cons_self names false hnames)

/-- **The segments that a text leads to are written as segments.** -/
theorem isSegment_resolve (hescape : ∀ c ∈ escapeChars, isSlash c = false)
    (hnames : ∀ n ∈ names, IsSegment isSlash n.toList) (cs : List Char) :
    ∀ n ∈ resolve isSlash names cs, IsSegment isSlash n.toList :=
  addSegments_induction (P := fun names => ∀ n ∈ names, IsSegment isSlash n.toList)
    (fun _ hpiece _ isLast hnames => isSegment_addSegment hescape
      (fun c hc => (Text.of_mem_splitOnP hpiece c hc).2) hnames isLast) hnames

/-! ## The text of a path -/

/-- Segments as text, each behind a slash. -/
def textOf (names : List String) : List Char := names.flatMap fun n => '/' :: n.toList

theorem toList_serialize_segments (names : List String) :
    (segments names).serialize.toList = textOf names := by
  induction names with
  | nil => rfl
  | cons n ns ih =>
    have hcons : (segments (n :: ns)).serialize = "/" ++ n ++ (segments ns).serialize := by
      rw [serialize, serialize, List.map_cons, String.join_cons]
    rw [hcons, String.toList_append, String.toList_append, ih, textOf, textOf, List.flatMap_cons]
    rfl

theorem textOf_cons (n : String) (ns : List String) :
    textOf (n :: ns) = '/' :: (n.toList ++ textOf ns) := rfl

theorem mem_textOf {c : Char} (h : c ∈ textOf names) :
    c = '/' ∨ ∃ n ∈ names, c ∈ n.toList := by
  obtain ⟨n, hn, hc⟩ := List.mem_flatMap.1 h
  rcases List.mem_cons.1 hc with rfl | hc
  · exact .inl rfl
  · exact .inr ⟨n, hn, hc⟩

/-- The text is cut into the segments again. -/
theorem splitOnP_textOf (hslash : isSlash '/' = true) {n : String} {ns : List String}
    (h : ∀ m ∈ n :: ns, IsSegment isSlash m.toList) :
    (n.toList ++ textOf ns).splitOnP isSlash = (n :: ns).map String.toList := by
  induction ns generalizing n with
  | nil =>
    rw [textOf, List.flatMap_nil, List.append_nil,
      List.splitOnP_eq_singleton (h n List.mem_cons_self).slash]
    rfl
  | cons m ns ih =>
    rw [textOf_cons, List.splitOnP_append_cons_of_forall_mem (h n List.mem_cons_self).slash '/'
      hslash, ih fun k hk => h k (List.mem_cons_of_mem n hk)]
    rfl

/-- A segment is added as it is. -/
theorem addSegment_of_isSegment (h : IsSegment isSlash n.toList) (names : List String)
    (isLast : Bool) : addSegment names n.toList isLast = names ++ [n] := by
  rw [addSegment, h.doubleDot, h.dot, writeSegment, percentEncode_eq_self h.shown,
    String.ofList_toList]
  rfl

theorem addSegments_of_isSegment {ns : List String} (h : ∀ n ∈ ns, IsSegment isSlash n.toList)
    (names : List String) : addSegments addSegment names (ns.map String.toList) = names ++ ns := by
  induction ns generalizing names with
  | nil => exact (List.append_nil names).symm
  | cons n ns ih =>
    have hn := addSegment_of_isSegment (h n List.mem_cons_self) names
    cases ns with
    | nil => exact hn true
    | cons m ns =>
      have hrest := ih (fun k hk => h k (List.mem_cons_of_mem n hk)) (names ++ [n])
      rw [List.append_assoc, List.singleton_append] at hrest
      rw [← hrest, ← hn false]
      rfl

/-- **A path is read back from its text**, segment by segment. -/
theorem resolve_textOf (hslash : isSlash '/' = true) {n : String} {ns : List String}
    (h : ∀ m ∈ n :: ns, IsSegment isSlash m.toList) :
    resolve isSlash [] (n.toList ++ textOf ns) = n :: ns := by
  rw [resolve, splitOnP_textOf hslash h, addSegments_of_isSegment h, List.nil_append]

/-! ## The length of a path -/

theorem textOf_append (ns ms : List String) : textOf (ns ++ ms) = textOf ns ++ textOf ms :=
  List.flatMap_append

theorem length_textOf_stepUp_le : (textOf (stepUp names)).length ≤ (textOf names).length := by
  unfold stepUp
  split
  · exact Nat.le_refl _
  · exact ((List.dropLast_sublist names).flatMap _).length_le

/-- What is shown becomes no longer than itself and a slash. -/
theorem length_textOf_addSegment_le (h : IsShown isPathChar cs) (isLast : Bool) :
    (textOf (addSegment names cs isLast)).length ≤ (textOf names).length + (cs.length + 1) := by
  have hend : (textOf (if isLast then [""] else [])).length ≤ 1 := by
    cases isLast <;> decide
  unfold addSegment
  split
  · have hup : (textOf (stepUp names)).length ≤ (textOf names).length := length_textOf_stepUp_le
    rw [textOf_append, List.length_append]
    omega
  split
  · rw [textOf_append, List.length_append]
    omega
  · have hone : (textOf [writeSegment cs]).length = cs.length + 1 := by
      rw [writeSegment, percentEncode_eq_self h, textOf_cons, String.toList_ofList, textOf,
        List.flatMap_nil, List.append_nil, List.length_cons]
    rw [textOf_append, List.length_append, hone]

theorem length_textOf_addSegments_le (h : ∀ cs ∈ pieces, IsShown isPathChar cs) :
    (textOf (addSegments addSegment names pieces)).length ≤
      (textOf names).length + (pieces.map fun cs => cs.length + 1).sum := by
  induction pieces generalizing names with
  | nil => exact Nat.le_refl _
  | cons cs rest ih =>
    have hcs : IsShown isPathChar cs := h cs List.mem_cons_self
    rw [List.map_cons, List.sum_cons]
    cases rest with
    | nil => exact length_textOf_addSegment_le hcs true
    | cons ds rest =>
      have hfirst : (textOf (addSegment names cs false)).length ≤ _ :=
        length_textOf_addSegment_le hcs false
      have hrest : (textOf (addSegments addSegment (addSegment names cs false)
          (ds :: rest))).length ≤ _ := ih fun es hes => h es (List.mem_cons_of_mem cs hes)
      rw [addSegments]
      · omega
      · exact List.cons_ne_nil ds rest

theorem sum_length_splitOnP (p : Char → Bool) (cs : List Char) :
    ((cs.splitOnP p).map fun piece => piece.length + 1).sum = cs.length + 1 := by
  induction cs with
  | nil => rfl
  | cons a cs ih =>
    rw [List.splitOnP_cons_eq_if_modifyHead]
    split
    · rw [List.map_cons, List.sum_cons, ih, List.length_nil, List.length_cons]
      omega
    · obtain ⟨first, rest, hs⟩ := List.exists_cons_of_ne_nil (List.splitOnP_ne_nil p cs)
      rw [hs] at ih ⊢
      simp only [List.modifyHead_cons, List.map_cons, List.sum_cons, List.length_cons] at ih ⊢
      omega

/-- **A path is longer than the text it is read from by a slash at most**, if all of the text is
shown. -/
theorem length_textOf_resolve_le (h : IsShown isPathChar cs) :
    (textOf (resolve isSlash [] cs)).length ≤ cs.length + 1 := by
  have hpieces : ∀ piece ∈ cs.splitOnP isSlash, IsShown isPathChar piece :=
    fun piece hpiece => h.of_subset fun c hc => (Text.of_mem_splitOnP hpiece c hc).1
  calc (textOf (resolve isSlash [] cs)).length
      ≤ (textOf []).length + ((cs.splitOnP isSlash).map fun piece => piece.length + 1).sum :=
        length_textOf_addSegments_le hpieces
    _ = cs.length + 1 := by
        rw [sum_length_splitOnP, textOf, List.flatMap_nil, List.length_nil, Nat.zero_add]

end WebScript.UrlPath
