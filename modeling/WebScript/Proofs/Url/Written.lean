import WebScript.Proofs.Results
import WebScript.Proofs.Text
import WebScript.Proofs.Url.Path
import WebScript.Url.Parser

/-!
# URLs as they are written

What the reader makes of a text is written with the characters that each part of a URL shows, and
its segments are read as segments again. Files are left out, whose drive letters are not segments
like the others.

* `Url.Written`: path and query are written so that they can be read back.
* `exists_of_readAfterSlashes`: **what is read behind two slashes** is an authority and a path.
* `Url.readWithScheme_cases`: what has a scheme of its own is hardly ever relative.
* `Url.written_join`: **what is read is written**, if what it is relative to is.
-/

namespace WebScript

open Result

/-- **A path as it is written** behind a scheme of some kind. -/
def UrlPath.Written (kind : Url.SchemeKind) : UrlPath → Prop
  | .segments names => ∀ n ∈ names, IsSegment (Url.isSlash kind) n.toList
  | .unstructured text =>
    kind = .other ∧ Url.IsShown Url.isPrintable text.toList ∧
      '#' ∉ text.toList ∧ '?' ∉ text.toList

namespace Url

/-- The characters that a query shows behind a scheme of some kind. -/
def queryChar (kind : SchemeKind) : Char → Bool :=
  if kind = .other then isQueryChar else isSpecialQueryChar

/-- **A URL whose path and query are as they are written.** -/
structure Written (u : Url) : Prop where
  path : u.path.Written (schemeKind u.scheme)
  query : ∀ q ∈ u.query, IsShown (queryChar (schemeKind u.scheme)) q.toList

open UrlPath (isAnySlash)

variable {base u : Url} {kind : SchemeKind} {p : Parts} {scheme : String} {path : UrlPath}
  {authority : Option Authority} {names : List String} {c : Char} {cs r : List Char}

/-! ## Parts -/

theorem isSlash_of_escape (kind : SchemeKind) : ∀ c ∈ escapeChars, isSlash kind c = false := by
  have hall : IsShown (fun c => ! isSlash kind c) escapeChars := by
    cases kind <;> decide
  intro c hc
  simpa using (hall c hc).2

theorem isSlash_slash (kind : SchemeKind) : isSlash kind '/' = true := by
  cases kind <;> rfl

/-- Segments that follow others are written. -/
theorem written_resolve (hnames : ∀ n ∈ names, UrlPath.IsSegment (isSlash kind) n.toList)
    (cs : List Char) :
    (UrlPath.segments (UrlPath.resolve (isSlash kind) names cs)).Written kind :=
  UrlPath.isSegment_resolve (isSlash_of_escape kind) hnames cs

theorem written_resolve_nil (kind : SchemeKind) (cs : List Char) :
    (UrlPath.segments (UrlPath.resolve (isSlash kind) [] cs)).Written kind :=
  written_resolve (fun _ h => absurd h List.not_mem_nil) cs

theorem writeQuery_eq (kind : SchemeKind) (query : Option (List Char)) :
    writeQuery kind query = query.map fun q => String.ofList (percentEncode (queryChar kind) q) :=
  rfl

theorem isShown_writeQuery {query : Option (List Char)} :
    ∀ q ∈ writeQuery kind query, IsShown (queryChar kind) q.toList := by
  have hescape : IsShown (queryChar kind) escapeChars := by
    cases kind <;> decide
  intro q hq
  rw [writeQuery_eq] at hq
  obtain ⟨cs, -, rfl⟩ := Option.map_eq_some_iff.1 hq
  rw [String.toList_ofList]
  exact isShown_percentEncode hescape cs

theorem written_withParts (hkind : kind = schemeKind scheme) (hpath : path.Written kind) :
    (withParts kind p scheme authority path).Written := by
  subst hkind
  exact ⟨hpath, isShown_writeQuery⟩

@[simp] theorem scheme_withTail (base : Url) (kind : SchemeKind) (p : Parts) :
    (withTail base kind p).scheme = base.scheme := rfl

@[simp] theorem isUnstructured_withTail (base : Url) (kind : SchemeKind) (p : Parts) :
    (withTail base kind p).isUnstructured = base.isUnstructured := rfl

theorem written_withTail (hbase : base.Written) (hkind : kind = schemeKind base.scheme) :
    (withTail base kind p).Written := by
  subst hkind
  refine ⟨hbase.path, fun q hq => ?_⟩
  unfold withTail at hq
  dsimp only at hq
  split at hq
  · exact isShown_writeQuery q hq
  · exact hbase.query q hq

theorem isSegment_names (hpath : base.path.Written kind) :
    ∀ n ∈ base.names, UrlPath.IsSegment (isSlash kind) n.toList := by
  intro n hn
  unfold names at hn
  cases hp : base.path with
  | segments ns =>
    rw [hp] at hn hpath
    exact hpath n hn
  | unstructured text =>
    rw [hp] at hn
    cases hn

/-! ## Behind two slashes -/

theorem spanHost_sublist (inside : Bool) (cs : List Char) :
    (spanHost inside cs).2.Sublist cs := by
  induction cs generalizing inside with
  | nil => exact List.Sublist.refl _
  | cons c r ih =>
    rw [spanHost]
    split
    · exact List.Sublist.refl _
    · exact (ih _).cons c

theorem readPort_sublist {port : Option Nat} (h : readPort scheme cs = .ok (port, r)) :
    r.Sublist cs := by
  unfold readPort at h
  dsimp only at h
  split at h
  · cases h
  split at h
  · cases h
  · cases h
    exact List.dropWhile_sublist _

/-- What an authority leaves is part of the text. -/
theorem readAuthority_sublist {userinfo : Option (List Char)} {a : Authority}
    (h : readAuthority kind scheme userinfo cs = .ok (a, r)) : r.Sublist cs := by
  have hspan : (spanHost false cs).2.Sublist cs := spanHost_sublist false cs
  unfold readAuthority at h
  dsimp only at h
  obtain ⟨host, -, h⟩ := bind_eq_ok_iff.1 h
  split at h
  · cases h
  split at h
  · rename_i s hs
    rw [hs] at hspan
    obtain ⟨⟨port, rest⟩, hport, h⟩ := bind_eq_ok_iff.1 h
    split at h <;> cases h
    exact (readPort_sublist hport).trans ((List.sublist_cons_self ':' s).trans hspan)
  · obtain ⟨⟨port, rest⟩, hport, h⟩ := bind_eq_ok_iff.1 h
    cases hport
    split at h <;> cases h
    exact hspan

/-- **What is read behind two slashes** is an authority, and a path in what follows it. -/
theorem exists_of_readAfterSlashes (h : readAfterSlashes kind scheme p cs = .ok u) :
    ∃ a r, r.Sublist cs ∧ u = withParts kind p scheme (some a) (readAbsolutePath kind r) := by
  have hcs : cs.takeWhile (! isSlash kind ·) ++ cs.dropWhile (! isSlash kind ·) = cs :=
    List.takeWhile_append_dropWhile
  generalize hfront : cs.takeWhile (! isSlash kind ·) = front at hcs
  generalize hbehind : cs.dropWhile (! isSlash kind ·) = behind at hcs
  -- whichever part of the front names the host
  have hread : ∀ userinfo hostPart, hostPart.Sublist front →
      (readAuthority kind scheme userinfo hostPart >>= fun q =>
        .ok (withParts kind p scheme (some q.1) (readAbsolutePath kind (q.2 ++ behind)))) = .ok u →
      ∃ a r, r.Sublist cs ∧ u = withParts kind p scheme (some a) (readAbsolutePath kind r) := by
    intro userinfo hostPart hhost h
    obtain ⟨⟨a, rest⟩, ha, h⟩ := bind_eq_ok_iff.1 h
    cases h
    refine ⟨a, rest ++ behind, ?_, rfl⟩
    rw [← hcs]
    exact ((readAuthority_sublist ha).trans hhost).append_right behind
  unfold readAfterSlashes at h
  dsimp only at h
  rw [hfront, hbehind] at h
  cases hcut : Text.cutLast (· = '@') front with
  | none =>
    rw [hcut] at h
    dsimp only at h
    split at h
    · cases h
    · exact hread none front (List.Sublist.refl _) h
  | some parts =>
    rw [hcut] at h
    dsimp only at h
    split at h
    · cases h
    · exact hread (some parts.1) parts.2 (Text.cutLast_sublist hcut) h

theorem written_readAbsolutePath (kind : SchemeKind) (cs : List Char) :
    (readAbsolutePath kind cs).Written kind := by
  unfold readAbsolutePath
  split
  · exact fun _ h => absurd h List.not_mem_nil
  · exact written_resolve_nil kind _
  · intro n hn
    obtain rfl := List.mem_singleton.1 hn
    exact UrlPath.isSegment_nil

theorem written_readAfterSlashes (hkind : kind = schemeKind scheme)
    (h : readAfterSlashes kind scheme p cs = .ok u) : u.Written := by
  obtain ⟨a, r, -, rfl⟩ := exists_of_readAfterSlashes h
  exact written_withParts hkind (written_readAbsolutePath kind r)

/-! ## Whole texts -/

theorem written_readRelative (hbase : base.Written) (hkind : kind = schemeKind base.scheme)
    (h : readRelative base kind p cs = .ok u) : u.Written := by
  have hnames : ∀ n ∈ base.names.dropLast, UrlPath.IsSegment (isSlash kind) n.toList := by
    subst hkind
    exact fun n hn => isSegment_names hbase.path n (List.dropLast_subset _ hn)
  unfold readRelative at h
  split at h
  · cases h
    exact written_withTail hbase hkind
  split at h
  · split at h
    · exact written_readAfterSlashes hkind h
    · cases h
      exact written_withParts hkind (written_resolve_nil _ _)
  · cases h
    exact written_withParts hkind (written_resolve hnames _)

theorem written_readOther (hkind : .other = schemeKind scheme) (hhash : '#' ∉ cs) (hmark : '?' ∉ cs)
    (h : readOther scheme p cs = .ok u) : u.Written := by
  unfold readOther at h
  split at h
  · exact written_readAfterSlashes hkind h
  · cases h
    exact written_withParts hkind (written_resolve_nil _ _)
  · cases h
    refine written_withParts hkind ⟨rfl, ?_⟩
    rw [String.toList_ofList]
    refine ⟨isShown_percentEncode (by decide) cs, fun hc => ?_, fun hc => ?_⟩
    · rcases mem_percentEncode hc with ⟨hc, -⟩ | hc
      · exact hhash hc
      · exact absurd hc (by decide)
    · rcases mem_percentEncode hc with ⟨hc, -⟩ | hc
      · exact hmark hc
      · exact absurd hc (by decide)

/-- What follows the scheme of a file is the URL of a file. -/
theorem scheme_readFile (h : readFile none p cs = .ok u) : u.scheme = "file" := by
  have hslashes : ∀ s, readFileAfterSlashes p s = .ok u → u.scheme = "file" := by
    intro s h
    unfold readFileAfterSlashes at h
    dsimp only at h
    split at h
    · cases h
      rfl
    · obtain ⟨host, -, h⟩ := bind_eq_ok_iff.1 h
      split at h <;> cases h <;> rfl
  unfold readFile at h
  split at h
  · cases h
    rfl
  split at h
  · split at h
    · split at h
      · exact hslashes _ h
      · cases h
        rfl
    · cases h
      rfl
  · cases h
    rfl

theorem schemeKind_eq_file_iff : schemeKind scheme = .file ↔ scheme = "file" := by
  unfold schemeKind
  split
  · rename_i h
    exact iff_of_true rfl h
  · rename_i h
    refine iff_of_false ?_ h
    split <;> nofun

/-- Fragment and query are cut off a text before it is read. -/
theorem not_mem_main (cs : List Char) : '#' ∉ (Parts.of cs).main ∧ '?' ∉ (Parts.of cs).main := by
  have hmain : (Parts.of cs).main =
      (cs.takeWhile fun c => ! decide (c = '#')).takeWhile fun c => ! decide (c = '?') := by
    unfold Parts.of
    dsimp only
    rw [Text.fst_cut, Text.fst_cut]
  rw [hmain]
  constructor
  · intro hc
    have hno := List.mem_takeWhile_imp ((List.takeWhile_sublist _).subset hc)
    simp at hno
  · intro hc
    have hno := List.mem_takeWhile_imp hc
    simp at hno

theorem eq_append_of_splitScheme? (h : splitScheme? cs = some (scheme, r)) :
    ∃ front, cs = front ++ ':' :: r := by
  unfold splitScheme? at h
  split at h
  · rename_i front s hcut
    obtain ⟨c, hc, hcs⟩ := Text.eq_append_of_cut (· = ':') cs (by rw [hcut])
    rw [decide_eq_true_eq] at hc
    dsimp only at h
    split at h
    · cases h
      rw [← hc]
      exact ⟨_, hcs⟩
    · cases h
  · cases h

/-- Behind a scheme nothing is relative to another URL, unless that has the same special scheme. -/
theorem readWithScheme_cases (hfile : base.scheme ≠ "file") (scheme : String) (p : Parts)
    (cs : List Char) :
    readWithScheme (some base) scheme p cs = readWithScheme none scheme p cs ∨
      schemeKind base.scheme = .special ∧ readWithScheme (some base) scheme p cs =
        readRelative base .special p (UrlPath.dropBreaks cs) := by
  unfold readWithScheme
  dsimp only
  cases hkind : schemeKind scheme with
  | file =>
    have hnone : (some base).filter (·.scheme = "file") = none := by simp [hfile]
    exact .inl (by rw [hnone, Option.filter_none])
  | other => exact .inl rfl
  | special =>
    dsimp only
    rw [Option.filter_some]
    by_cases hsame : base.scheme = scheme ∧
        ((UrlPath.dropBreaks cs).takeWhile isAnySlash).length < 2
    · rw [if_pos (decide_eq_true hsame)]
      exact .inr ⟨by rw [hsame.1, hkind], rfl⟩
    · rw [if_neg (by simpa using hsame)]
      exact .inl rfl

theorem written_readWithScheme (hhash : '#' ∉ cs) (hmark : '?' ∉ cs)
    (h : readWithScheme none scheme p cs = .ok u) (hu : u.scheme ≠ "file") : u.Written := by
  have hplain : UrlPath.dropBreaks cs ⊆ cs := List.filter_sublist.subset
  unfold readWithScheme at h
  dsimp only at h
  split at h
  · exact absurd (scheme_readFile h) hu
  · rename_i hkind
    exact written_readOther hkind.symm (mt (@hplain '#') hhash) (mt (@hplain '?') hmark) h
  · rename_i hkind
    exact written_readAfterSlashes hkind.symm h

/-- **What is read is written**, if what it is relative to is; files are left out. -/
theorem written_join {text : String} (hbase : base.Written) (hfile : base.scheme ≠ "file")
    (h : base.join text = .ok u) (hu : u.scheme ≠ "file") : u.Written := by
  obtain ⟨hhash, hmark⟩ := not_mem_main (tidy text.toList)
  unfold join parseWith at h
  dsimp only at h
  split at h
  · rename_i scheme r hsplit
    obtain ⟨front, hmain⟩ := eq_append_of_splitScheme? hsplit
    have hr : r ⊆ (Parts.of (tidy text.toList)).main := by
      intro c hc
      rw [hmain]
      exact List.mem_append_right front (List.mem_cons_of_mem ':' hc)
    rcases readWithScheme_cases hfile scheme (Parts.of (tidy text.toList)) r with he | ⟨hkind, he⟩
    · rw [he] at h
      exact written_readWithScheme (mt (@hr '#') hhash) (mt (@hr '?') hmark) h hu
    · rw [he] at h
      exact written_readRelative hbase hkind.symm h
  · split at h
    · cases h
      exact written_withTail hbase rfl
    split at h
    · cases h
    split at h
    · rename_i hkind
      exact absurd (schemeKind_eq_file_iff.1 hkind) hfile
    · exact written_readRelative hbase rfl h

end Url

end WebScript
