import WebScript.Proofs.Url.Written

/-!
# Path and query, read relative to another URL

A reference that is made of the path and the query of a URL leads back to that URL, unless the path
is taken for something else: with two slashes in front it is a host, without a segment it is
nothing, and without structure it may be anything.

* `Url.join_pathAndQuery`: such a reference is read as a path.
* `Url.LedBack`: the URLs that their path and query lead to.
* `Url.join_pathAndQuery_iff`: **they are the only ones**.
-/

namespace WebScript

open UrlPath (isAnySlash textOf IsSegment)

/-- How many slashes of either kind a path begins with. -/
def UrlPath.leadingSlashes (path : UrlPath) : Nat :=
  (path.serialize.toList.takeWhile isAnySlash).length

namespace Url

variable {base u v : Url} {names : List String} {n : String} {text : String} {c : Char}
  {cs r : List Char}

/-- A URL without its fragment. -/
def withoutFragment (u : Url) : Url := { u with fragment := none }

/-- Two URLs differ in nothing but the fragment. -/
theorem map_withoutFragment_eq_ok_iff {read : Except UrlFault Url} :
    read.map withoutFragment = .ok u.withoutFragment ↔
      ∃ v, read = .ok v ∧ v.scheme = u.scheme ∧ v.authority = u.authority ∧ v.path = u.path ∧
        v.query = u.query := by
  cases read with
  | error fault => exact iff_of_false nofun fun ⟨_, h, _⟩ => nomatch h
  | ok v =>
    obtain ⟨scheme, authority, path, query, fragment⟩ := u
    obtain ⟨scheme', authority', path', query', fragment'⟩ := v
    simp [Except.map, withoutFragment]

/-! ## The characters of path and query -/

theorem lt_of_isPrintable (h : isPrintable c = true) (hc : c ≠ ' ') : 0x20 < c.toNat := by
  have hspace : c.toNat ≠ 0x20 := fun h => hc (Char.toNat_inj.1 h)
  simp only [isPrintable, Bool.and_eq_true, decide_eq_true_eq] at h
  omega

/-- Neither controls and spaces nor the marks of query and fragment are shown in a path. -/
theorem of_isPathChar (h : isPathChar c = true) : 0x20 < c.toNat ∧ c ≠ '#' ∧ c ≠ '?' := by
  have hall : isPrintable c = true ∧ c ≠ ' ' ∧ c ≠ '#' ∧ c ≠ '?' := by
    simp_all [isPathChar, isFragmentChar]
  exact ⟨lt_of_isPrintable hall.1 hall.2.1, hall.2.2⟩

theorem of_queryChar {kind : SchemeKind} (h : queryChar kind c = true) :
    0x20 < c.toNat ∧ c ≠ '#' := by
  have hquery : isQueryChar c = true := by
    unfold queryChar at h
    split at h
    · exact h
    · exact (Bool.and_eq_true _ _ ▸ h).1
  have hall : isPrintable c = true ∧ c ≠ ' ' ∧ c ≠ '#' := by
    simp_all [isQueryChar]
  exact ⟨lt_of_isPrintable hall.1 hall.2.1, hall.2.2⟩

/-- The characters of a path are slashes and those it shows. -/
theorem isShown_textOf {isSlash : Char → Bool} (h : ∀ n ∈ names, IsSegment isSlash n.toList) :
    IsShown isPathChar (textOf names) := by
  intro c hc
  rcases UrlPath.mem_textOf hc with rfl | ⟨n, hn, hc⟩
  · decide
  · exact (h n hn).shown c hc

theorem dropBreaks_eq_self (h : ∀ c ∈ cs, 0x20 < c.toNat) : UrlPath.dropBreaks cs = cs := by
  refine List.filter_eq_self.2 fun c hc => ?_
  have hlt := h c hc
  have hne : ∀ d : Char, d.toNat ≤ 0x20 → c ≠ d := by
    rintro d hd rfl
    omega
  simp [UrlPath.isBreak, hne '\t' (by decide), hne '\n' (by decide), hne '\r' (by decide)]

theorem exists_dropWhile_append {p : Char → Bool} (cs : List Char) (h : ∀ c ∈ r, p c = false) :
    ∃ front, front.Sublist cs ∧ (cs ++ r).dropWhile p = front ++ r := by
  refine ⟨cs.dropWhile p, List.dropWhile_sublist p, ?_⟩
  rw [List.dropWhile_append]
  split
  · rename_i hnil
    rw [List.isEmpty_iff.1 hnil, List.nil_append]
    cases r with
    | nil => rfl
    | cons c r => rw [List.dropWhile_cons_of_neg (by rw [h c List.mem_cons_self]; nofun)]
  · rfl

/-- Only the front is tidied if the rest has neither controls nor spaces. -/
theorem exists_tidy_append (cs : List Char) (h : ∀ c ∈ r, 0x20 < c.toNat) :
    ∃ cs', cs'.Sublist cs ∧ tidy (cs ++ r) = cs' ++ r := by
  have hstay : ∀ c ∈ r, decide (c.toNat ≤ 0x20) = false :=
    fun c hc => decide_eq_false (Nat.not_le.2 (h c hc))
  obtain ⟨front, hfront, he⟩ := exists_dropWhile_append cs hstay
  unfold tidy
  dsimp only
  rw [he]
  -- nothing is dropped at the end unless the rest is empty
  rcases List.eq_nil_or_concat r with rfl | ⟨init, c, hr⟩
  · rw [List.append_nil]
    refine ⟨_, List.Sublist.trans ?_ hfront, (List.append_nil _).symm⟩
    rw [← List.reverse_sublist, List.reverse_reverse]
    exact List.dropWhile_sublist _
  · rw [List.concat_eq_append] at hr
    subst hr
    have hc := hstay c (List.mem_append_right init List.mem_cons_self)
    rw [← List.append_assoc, List.reverse_append, List.reverse_singleton, List.singleton_append,
      List.dropWhile_cons_of_neg (by rw [hc]; nofun), List.reverse_cons, List.reverse_reverse]
    exact ⟨front, hfront, List.append_assoc ..⟩

/-! ## Setting the parts apart -/

theorem toList_marked (q : String) : (marked "?" (some q)).toList = '?' :: q.toList :=
  String.toList_append

/-- A query without a hash is set apart from a text that has neither mark. -/
theorem parts_append_marked {main : List Char} {query : Option String} (hhash : '#' ∉ main)
    (hmark : '?' ∉ main) (hquery : ∀ q ∈ query, ∀ c ∈ q.toList, 0x20 < c.toNat ∧ c ≠ '#') :
    Parts.of (main ++ (marked "?" query).toList) = ⟨main, query.map String.toList, none⟩ := by
  have hmain : ∀ c ∈ main, decide (c = '#') = false ∧ decide (c = '?') = false := by
    intro c hc
    constructor <;> refine decide_eq_false ?_ <;> rintro rfl
    · exact hhash hc
    · exact hmark hc
  unfold Parts.of
  cases query with
  | none =>
    have hnil : (marked "?" none).toList = [] := rfl
    rw [hnil, List.append_nil, Text.cut_of_not_mem fun c hc => (hmain c hc).1]
    dsimp only
    rw [Text.cut_of_not_mem fun c hc => (hmain c hc).2]
    rfl
  | some q =>
    have hq : ∀ c ∈ q.toList, 0x20 < c.toNat ∧ c ≠ '#' := hquery q rfl
    have hfront : ∀ c ∈ main ++ '?' :: q.toList, decide (c = '#') = false := by
      intro c hc
      rcases List.mem_append.1 hc with hc | hc
      · exact (hmain c hc).1
      rcases List.mem_cons.1 hc with rfl | hc
      · decide
      · exact decide_eq_false (hq c hc).2
    rw [toList_marked, Text.cut_of_not_mem hfront]
    dsimp only
    rw [Text.cut_append_cons (fun c hc => (hmain c hc).2) (by decide), Option.map_some,
      dropBreaks_eq_self fun c hc => (hq c hc).1]
    rfl

/-- **The parts of path and query**: the query, and a text that is the path unless it has no
structure. -/
theorem exists_parts (hu : u.Written) :
    ∃ main, main.Sublist u.path.serialize.toList ∧
      (∀ names, u.path = .segments names → main = textOf names) ∧
      Parts.of (tidy u.pathAndQuery.toList) = ⟨main, u.query.map String.toList, none⟩ := by
  have hquery : ∀ q ∈ u.query, ∀ c ∈ q.toList, 0x20 < c.toNat ∧ c ≠ '#' :=
    fun q hq c hc => of_queryChar (hu.query q hq c hc).2
  have hmarked : ∀ c ∈ (marked "?" u.query).toList, 0x20 < c.toNat := by
    cases hq : u.query with
    | none => exact fun _ h => absurd h List.not_mem_nil
    | some q =>
      rw [toList_marked]
      intro c hc
      rcases List.mem_cons.1 hc with rfl | hc
      · decide
      · exact (hquery q hq c hc).1
  have hwritten := hu.path
  unfold pathAndQuery
  rw [String.toList_append]
  cases hp : u.path with
  | segments names =>
    rw [hp] at hwritten
    have hshown : IsShown isPathChar (textOf names) := isShown_textOf hwritten
    have hchars : ∀ c ∈ textOf names, 0x20 < c.toNat ∧ c ≠ '#' ∧ c ≠ '?' :=
      fun c hc => of_isPathChar (hshown c hc).2
    rw [UrlPath.toList_serialize_segments]
    have hall : ∀ c ∈ textOf names ++ (marked "?" u.query).toList, 0x20 < c.toNat := by
      intro c hc
      rcases List.mem_append.1 hc with hc | hc
      · exact (hchars c hc).1
      · exact hmarked c hc
    obtain ⟨cs', hcs', he⟩ := exists_tidy_append [] hall
    rw [List.sublist_nil.1 hcs', List.nil_append] at he
    refine ⟨textOf names, List.Sublist.refl _, fun ns hns => by cases hns; rfl, ?_⟩
    rw [he]
    exact parts_append_marked (fun hc => (hchars _ hc).2.1 rfl) (fun hc => (hchars _ hc).2.2 rfl)
      hquery
  | unstructured text =>
    rw [hp] at hwritten
    obtain ⟨-, -, hhash, hmark⟩ := hwritten
    obtain ⟨main, hmain, he⟩ := exists_tidy_append text.toList hmarked
    refine ⟨main, hmain, nofun, ?_⟩
    have htext : (UrlPath.unstructured text).serialize = text := rfl
    rw [htext, he]
    exact parts_append_marked (fun hc => hhash (hmain.subset hc))
      (fun hc => hmark (hmain.subset hc)) hquery

/-- A text with a slash in front has no scheme, and neither has an empty one. -/
theorem splitScheme?_textOf (names : List String) : splitScheme? (textOf names) = none := by
  cases names with
  | nil => rfl
  | cons n ns =>
    rw [UrlPath.textOf_cons]
    unfold splitScheme?
    split
    · rename_i front s hcut
      have hfront : front = List.takeWhile (fun c => ! decide (c = ':'))
          ('/' :: (n.toList ++ textOf ns)) := by
        rw [← Text.fst_cut, hcut]
      rw [List.takeWhile_cons_of_pos (by decide)] at hfront
      rw [hfront]
      rfl
    · rfl

theorem writeQuery_of_written (hu : u.Written) :
    writeQuery (schemeKind u.scheme) (u.query.map String.toList) = u.query := by
  cases hq : u.query with
  | none => rfl
  | some q =>
    have hshown := hu.query q hq
    rw [writeQuery_eq, Option.map_some, Option.map_some, percentEncode_eq_self hshown,
      String.ofList_toList]

/-- **Path and query are read as a path**, if there are segments. -/
theorem join_pathAndQuery (hu : u.Written) (hp : u.path = .segments names)
    (hbase : base.isUnstructured = false) (hfile : base.scheme ≠ "file") :
    base.join u.pathAndQuery = readRelative base (schemeKind base.scheme)
      ⟨textOf names, u.query.map String.toList, none⟩ (textOf names) := by
  obtain ⟨main, -, hmain, hparts⟩ := exists_parts hu
  rw [hmain names hp] at hparts
  have hwritten := hu.path
  rw [hp] at hwritten
  have hplain : UrlPath.dropBreaks (textOf names) = textOf names :=
    dropBreaks_eq_self fun c hc => (of_isPathChar (isShown_textOf hwritten c hc).2).1
  unfold join parseWith
  dsimp only
  rw [hparts]
  dsimp only
  rw [splitScheme?_textOf]
  dsimp only
  rw [hplain, if_neg (by simp), if_neg (by simp [hbase]),
    if_neg (mt schemeKind_eq_file_iff.1 hfile)]

/-! ## What the reference leads to -/

/-- A path begins with a slash, and with two if one follows it. -/
theorem two_le_leadingSlashes_iff (htext : textOf names = '/' :: r) :
    2 ≤ (UrlPath.segments names).leadingSlashes ↔ r.head?.any isAnySlash = true := by
  rw [UrlPath.leadingSlashes, UrlPath.toList_serialize_segments, htext,
    List.takeWhile_cons_of_pos (by decide), List.length_cons]
  cases r with
  | nil => exact iff_of_false (by decide) (by decide)
  | cons d s =>
    rw [List.takeWhile_cons]
    cases hd : isAnySlash d with
    | true => simp [hd]
    | false => simp [hd]

/-- The path behind an authority is longer than what it is read from by a slash at most. -/
theorem length_readAbsolutePath_le (kind : SchemeKind) (h : IsShown isPathChar cs) :
    (readAbsolutePath kind cs).serialize.toList.length ≤ cs.length + 1 := by
  unfold readAbsolutePath
  split
  · exact Nat.zero_le _
  · rename_i c r
    rw [UrlPath.toList_serialize_segments]
    split
    · have hr : (textOf (UrlPath.resolve (isSlash kind) [] r)).length ≤ r.length + 1 :=
        UrlPath.length_textOf_resolve_le (h.of_subset (List.subset_cons_self c r))
      rw [List.length_cons]
      omega
    · exact UrlPath.length_textOf_resolve_le h
  · exact Nat.le_refl 1

/-- **Behind two slashes the path is taken for a host**, and what is read has another path. -/
theorem path_ne_of_slashes {ns : List String} (hu : u.Written) (hp : u.path = .segments (n :: ns))
    (hbase : base.isUnstructured = false) (hfile : base.scheme ≠ "file")
    (hslash : 2 ≤ u.path.leadingSlashes)
    (h : base.join u.pathAndQuery = .ok v) : v.path ≠ u.path := by
  have hwritten := hu.path
  rw [hp] at hwritten
  have hshown : IsShown isPathChar (textOf (n :: ns)) := isShown_textOf hwritten
  obtain ⟨r, htext⟩ : ∃ r, textOf (n :: ns) = '/' :: r := ⟨_, UrlPath.textOf_cons n ns⟩
  rw [hp, two_le_leadingSlashes_iff htext] at hslash
  rw [join_pathAndQuery hu hp hbase hfile, htext, readRelative, if_pos (by decide),
    if_pos hslash] at h
  cases r with
  | nil => cases hslash
  | cons d s =>
    have hd : isAnySlash d = true := hslash
    -- the path that is left behind the host lacks both slashes, so it is shorter
    obtain ⟨a, t, ht, rfl⟩ := exists_of_readAfterSlashes h
    have hrest : t.Sublist s := by
      refine ht.trans ?_
      split
      · exact List.Sublist.refl _
      · rw [List.dropWhile_cons_of_pos (by decide), List.dropWhile_cons_of_pos hd]
        exact List.dropWhile_sublist _
    have hlen : (readAbsolutePath (schemeKind base.scheme) t).serialize.toList.length ≤
        t.length + 1 := by
      rw [htext] at hshown
      exact length_readAbsolutePath_le _ (hshown.of_subset fun c hc =>
        List.mem_cons_of_mem _ (List.mem_cons_of_mem d (hrest.subset hc)))
    intro (heq : readAbsolutePath (schemeKind base.scheme) t = u.path)
    have hle : t.length ≤ s.length := hrest.length_le
    rw [heq, hp, UrlPath.toList_serialize_segments, htext, List.length_cons,
      List.length_cons] at hlen
    omega

section

variable (hu : u.Written) (hscheme : u.scheme = base.scheme)
  (hbase : base.isUnstructured = false) (hfile : base.scheme ≠ "file")

include hu hscheme hbase hfile

/-- Without a segment there is nothing but the query, and the path is that of the base. -/
theorem join_of_no_segment (hp : u.path = .segments []) :
    base.join u.pathAndQuery = .ok
      { base with
        query := if u.query.isSome then u.query else base.query
        fragment := none } := by
  have hquery := writeQuery_of_written hu
  rw [hscheme] at hquery
  rw [join_pathAndQuery hu hp hbase hfile]
  change Except.ok (withTail ..) = _
  rw [withTail, hquery, Option.isSome_map]
  rfl

/-- **Behind a single slash the path is read back.** -/
theorem join_of_segments {ns : List String} (hp : u.path = .segments (n :: ns))
    (hslash : ¬ 2 ≤ u.path.leadingSlashes) :
    base.join u.pathAndQuery = .ok { u with authority := base.authority, fragment := none } := by
  have hquery := writeQuery_of_written hu
  have hwritten := hu.path
  rw [hp] at hwritten
  rw [hscheme] at hquery hwritten
  rw [hp, two_le_leadingSlashes_iff (UrlPath.textOf_cons n ns)] at hslash
  rw [join_pathAndQuery hu hp hbase hfile, UrlPath.textOf_cons, readRelative,
    if_pos (by decide), if_neg hslash, UrlPath.resolve_textOf (isSlash_slash _) hwritten,
    withParts, hquery, ← hscheme, ← hp]
  rfl

end

/-! ## Paths without structure -/

theorem readAbsolutePath_ne_unstructured (kind : SchemeKind) (cs : List Char) (text : String) :
    readAbsolutePath kind cs ≠ .unstructured text := by
  unfold readAbsolutePath
  split <;> nofun

/-- A path without structure is no longer than what it is read from. -/
theorem length_le_of_readOther {scheme : String} {p : Parts} (hcs : IsShown isPrintable cs)
    (h : readOther scheme p cs = .ok v) (hv : v.path = .unstructured text) :
    text.toList.length ≤ cs.length := by
  unfold readOther at h
  split at h
  · obtain ⟨a, t, -, rfl⟩ := exists_of_readAfterSlashes h
    exact absurd hv (readAbsolutePath_ne_unstructured .other t text)
  · cases h
    cases hv
  · cases h
    cases hv
    rw [String.toList_ofList, percentEncode_eq_self hcs]

/-- Behind a scheme stands a URL of another scheme, or with another path. -/
theorem ne_of_readWithScheme {scheme : String} {p : Parts} (hkind : schemeKind u.scheme = .other)
    (hp : u.path = .unstructured text) (hcs : IsShown isPrintable cs)
    (hlen : cs.length < text.toList.length) (h : readWithScheme none scheme p cs = .ok v) :
    v.scheme ≠ u.scheme ∨ v.path ≠ u.path := by
  have hplain : (UrlPath.dropBreaks cs).Sublist cs := List.filter_sublist
  unfold readWithScheme at h
  dsimp only at h
  split at h
  · left
    rw [scheme_readFile h]
    intro hfile
    rw [schemeKind_eq_file_iff.2 hfile.symm] at hkind
    cases hkind
  · right
    intro heq
    have hle : text.toList.length ≤ (UrlPath.dropBreaks cs).length :=
      length_le_of_readOther (hcs.of_subset hplain.subset) h (heq.trans hp)
    have hplain := hplain.length_le
    omega
  · right
    obtain ⟨a, t, -, rfl⟩ := exists_of_readAfterSlashes h
    rw [hp]
    exact readAbsolutePath_ne_unstructured .special t text

/-- **Without structure, path and query never lead back**: a scheme is found in them, or none, and
then they are nothing. -/
theorem ne_of_unstructured (hu : u.Written) (hscheme : u.scheme = base.scheme)
    (hp : u.path = .unstructured text) (hbase : base.isUnstructured = true)
    (h : base.join u.pathAndQuery = .ok v) : v.scheme ≠ u.scheme ∨ v.path ≠ u.path := by
  obtain ⟨main, hmain, -, hparts⟩ := exists_parts hu
  have hwritten := hu.path
  rw [hp] at hwritten hmain
  obtain ⟨hkind, hshown, -, -⟩ := hwritten
  have hfile : base.scheme ≠ "file" := by
    rw [← hscheme, Ne, ← schemeKind_eq_file_iff, hkind]
    decide
  unfold join parseWith at h
  dsimp only at h
  rw [hparts] at h
  dsimp only at h
  split at h
  · rename_i scheme r hsplit
    -- the scheme takes its share of the path, and what is left is too short
    obtain ⟨front, hfront⟩ := eq_append_of_splitScheme? hsplit
    have hr : r.Sublist main := by
      rw [hfront]
      exact (List.sublist_cons_self ':' r).trans (List.sublist_append_right front _)
    have hlen : r.length < text.toList.length := by
      have hle : main.length ≤ text.toList.length := hmain.length_le
      rw [hfront, List.length_append, List.length_cons] at hle
      omega
    rcases readWithScheme_cases hfile scheme _ r with he | ⟨hspecial, -⟩
    · rw [he] at h
      exact ne_of_readWithScheme hkind hp (hshown.of_subset (hr.trans hmain).subset) hlen h
    · rw [← hscheme, hkind] at hspecial
      cases hspecial
  · rw [if_neg (by simp), if_pos hbase] at h
    cases h

/-! ## Leading back -/

/-- **A URL that its path and query lead back to**: with the authority of the base and a path that
is not taken for a host. A path without segments, and then a missing query, is that of the base. -/
structure LedBack (base u : Url) : Prop where
  structured : u.isUnstructured = false
  authority : u.authority = base.authority
  slashes : u.path.leadingSlashes < 2
  path : u.path = .segments [] → base.path = .segments []
  query : u.path = .segments [] → u.query = none → base.query = none

theorem ledBack_iff_of_no_segment (hp : u.path = .segments []) :
    base.LedBack u ↔
      u.authority = base.authority ∧ base.path = .segments [] ∧
        (u.query = none → base.query = none) := by
  constructor
  · exact fun h => ⟨h.authority, h.path hp, h.query hp⟩
  · rintro ⟨hauthority, hpath, hquery⟩
    exact ⟨by rw [isUnstructured, hp], hauthority, by rw [hp]; decide, fun _ => hpath,
      fun _ => hquery⟩

theorem ledBack_iff_of_segments {ns : List String} (hp : u.path = .segments (n :: ns)) :
    base.LedBack u ↔
      u.authority = base.authority ∧ ¬ 2 ≤ u.path.leadingSlashes := by
  have hsegments : u.path ≠ .segments [] := by
    rw [hp]
    nofun
  constructor
  · exact fun h => ⟨h.authority, Nat.not_le.2 h.slashes⟩
  · rintro ⟨hauthority, hslashes⟩
    exact ⟨by rw [isUnstructured, hp], hauthority, Nat.not_le.1 hslashes,
      fun h => absurd h hsegments, fun h => absurd h hsegments⟩

/-- **Path and query lead back to a URL exactly if** it is one of these. -/
theorem join_pathAndQuery_iff (hu : u.Written) (hscheme : u.scheme = base.scheme)
    (hstructure : u.isUnstructured = base.isUnstructured) (hfile : base.scheme ≠ "file") :
    (base.join u.pathAndQuery).map withoutFragment = .ok u.withoutFragment ↔ base.LedBack u := by
  rw [map_withoutFragment_eq_ok_iff]
  cases hp : u.path with
  | unstructured text =>
    have hu' : u.isUnstructured = true := by rw [isUnstructured, hp]
    refine iff_of_false ?_ fun h => ?_
    · rintro ⟨v, hv, hsame, -, hpath, -⟩
      rcases ne_of_unstructured hu hscheme hp (hstructure ▸ hu') hv with hne | hne
      · exact hne hsame
      · exact hne (hpath.trans hp.symm)
    · rw [h.structured] at hu'
      cases hu'
  | segments names =>
    have hu' : u.isUnstructured = false := by rw [isUnstructured, hp]
    have hbase : base.isUnstructured = false := hstructure ▸ hu'
    cases names with
    | nil =>
      rw [join_of_no_segment hu hscheme hbase hfile hp, ledBack_iff_of_no_segment hp]
      constructor
      · rintro ⟨v, hv, -, hauthority, hpath, hquery⟩
        cases hv
        refine ⟨hauthority.symm, hpath, fun hnone => ?_⟩
        dsimp only at hquery
        rwa [hnone] at hquery
      · rintro ⟨hauthority, hpath, hquery⟩
        refine ⟨_, rfl, hscheme.symm, hauthority.symm, hpath, ?_⟩
        cases hq : u.query with
        | none => exact hquery hq
        | some q => rfl
    | cons n ns =>
      rw [ledBack_iff_of_segments hp]
      by_cases hslash : 2 ≤ u.path.leadingSlashes
      · refine iff_of_false ?_ fun h => h.2 hslash
        rintro ⟨v, hv, -, -, hpath, -⟩
        exact path_ne_of_slashes hu hp hbase hfile hslash hv (hpath.trans hp.symm)
      · rw [join_of_segments hu hscheme hbase hfile hp hslash]
        constructor
        · rintro ⟨v, hv, -, hauthority, -⟩
          cases hv
          exact ⟨hauthority.symm, hslash⟩
        · rintro ⟨hauthority, -⟩
          exact ⟨_, rfl, rfl, hauthority.symm, hp, rfl⟩

end Url

end WebScript
