import WebScript.Proofs.Cookies.Attributes

/-!
# The pair that a cookie claims to be sent back as

A client sends back the pair that stands before the first semicolon of the header. The pair of name
and value that the cookie gives of itself has the value as it was set: a semicolon ends it, and what
follows is read as further cookies. The two are read alike for some values only.

* `SetCookie.Faithful`: a value of which the pair shows what is kept of it, and nothing else.
* `lineValue?_requestPair`: what the pair gives, and what the text behind its semicolon adds.
* `SetCookie.faithful_of_unquoted`, `SetCookie.Faithful.unquoted_trim`: **what is read up to the
  first semicolon is what is kept exactly if the value is faithful.**
* `request_pair_agrees_iff`: **the pair is read like the header exactly for these values.**
* `request_pair_forges_cookie`: another value sets a cookie of another name.
-/

namespace WebScript

namespace Http

/-- A text up to its first semicolon, and what follows. -/
theorem exists_before_semicolon (cs : List Char) :
    ∃ first rest, cs = first ++ rest ∧ ';' ∉ first ∧ ∀ c ∈ rest.head?, c = ';' := by
  refine ⟨cs.takeWhile (· ≠ ';'), cs.dropWhile (· ≠ ';'), ?_, fun h => ?_, fun c hc => ?_⟩
  · exact List.takeWhile_append_dropWhile.symm
  · simpa using List.mem_takeWhile_imp h
  · have hstop := List.head?_dropWhile_not (fun d : Char => decide (d ≠ ';')) cs
    rw [hc] at hstop
    simpa using hstop

/-- A text splits at semicolons into what stands before the first, and pieces of the rest. -/
theorem exists_splitOn_append {first rest : List Char} (hfirst : ';' ∉ first)
    (hrest : ∀ c ∈ rest.head?, c = ';') : ∃ pieces, (first ++ rest).splitOn ';' = first :: pieces ∧
      ∀ piece ∈ pieces, ∀ c ∈ piece, c ∈ rest := by
  cases rest with
  | nil =>
    refine ⟨[], ?_, fun piece hpiece => absurd hpiece List.not_mem_nil⟩
    rw [List.append_nil, List.splitOn_eq_singleton hfirst]
  | cons c r =>
    obtain rfl : c = ';' := hrest c rfl
    refine ⟨r.splitOn ';', List.splitOn_append_cons_self_of_not_mem hfirst r, ?_⟩
    intro piece hpiece d hd
    rw [List.splitOn_eq_splitOnP] at hpiece
    exact List.mem_cons_of_mem ';' (Text.of_mem_splitOnP hpiece d hd).1

/-- A piece without an equals sign gives nothing to any name. -/
theorem pairValue?_eq_none {piece : List Char} (h : '=' ∉ piece) (name : String) :
    pairValue? name piece = none := by
  obtain ⟨before, after, htrim, -, -⟩ := Text.exists_trim piece
  have hcut : Text.cut (· = '=') (Text.trim piece) = (Text.trim piece, none) := by
    refine Text.cut_of_not_mem fun c hc => ?_
    rw [decide_eq_false_iff_not]
    rintro rfl
    rw [htrim] at h
    exact h (by simp [hc])
  rw [pairValue?, hcut]

/-- Double quotes around a text are taken away, and nothing else. -/
theorem unquoted_cases (cs : List Char) :
    cs = '"' :: (unquoted cs ++ ['"']) ∨ unquoted cs = cs := by
  unfold unquoted
  split
  · rename_i r
    split
    · rename_i hlast
      left
      obtain ⟨init, hinit⟩ := List.getLast?_eq_some_iff.1 hlast
      rw [hinit, List.dropLast_concat]
    · exact .inr rfl
  · exact .inr rfl

namespace SetCookie

/-- White space that is never kept: tabs, line breaks and spaces outside ASCII. -/
def IsMargin (cs : List Char) : Prop := ∀ c ∈ cs, Text.isBlank c = true ∧ isValueChar c = false

/-- A value of which a reader of cookies finds what is kept of it. -/
structure Faithful (value : String) where
  /-- White space in front. -/
  before : List Char
  /-- What is kept of the value. -/
  kept : List Char
  /-- What is kept, as the value has it. -/
  shown : List Char
  /-- White space behind. -/
  after : List Char
  /-- From the first semicolon on. -/
  rest : List Char
  value_eq : value.toList = before ++ shown ++ after ++ rest
  before_margin : IsMargin before
  after_margin : IsMargin after
  kept_chars : ∀ c ∈ kept, isValueChar c = true
  /-- In double quotes, or with no space at either end. -/
  shown_cases : shown = '"' :: (kept ++ ['"']) ∨
    shown = kept ∧ (∀ c ∈ kept.head?, c ≠ ' ') ∧ ∀ c ∈ kept.getLast?, c ≠ ' '
  rest_begins : ∀ c ∈ rest.head?, c = ';'
  rest_dropped : ∀ c ∈ rest, isValueChar c = false

variable {value : String} {first rest : List Char}

theorem filter_kept {kept : List Char} (h : ∀ c ∈ kept, isValueChar c = true) :
    kept.filter isValueChar = kept :=
  List.filter_eq_self.2 h

/-- Cleaning takes double quotes away. -/
theorem filter_quoted {kept : List Char} (h : ∀ c ∈ kept, isValueChar c = true) :
    ('"' :: (kept ++ ['"'])).filter isValueChar = kept := by
  have hquote : isValueChar '"' = false := by decide
  simp [hquote, filter_kept h]

/-- A value whose text before the first semicolon is read as what is kept of it all. -/
theorem faithful_of_unquoted (hvalue : value.toList = first ++ rest)
    (hrest : ∀ c ∈ rest.head?, c = ';')
    (h : unquoted (Text.trim first) = (clean value).toList) : Nonempty (Faithful value) := by
  obtain ⟨before, after, hfirst, hbefore, hafter⟩ := Text.exists_trim first
  generalize hshown : Text.trim first = shown at hfirst h
  generalize hkept : (clean value).toList = kept at h
  have hchars : ∀ c ∈ kept, isValueChar c = true := fun c hc => mem_clean (hkept ▸ hc)
  have hcases : shown = '"' :: (kept ++ ['"']) ∨ kept = shown := h ▸ unquoted_cases shown
  -- what is kept of the text that is shown is all that is kept, so the rest of the value is dropped
  have hfilter : shown.filter isValueChar = kept := by
    rcases hcases with hquoted | hplain
    · rw [hquoted, filter_quoted hchars]
    · rw [← hplain, filter_kept hchars]
  have hlength : (before.filter isValueChar).length + kept.length +
      (after.filter isValueChar).length + (rest.filter isValueChar).length = kept.length := by
    rw [← hfilter, ← List.length_append, ← List.length_append, ← List.length_append,
      ← List.filter_append, ← List.filter_append, ← List.filter_append, ← hfirst, ← hvalue, hfilter,
      ← hkept, clean, String.toList_ofList]
  have hdropped {cs : List Char} (hcs : (cs.filter isValueChar).length = 0) :
      ∀ c ∈ cs, isValueChar c = false := by
    intro c hc
    rw [List.length_eq_zero_iff, List.filter_eq_nil_iff] at hcs
    exact Bool.eq_false_iff.2 (hcs c hc)
  exact ⟨{
    before := before
    kept := kept
    shown := shown
    after := after
    rest := rest
    value_eq := by rw [hvalue, hfirst]
    before_margin := fun c hc => ⟨hbefore c hc, hdropped (by omega) c hc⟩
    after_margin := fun c hc => ⟨hafter c hc, hdropped (by omega) c hc⟩
    kept_chars := hchars
    shown_cases := by
      refine hcases.imp_right fun hplain => ⟨hplain.symm, fun c hc => ?_, fun c hc => ?_⟩
      · rintro rfl
        rw [hplain, ← hshown] at hc
        exact absurd (Text.head?_trim first _ hc) (by decide)
      · rintro rfl
        rw [hplain, ← hshown] at hc
        exact absurd (Text.getLast?_trim first _ hc) (by decide)
    rest_begins := hrest
    rest_dropped := hdropped (by omega) }⟩

namespace Faithful

variable (f : Faithful value)

/-- What is shown has no white space at its ends. -/
theorem trim_shown : Text.trim f.shown = f.shown := by
  rcases f.shown_cases with h | ⟨h, hhead, hlast⟩ <;> rw [h]
  · exact trim_quoted f.kept
  · exact trim_kept f.kept_chars hhead hlast

theorem unquoted_shown : unquoted f.shown = f.kept := by
  rcases f.shown_cases with h | ⟨h, -⟩ <;> rw [h]
  · exact unquoted_quoted f.kept
  · exact unquoted_kept f.kept_chars

theorem filter_shown : f.shown.filter isValueChar = f.kept := by
  rcases f.shown_cases with h | ⟨h, -⟩ <;> rw [h]
  · exact filter_quoted f.kept_chars
  · exact filter_kept f.kept_chars

theorem clean_value : (clean value).toList = f.kept := by
  have hnone {cs : List Char} (h : ∀ c ∈ cs, isValueChar c = false) :
      cs.filter isValueChar = [] :=
    List.filter_eq_nil_iff.2 fun c hc => Bool.eq_false_iff.1 (h c hc)
  rw [clean, String.toList_ofList, f.value_eq]
  simp only [List.filter_append]
  rw [hnone fun c hc => (f.before_margin c hc).2, hnone fun c hc => (f.after_margin c hc).2,
    hnone f.rest_dropped, f.filter_shown, List.nil_append, List.append_nil, List.append_nil]

theorem semicolon_not_mem : ';' ∉ f.before ++ f.shown ++ f.after := by
  have hmargin {cs : List Char} (h : IsMargin cs) : ';' ∉ cs :=
    fun hm => absurd (h ';' hm).1 (by decide)
  have hkept : ';' ∉ f.kept := fun hm => absurd (f.kept_chars _ hm) (by decide)
  have hshown : ';' ∉ f.shown := by
    rcases f.shown_cases with h | ⟨h, -⟩ <;> rw [h]
    · simpa using hkept
    · exact hkept
  rw [List.mem_append, List.mem_append]
  rintro ((hm | hm) | hm)
  · exact hmargin f.before_margin hm
  · exact hshown hm
  · exact hmargin f.after_margin hm

/-- **What is read up to the first semicolon is what is kept.** -/
theorem unquoted_trim : unquoted (Text.trim (f.before ++ f.shown ++ f.after)) =
    (clean value).toList := by
  rw [Text.trim_append_blank fun c hc => (f.after_margin c hc).1,
    Text.trim_blank_append fun c hc => (f.before_margin c hc).1, f.trim_shown, f.unquoted_shown,
    f.clean_value]

end Faithful

end SetCookie

open SetCookie

variable {c : SetCookie}

/-- What a pair gives to a name where any text follows it: its own value up to the first semicolon,
or what a piece of that text gives. -/
theorem lineValue?_requestPair (h : isToken c.name = true) {first rest : List Char}
    (hvalue : c.value.toList = first ++ rest) (hfirst : ';' ∉ first)
    (hrest : ∀ ch ∈ rest.head?, ch = ';') : ∃ pieces : List (List Char),
      (∀ piece ∈ pieces, ∀ ch ∈ piece, ch ∈ rest) ∧
      ∀ name, lineValue? name c.requestPair =
        if c.name = name then some (String.ofList (unquoted (Text.trim first)))
        else pieces.findSome? (pairValue? name) := by
  have hpair : c.requestPair.toList = c.name.toList ++ '=' :: first ++ rest := by
    simp [requestPair, hvalue]
  have hfront : ';' ∉ c.name.toList ++ '=' :: first := by
    rw [List.mem_append, List.mem_cons]
    rintro (hm | hm | hm)
    · exact not_mem_of_isToken h (by decide) hm
    · exact absurd hm (by decide)
    · exact hfirst hm
  obtain ⟨pieces, hsplit, hpieces⟩ := exists_splitOn_append hfront hrest
  refine ⟨pieces, hpieces, fun name => ?_⟩
  rw [lineValue?, hpair, hsplit, List.findSome?_cons, pairValue?_pair h]
  by_cases hname : c.name = name
  · rw [if_pos hname, if_pos hname]
  · rw [if_neg hname, if_neg hname]

/-- What a request gives to a name whose only cookie header is one line. -/
theorem cookie?_of_getAll {r : Request} {line : String} (hr : r.headers.getAll "Cookie" = [line])
    (name : String) :
    r.cookie? name = if isToken name then lineValue? name line else none := by
  rw [Request.cookie?, hr, findCookie?]
  simp

/-- What a request gives to a name whose only cookie header is what a client keeps. -/
theorem cookie?_of_sentPair (h : isToken c.name = true) {r : Request}
    (hr : r.headers.getAll "Cookie" = [c.sentPair]) (name : String) :
    r.cookie? name = if c.name = name then some (clean c.value) else none := by
  rw [cookie?_of_getAll hr, lineValue?, List.splitOn_eq_singleton (semicolon_not_mem_sentPair h),
    List.findSome?_singleton, pairValue?_sentPair h]
  split
  · rfl
  · rename_i htoken
    rw [if_neg]
    rintro rfl
    exact htoken h

/-- **The pair is read like the header exactly for faithful values.** -/
theorem requestPair_agrees_iff (h : isToken c.name = true) {r r' : Request}
    (hr : r.headers.getAll "Cookie" = [c.requestPair])
    (hr' : r'.headers.getAll "Cookie" = [c.sentPair]) :
    (∀ name, r.cookie? name = r'.cookie? name) ↔ Nonempty (Faithful c.value) := by
  constructor
  · intro hagree
    obtain ⟨first, rest, hvalue, hfirst, hrest⟩ := exists_before_semicolon c.value.toList
    obtain ⟨pieces, -, hline⟩ := lineValue?_requestPair h hvalue hfirst hrest
    have hown := hagree c.name
    rw [cookie?_of_getAll hr, if_pos h, hline, if_pos rfl, cookie?_of_sentPair h hr',
      if_pos rfl, Option.some.injEq] at hown
    exact faithful_of_unquoted hvalue hrest (by rw [← hown, String.toList_ofList])
  · rintro ⟨f⟩ name
    obtain ⟨pieces, hpieces, hline⟩ :=
      lineValue?_requestPair h f.value_eq f.semicolon_not_mem f.rest_begins
    -- an equals sign behind the semicolon would be kept
    have hnone : pieces.findSome? (pairValue? name) = none := by
      rw [List.findSome?_eq_none_iff]
      intro piece hpiece
      refine pairValue?_eq_none (fun hm => ?_) name
      exact absurd (f.rest_dropped '=' (hpieces piece hpiece '=' hm)) (by decide)
    rw [cookie?_of_getAll hr, hline, hnone, f.unquoted_trim, String.ofList_toList,
      cookie?_of_sentPair h hr']
    by_cases hname : c.name = name
    · rw [if_pos hname, if_pos (hname ▸ h)]
    · rw [if_neg hname, ite_self]

theorem SetCookie.settable_of_headerValue {header : String} (h : c.headerValue = .ok header) :
    c.Settable := by
  obtain ⟨hname, date, hdate, -⟩ := headerValue_eq_ok_iff.1 h
  have hrange : ¬ (c.expires < -377705116800 ∨ 253402300799 < c.expires) := by
    intro hout
    rw [httpDate?, if_pos hout] at hdate
    cases hdate
  exact ⟨hname, by omega, by omega⟩

end Http

/-- **The pair is read like the header exactly for faithful values**: those that hold what is kept
of them, in double quotes or with no space at its ends, between white space that is not kept, and
from a semicolon on nothing that is. -/
theorem request_pair_agrees_iff {c : Http.SetCookie} {header : String} {r r' : Request}
    (hheader : c.headerValue = .ok header) (hr : r.headers.getAll "Cookie" = [c.requestPair])
    (hr' : r'.headers.getAll "Cookie" = [Http.keptPair header]) :
    (∀ name, r.cookie? name = r'.cookie? name) ↔ Nonempty (Http.SetCookie.Faithful c.value) := by
  have hsettable : c.Settable := Http.SetCookie.settable_of_headerValue hheader
  have hkept : Http.keptPair header = c.sentPair := by
    have hpair := Http.SetCookie.keptPair_headerValue hsettable
    rw [hheader] at hpair
    exact Except.ok.inj hpair
  rw [hkept] at hr'
  exact Http.requestPair_agrees_iff hsettable.name hr hr'

/-- A tab in front, double quotes, and a tail of which nothing is kept make no difference. -/
theorem request_pair_agrees_of_quoted :
    let c := Http.SetCookie.scripted "n" "\t\"x, y\";é;" 0 false
    let header := "n=\"x, y\"; Path=/; Expires=Thu, 01 Jan 1970 00:00:00 GMT; HttpOnly"
    let r : Request := { Request.new "1" "GET" "/" with
      headers := Headers.empty.add "Cookie" c.requestPair }
    let r' : Request := { Request.new "2" "GET" "/" with
      headers := Headers.empty.add "Cookie" (Http.keptPair header) }
    c.headerValue = .ok header ∧ r.headers.getAll "Cookie" = [c.requestPair] ∧
      r'.headers.getAll "Cookie" = [Http.keptPair header] ∧
      ∀ name, r.cookie? name = r'.cookie? name := by
  intro c header r r'
  have hheader : c.headerValue = .ok header := by decide +kernel
  have hr : r.headers.getAll "Cookie" = [c.requestPair] := by decide +kernel
  have hr' : r'.headers.getAll "Cookie" = [Http.keptPair header] := by decide +kernel
  refine ⟨hheader, hr, hr', (request_pair_agrees_iff hheader hr hr').2 ⟨{
    before := ['\t']
    kept := ['x', ',', ' ', 'y']
    shown := ['"', 'x', ',', ' ', 'y', '"']
    after := []
    rest := [';', 'é', ';']
    value_eq := by decide
    before_margin := List.forall_mem_singleton.2 (by decide)
    after_margin := nofun
    kept_chars := List.all_eq_true.1 (by decide)
    shown_cases := .inl rfl
    rest_begins := fun c hc => (Option.some.inj hc).symm
    rest_dropped := List.forall_mem_cons.2 ⟨by decide, List.forall_mem_cons.2
      ⟨by decide, List.forall_mem_singleton.2 (by decide)⟩⟩ }⟩⟩

/-- A value with a semicolon sets a cookie of another name in the pair, where the header has one
cookie. -/
theorem request_pair_forges_cookie :
    let c := Http.SetCookie.scripted "n" "x; admin=1" 0 false
    let header := "n=\"x admin=1\"; Path=/; Expires=Thu, 01 Jan 1970 00:00:00 GMT; HttpOnly"
    let r : Request := { Request.new "1" "GET" "/" with
      headers := Headers.empty.add "Cookie" c.requestPair }
    let r' : Request := { Request.new "2" "GET" "/" with
      headers := Headers.empty.add "Cookie" (Http.keptPair header) }
    c.headerValue = .ok header ∧ r.headers.getAll "Cookie" = [c.requestPair] ∧
      r'.headers.getAll "Cookie" = [Http.keptPair header] ∧
      (r.cookie? "n" = some "x" ∧ r'.cookie? "n" = some "x admin=1") ∧
      (r.cookie? "admin" = some "1" ∧ r'.cookie? "admin" = none) := by
  decide +kernel

end WebScript
