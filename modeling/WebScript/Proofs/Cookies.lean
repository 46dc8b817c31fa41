import WebScript.Proofs.Results
import WebScript.Proofs.Token
import WebScript.Request

/-!
# Cookies that come back

* `SetCookie.Settable`: the cookies that may be set; `keptPair`, `cookieLine`: what a client keeps
  of them and sends back.
* `SetCookie.keptPair_headerValue`: **a client keeps name and value**, as they were sent.
* `pairValue?_pair`: **what one pair gives to a name.**
* `cookie_round_trip`: **a cookie that was set is found again**, without the characters that may
  not stand in one.
-/

namespace WebScript

/-! ## Searches -/

section

variable {α β : Type}

theorem findSome?_flatten (f : α → Option β) (ls : List (List α)) :
    ls.flatten.findSome? f = ls.findSome? (·.findSome? f) := by
  induction ls with
  | nil => rfl
  | cons l ls ih =>
    rw [List.flatten_cons, List.findSome?_append, ih, List.findSome?_cons]
    cases l.findSome? f <;> rfl

theorem findSome?_congr {l : List α} {f g : α → Option β} (h : ∀ a ∈ l, f a = g a) :
    l.findSome? f = l.findSome? g := by
  induction l with
  | nil => rfl
  | cons a l ih =>
    rw [List.findSome?_cons, List.findSome?_cons, h a List.mem_cons_self,
      ih fun b hb => h b (List.mem_cons_of_mem a hb)]

theorem findSome?_ite (p : α → Prop) [DecidablePred p] (f : α → β) (l : List α) :
    (l.findSome? fun a => if p a then some (f a) else none) = (l.find? (p ·)).map f := by
  induction l with
  | nil => rfl
  | cons a l ih =>
    by_cases ha : p a
    · simp [ha]
    · simp [ha, ih]

end

namespace Http

/-! ## Values -/

namespace SetCookie

variable {value : String}

theorem mem_clean {c : Char} (h : c ∈ (clean value).toList) : isValueChar c = true := by
  rw [clean, String.toList_ofList] at h
  exact (List.mem_filter.1 h).2

/-- A character of a value that is no space is no white space. -/
theorem isBlank_of_isValueChar {c : Char} (h : isValueChar c = true) (hne : c ≠ ' ') :
    Text.isBlank c = false := by
  simp only [isValueChar, Bool.and_eq_true, decide_eq_true_eq] at h
  have hspace : c.toNat ≠ 0x20 := fun he => hne (Char.toNat_inj.1 he)
  exact isBlank_eq_false (by omega) (by omega)

/-- A clean value with neither space nor comma is sent as it is, any other in quotes. -/
theorem sent_cases (value : String) :
    ((sent value).toList = '"' :: ((clean value).toList ++ ['"'])) ∨
    ((sent value).toList = (clean value).toList ∧ ' ' ∉ (clean value).toList) := by
  unfold sent
  dsimp only
  split
  · left
    simp
  · rename_i hc
    right
    rw [Bool.or_eq_true, not_or] at hc
    exact ⟨rfl, by simpa using hc.1⟩

theorem semicolon_not_mem_sent (value : String) : ';' ∉ (sent value).toList := by
  have hclean : ';' ∉ (clean value).toList := fun hm => absurd (mem_clean hm) (by decide)
  rcases sent_cases value with h | ⟨h, -⟩ <;> rw [h]
  · simpa using hclean
  · exact hclean

/-! ### Text in double quotes, and text that is kept -/

theorem trim_quoted (cs : List Char) : Text.trim ('"' :: (cs ++ ['"'])) = '"' :: (cs ++ ['"']) := by
  refine Text.trim_eq_self (fun c hc => ?_) fun c hc => ?_
  · cases hc
    decide
  · rw [← List.cons_append, List.getLast?_concat] at hc
    cases hc
    decide

theorem unquoted_quoted (cs : List Char) : unquoted ('"' :: (cs ++ ['"'])) = cs := by
  rw [unquoted, List.getLast?_concat, if_pos rfl, List.dropLast_concat]

variable {kept : List Char}

theorem trim_kept (h : ∀ c ∈ kept, isValueChar c = true) (hhead : ∀ c ∈ kept.head?, c ≠ ' ')
    (hlast : ∀ c ∈ kept.getLast?, c ≠ ' ') : Text.trim kept = kept := by
  refine Text.trim_eq_self (fun c hc => ?_) fun c hc => ?_
  · exact isBlank_of_isValueChar (h c (List.mem_of_mem_head? hc)) (hhead c hc)
  · exact isBlank_of_isValueChar (h c (List.mem_of_mem_getLast? hc)) (hlast c hc)

theorem unquoted_kept (h : ∀ c ∈ kept, isValueChar c = true) : unquoted kept = kept := by
  have hquote : '"' ∉ kept := fun hm => absurd (h _ hm) (by decide)
  unfold unquoted
  split
  · exact absurd List.mem_cons_self hquote
  · rfl

/-- What is sent of a value neither begins nor ends with white space. -/
theorem trim_sent (value : String) : Text.trim (sent value).toList = (sent value).toList := by
  rcases sent_cases value with h | ⟨h, hspace⟩ <;> rw [h]
  · exact trim_quoted _
  · refine trim_kept (fun c hc => mem_clean hc) (fun c hc => ?_) fun c hc => ?_
    · rintro rfl
      exact hspace (List.mem_of_mem_head? hc)
    · rintro rfl
      exact hspace (List.mem_of_mem_getLast? hc)

theorem unquoted_sent (value : String) : unquoted (sent value).toList = (clean value).toList := by
  rcases sent_cases value with h | ⟨h, -⟩ <;> rw [h]
  · exact unquoted_quoted _
  · exact unquoted_kept fun c hc => mem_clean hc

/-! ## Pairs -/

/-- A cookie that may be set: its name is a token, and its expiry lies in the years -9999 to
9999. -/
structure Settable (c : SetCookie) : Prop where
  name : isToken c.name = true
  notBefore : -377705116800 ≤ c.expires
  notAfter : c.expires ≤ 253402300799

/-- Name and value of a cookie, as they are sent. -/
def sentPair (c : SetCookie) : String := c.name ++ "=" ++ sent c.value

end SetCookie

/-- What a client keeps of a header that sets a cookie: the pair before the first semicolon. -/
def keptPair (header : String) : String := String.ofList (Text.cut (· = ';') header.toList).1

/-- Pairs as a client sends them back in one header. -/
def cookieLine (pairs : List String) : String := "; ".intercalate pairs

namespace SetCookie

variable {c : SetCookie}

theorem Settable.exists_date (h : c.Settable) : ∃ date, httpDate? c.expires = some date := by
  have hrange : ¬ (c.expires < -377705116800 ∨ 253402300799 < c.expires) := by
    have hlow := h.notBefore
    have hhigh := h.notAfter
    omega
  rw [httpDate?, if_neg hrange]
  exact ⟨_, rfl⟩

theorem semicolon_not_mem_sentPair (h : isToken c.name = true) : ';' ∉ c.sentPair.toList := by
  rw [sentPair, String.toList_append, String.toList_append, List.mem_append, List.mem_append]
  rintro ((hm | hm) | hm)
  · exact not_mem_of_isToken h (by decide) hm
  · exact absurd hm (by decide)
  · exact semicolon_not_mem_sent c.value hm

/-- **A client keeps name and value**, as they were sent. -/
theorem keptPair_headerValue (h : c.Settable) : keptPair <$> c.headerValue = .ok c.sentPair := by
  obtain ⟨date, hdate⟩ := h.exists_date
  obtain ⟨rest, hrest⟩ : ∃ rest, c.headerValue = .ok (c.sentPair ++ ";" ++ rest) := by
    refine ⟨" Path=" ++ c.path ++ "; Expires=" ++ date ++
      (if c.httpOnly then "; HttpOnly" else "") ++ if c.secure then "; Secure" else "", ?_⟩
    rw [headerValue, h.name, hdate]
    have hsplit : "; Path=" = ";" ++ " Path=" := by decide
    rw [hsplit, sentPair]
    simp only [String.append_assoc]
    rfl
  have hpair : ∀ d ∈ c.sentPair.toList, decide (d = ';') = false := by
    intro d hd
    rw [decide_eq_false_iff_not]
    rintro rfl
    exact semicolon_not_mem_sentPair h.name hd
  have hcut : Text.cut (· = ';') (c.sentPair ++ ";" ++ rest).toList =
      (c.sentPair.toList, some rest.toList) := by
    rw [String.toList_append, String.toList_append, List.append_assoc]
    exact Text.cut_append_cons hpair (decide_eq_true rfl)
  rw [hrest]
  change Except.ok (keptPair _) = _
  rw [keptPair, hcut, String.ofList_toList]

end SetCookie

open SetCookie

variable {c : SetCookie}

/-- **What one pair gives to a name**: its value, if the name is its own, without white space
around it and then without the double quotes. -/
theorem pairValue?_pair {s : String} (h : isToken s = true) (name : String) (v : List Char) :
    pairValue? name (s.toList ++ '=' :: v) =
      if s = name then some (String.ofList (unquoted (Text.trim v))) else none := by
  have hblank := isBlank_of_mem_token h
  have hequals : Text.isBlank '=' = false := by decide
  have hne : s.toList ≠ [] := by
    rw [isToken, Bool.and_eq_true] at h
    simpa using h.1
  have htrim : Text.trim (s.toList ++ '=' :: v) = s.toList ++ '=' :: Text.trimEnd v := by
    have hstart : Text.trimStart (s.toList ++ '=' :: v) = s.toList ++ '=' :: v := by
      apply Text.trimStart_eq_self
      intro d hd
      obtain ⟨e, es, hcons⟩ := List.exists_cons_of_ne_nil hne
      rw [hcons] at hd
      cases hd
      exact hblank _ (hcons ▸ List.mem_cons_self)
    rw [Text.trim, hstart, Text.trimEnd_append_cons hequals]
  have hcut : Text.cut (· = '=') (s.toList ++ '=' :: Text.trimEnd v) =
      (s.toList, some (Text.trimEnd v)) := by
    refine Text.cut_append_cons (fun d hd => ?_) (decide_eq_true rfl)
    rw [decide_eq_false_iff_not]
    rintro rfl
    exact not_mem_of_isToken h (by decide) hd
  have hname : Text.trim s.toList = s.toList :=
    Text.trim_eq_self (fun d hd => hblank d (List.mem_of_mem_head? hd))
      fun d hd => hblank d (List.mem_of_mem_getLast? hd)
  rw [pairValue?, htrim, hcut]
  dsimp only
  rw [hname, Text.trim_trimEnd]
  simp only [String.toList_inj]

theorem toList_sentPair (c : SetCookie) :
    c.sentPair.toList = c.name.toList ++ '=' :: (sent c.value).toList := by
  simp [sentPair]

theorem pairValue?_sentPair (h : isToken c.name = true) (name : String) :
    pairValue? name c.sentPair.toList = if c.name = name then some (clean c.value) else none := by
  rw [toList_sentPair, pairValue?_pair h, trim_sent, unquoted_sent, String.ofList_toList]

/-! ## Lines -/

theorem pairValue?_blank_cons (name : String) (pair : List Char) :
    pairValue? name (' ' :: pair) = pairValue? name pair := by
  rw [pairValue?, Text.trim_blank_cons (by decide), pairValue?]

/-- A space behind each semicolon belongs to the pair that follows. -/
theorem intercalate_semicolon (l : List Char) (ls : List (List Char)) :
    [';', ' '].intercalate (l :: ls) = [';'].intercalate (l :: ls.map (' ' :: ·)) := by
  induction ls generalizing l with
  | nil => rw [List.map_nil, List.intercalate_singleton, List.intercalate_singleton]
  | cons l' ls ih =>
    have hnext : [';', ' '].intercalate (l' :: ls) =
        [';'].intercalate (l' :: ls.map (' ' :: ·)) := ih l'
    have hspace (ms : List (List Char)) :
        [';'].intercalate ((' ' :: l') :: ms) = ' ' :: [';'].intercalate (l' :: ms) := by
      cases ms with
      | nil => rw [List.intercalate_singleton, List.intercalate_singleton]
      | cons m ms => rw [List.intercalate_cons_cons, List.intercalate_cons_cons]; rfl
    rw [List.intercalate_cons_cons, hnext, List.map_cons, List.intercalate_cons_cons, hspace]
    simp

/-- What one header gives to a name is what the first of its pairs with the name gives. -/
theorem lineValue?_cookieLine (name : String) {pairs : List String}
    (h : ∀ p ∈ pairs, ';' ∉ p.toList) :
    lineValue? name (cookieLine pairs) = pairs.findSome? (pairValue? name ·.toList) := by
  rw [lineValue?, cookieLine, String.toList_intercalate]
  cases pairs with
  | nil => rfl
  | cons p ps =>
    have hsemi : "; ".toList = [';', ' '] := by decide
    have hpieces : ∀ l ∈ p.toList :: (ps.map String.toList).map (' ' :: ·), ';' ∉ l := by
      intro l hl
      rw [List.map_map, List.mem_cons, List.mem_map] at hl
      rcases hl with rfl | ⟨q, hq, rfl⟩
      · exact h p List.mem_cons_self
      · simpa using h q (List.mem_cons_of_mem p hq)
    rw [hsemi, List.map_cons, intercalate_semicolon,
      List.splitOn_intercalate ';' hpieces (List.cons_ne_nil _ _), List.findSome?_cons,
      List.findSome?_cons, List.findSome?_map, List.findSome?_map]
    simp only [Function.comp_def, pairValue?_blank_cons]

/-- What a client keeps of headers that set cookies, however these are grouped. -/
theorem mapM_keptPair {groups : List (List SetCookie)}
    (hc : ∀ cs ∈ groups, ∀ c ∈ cs, c.Settable) :
    (groups.mapM fun cs => cs.mapM fun c => keptPair <$> c.headerValue) =
      .ok (groups.map (·.map sentPair)) :=
  Result.mapM_eq_ok fun cs hcs => Result.mapM_eq_ok fun c hcc => keptPair_headerValue (hc cs hcs c hcc)

/-- **The first cookie with a name is found**, in whichever header it was sent. -/
theorem findCookie?_sentPairs {groups : List (List SetCookie)}
    (hc : ∀ cs ∈ groups, ∀ c ∈ cs, isToken c.name = true) (name : String) :
    findCookie? ((groups.map (·.map sentPair)).map cookieLine) name =
      (groups.flatten.find? (·.name = name)).map (clean ·.value) := by
  have hline : ∀ cs ∈ groups, lineValue? name (cookieLine (cs.map sentPair)) =
      cs.findSome? fun c => if c.name = name then some (clean c.value) else none := by
    intro cs hcs
    have hpairs : ∀ p ∈ cs.map sentPair, ';' ∉ p.toList := by
      intro p hp
      obtain ⟨c, hcc, rfl⟩ := List.mem_map.1 hp
      exact semicolon_not_mem_sentPair (hc cs hcs c hcc)
    rw [lineValue?_cookieLine name hpairs, List.findSome?_map]
    exact findSome?_congr fun c hcc => pairValue?_sentPair (hc cs hcs c hcc) name
  unfold findCookie?
  split
  · rw [List.map_map, List.findSome?_map, ← findSome?_ite, findSome?_flatten]
    exact findSome?_congr hline
  · -- no cookie has a name that is no token
    rename_i hname
    have hnone : groups.flatten.find? (·.name = name) = none := by
      rw [List.find?_eq_none]
      intro c hcc he
      obtain ⟨cs, hcs, hcc⟩ := List.mem_flatten.1 hcc
      have hcname : c.name = name := by simpa using he
      exact hname (hcname ▸ hc cs hcs c hcc)
    rw [hnone, Option.map_none]

/-- What a clean value leaves out: characters outside ASCII, control characters, and the three
that could end it. -/
theorem clean_eq (value : String) :
    clean value = String.ofList (value.toList.filter fun c =>
      c.toNat < 0x80 ∧ ¬ (c.toNat < 0x20 ∨ c.toNat = 0x7F) ∧ c ∉ ['"', ';', '\\']) := by
  have hchar (c : Char) : isValueChar c =
      decide (c.toNat < 0x80 ∧ ¬ (c.toNat < 0x20 ∨ c.toNat = 0x7F) ∧ c ∉ ['"', ';', '\\']) := by
    rw [Bool.eq_iff_iff, decide_eq_true_iff]
    simp only [isValueChar, Bool.and_eq_true, decide_eq_true_eq, bne_iff_ne, List.mem_cons,
      List.not_mem_nil, or_false, not_or]
    constructor
    · rintro ⟨⟨⟨⟨hlow, hhigh⟩, hquote⟩, hsemi⟩, hback⟩
      exact ⟨by omega, by omega, hquote, hsemi, hback⟩
    · rintro ⟨hascii, hcontrol, hquote, hsemi, hback⟩
      exact ⟨⟨⟨⟨by omega, by omega⟩, hquote⟩, hsemi⟩, hback⟩
  rw [clean, funext hchar]

end Http

/-- **A cookie that was set is found again.** Each header that sets a cookie is written. A client
that keeps the pair before the first semicolon of each and sends them back in order, in any number
of headers, has set for every name the value of the first cookie with that name, without the
characters outside ASCII, the control characters, and the double quotes, semicolons and
backslashes that it held; other names have no value. -/
theorem cookie_round_trip {groups : List (List Http.SetCookie)}
    (hc : ∀ cs ∈ groups, ∀ c ∈ cs, c.Settable) :
    ∃ pairs : List (List String),
      (groups.mapM fun cs => cs.mapM fun c => Http.keptPair <$> c.headerValue) = .ok pairs ∧
      ∀ r : Request, r.headers.getAll "Cookie" = pairs.map Http.cookieLine →
        ∀ name, r.cookie? name = (groups.flatten.find? (·.name = name)).map fun c =>
          String.ofList (c.value.toList.filter fun ch =>
            ch.toNat < 0x80 ∧ ¬ (ch.toNat < 0x20 ∨ ch.toNat = 0x7F) ∧
              ch ∉ ['"', ';', '\\']) := by
  refine ⟨groups.map (·.map Http.SetCookie.sentPair), Http.mapM_keptPair hc, ?_⟩
  intro r hr name
  have hnames : ∀ cs ∈ groups, ∀ c ∈ cs, Http.isToken c.name = true :=
    fun cs hcs c hcc => (hc cs hcs c hcc).name
  rw [Request.cookie?, hr, Http.findCookie?_sentPairs hnames name]
  simp only [Http.clean_eq]

/-- Of two cookies with one name, sent back in two headers, the first is found; its value comes
back without its semicolon and with its space. -/
theorem cookie_round_trip_of_two_headers :
    let groups : List (List Http.SetCookie) :=
      [[.scripted "a" "x;y z " 0 false, .scripted "b" "" 1700000000 true],
        [.scripted "a" "2" 0 false]]
    let r : Request := { Request.new "1" "GET" "/" with
      headers := (Headers.empty.add "cookie" "a=\"xy z \"; b=").add "Cookie" "a=2" }
    (∀ cs ∈ groups, ∀ c ∈ cs, c.Settable) ∧ r.cookie? "a" = some "xy z " ∧
      r.cookie? "b" = some "" ∧ r.cookie? "c" = none := by
  intro groups r
  have hc : ∀ cs ∈ groups, ∀ c ∈ cs, c.Settable := by
    intro cs hcs c hcc
    simp only [groups, List.mem_cons, List.not_mem_nil, or_false] at hcs
    rcases hcs with rfl | rfl
    · simp only [List.mem_cons, List.not_mem_nil, or_false] at hcc
      rcases hcc with rfl | rfl
      · exact ⟨by decide, by decide, by decide⟩
      · exact ⟨by decide, by decide, by decide⟩
    · rw [List.mem_singleton.1 hcc]
      exact ⟨by decide, by decide, by decide⟩
  obtain ⟨pairs, hpairs, hfound⟩ := cookie_round_trip hc
  obtain rfl : pairs = groups.map (·.map Http.SetCookie.sentPair) :=
    Except.ok.inj (hpairs.symm.trans (Http.mapM_keptPair hc))
  have hr := hfound r (by decide +kernel)
  exact ⟨hc, (hr "a").trans (by decide +kernel), (hr "b").trans (by decide +kernel),
    (hr "c").trans (by decide +kernel)⟩

end WebScript
