import WebScript.Proofs.Cookies
import WebScript.Proofs.Date

/-!
# Headers that set cookies

A header that sets a cookie is a list of attributes between semicolons. Name and value come from
scripts, so none of their characters may end an attribute or the header.

* `SetCookie.headerValue_eq_ok_iff`: **a header is written exactly for a token and a date**, as
  its attributes with semicolons between them.
* `SetCookie.isAttribute_attributes`: each of them is printable ASCII without a semicolon;
  `SetCookie.splitOn_headerValue`: so the header splits into them again.
* `cookie_attributes`: **no name and no value adds, drops or reorders an attribute.**
-/

namespace WebScript

namespace Http

theorem isAttribute_of_isToken {s : String} (h : isToken s = true) : IsAttribute s.toList := by
  intro c hc
  have htoken : isTokenChar c = true := by
    rw [isToken, Bool.and_eq_true, List.all_eq_true] at h
    exact h.2 c hc
  obtain ⟨hlow, hhigh⟩ := toNat_of_isTokenChar htoken
  refine ⟨⟨by omega, hhigh⟩, ?_⟩
  rintro rfl
  exact absurd htoken (by decide)

namespace SetCookie

variable {c : SetCookie} {date text : String}

theorem isAttribute_clean (value : String) : IsAttribute (clean value).toList := by
  intro ch hmem
  have hchar := mem_clean hmem
  simp only [isValueChar, Bool.and_eq_true, decide_eq_true_eq, bne_iff_ne] at hchar
  obtain ⟨⟨⟨hrange, -⟩, hsemi⟩, -⟩ := hchar
  exact ⟨hrange, hsemi⟩

theorem isAttribute_sent (value : String) : IsAttribute (sent value).toList := by
  rcases sent_cases value with h | ⟨h, -⟩ <;> rw [h]
  · have hquote : IsAttribute ['"'] := by decide
    exact isAttribute_append hquote (isAttribute_append (isAttribute_clean value) hquote)
  · exact isAttribute_clean value

/-- A clean value is sent in double quotes exactly if it has a space or a comma. -/
theorem toList_sent (value : String) : (sent value).toList =
    if ' ' ∈ (clean value).toList ∨ ',' ∈ (clean value).toList then
      '"' :: ((clean value).toList ++ ['"']) else (clean value).toList := by
  unfold sent
  simp only [Bool.or_eq_true, List.contains_iff_mem]
  split
  · simp
  · rfl

/-- The attributes of the header, the first of them name and value. -/
def attributes (c : SetCookie) (date : String) : List (List Char) :=
  [c.sentPair.toList, " Path=".toList ++ c.path.toList, " Expires=".toList ++ date.toList] ++
    (if c.httpOnly then [" HttpOnly".toList] else []) ++
    if c.secure then [" Secure".toList] else []

/-- What is written are the attributes, with semicolons between them. -/
theorem toList_written (c : SetCookie) (date : String) :
    (c.name ++ "=" ++ sent c.value ++ "; Path=" ++ c.path ++ "; Expires=" ++ date ++
      (if c.httpOnly then "; HttpOnly" else "") ++ if c.secure then "; Secure" else "").toList =
      [';'].intercalate (c.attributes date) := by
  have hpath : "; Path=".toList = ';' :: " Path=".toList := by decide
  have hexpires : "; Expires=".toList = ';' :: " Expires=".toList := by decide
  have hhttp : "; HttpOnly".toList = ';' :: " HttpOnly".toList := by decide
  have hsecure : "; Secure".toList = ';' :: " Secure".toList := by decide
  cases hh : c.httpOnly <;> cases hs : c.secure <;>
    simp [attributes, sentPair, hh, hs, hpath, hexpires, hhttp, hsecure, List.intercalate]

/-- **A header is written exactly for a token and a date**, and it is the attributes. -/
theorem headerValue_eq_ok_iff : c.headerValue = .ok text ↔
    isToken c.name = true ∧ ∃ date, httpDate? c.expires = some date ∧
      text.toList = [';'].intercalate (c.attributes date) := by
  rw [headerValue]
  cases hname : isToken c.name with
  | false => simp
  | true =>
    cases hdate : httpDate? c.expires with
    | none => simp
    | some date =>
      simp only [Bool.not_true, Bool.false_eq_true, if_false, Except.ok.injEq, Option.some.injEq,
        true_and, exists_eq_left', ← toList_written, String.toList_inj]
      exact eq_comm

theorem isAttribute_attributes (hname : isToken c.name = true) (hpath : IsAttribute c.path.toList)
    (hdate : IsAttribute date.toList) : ∀ a ∈ c.attributes date, IsAttribute a := by
  have hpair : IsAttribute c.sentPair.toList := by
    rw [sentPair, String.toList_append, String.toList_append]
    exact isAttribute_append (isAttribute_append (isAttribute_of_isToken hname) (by decide))
      (isAttribute_sent c.value)
  intro a ha
  rw [attributes, List.mem_append, List.mem_append] at ha
  rcases ha with (ha | ha) | ha
  · simp only [List.mem_cons, List.not_mem_nil, or_false] at ha
    rcases ha with rfl | rfl | rfl
    · exact hpair
    · exact isAttribute_append (by decide) hpath
    · exact isAttribute_append (by decide) hdate
  · split at ha
    · rw [List.mem_singleton.1 ha]
      decide
    · cases ha
  · split at ha
    · rw [List.mem_singleton.1 ha]
      decide
    · cases ha

/-- **A header splits at semicolons into its attributes**, and is printable ASCII. -/
theorem splitOn_headerValue (hpath : IsAttribute c.path.toList) (h : c.headerValue = .ok text) :
    (∀ ch ∈ text.toList, 0x20 ≤ ch.toNat ∧ ch.toNat < 0x7F) ∧
      ∃ date, httpDate? c.expires = some date ∧
        text.toList.splitOn ';' = c.attributes date := by
  obtain ⟨hname, date, hdate, htext⟩ := headerValue_eq_ok_iff.1 h
  have hall := isAttribute_attributes hname hpath (isAttribute_httpDate hdate)
  refine ⟨fun ch hch => ?_, date, hdate, ?_⟩
  · rw [htext] at hch
    rcases Text.of_mem_intercalate hch with rfl | ⟨a, ha, hmem⟩
    · decide
    · exact (hall a ha ch hmem).1
  · rw [htext]
    refine List.splitOn_intercalate ';' (fun a ha hmem => ?_) (List.cons_ne_nil _ _)
    exact (hall a ha ';' hmem).2 rfl

end SetCookie

theorem isToken_iff_chars (s : String) : isToken s = true ↔
    s ≠ "" ∧ ∀ ch ∈ s.toList, ch.isAlphanum ∨ ch ∈ "!#$%&'*+-.^_`|~".toList := by
  simp [isToken, isTokenChar]

end Http

/-- **No name and no value adds, drops or reorders an attribute** of the header that sets a cookie.
The header is written exactly if the name is a non-empty list of letters, digits and the marks of a
token, and the expiry lies in the years -9999 to 9999. It is printable ASCII, and the parts between
its semicolons are the name with what is kept of the value, the path, the expiry, `HttpOnly`, and
`Secure` for a secure cookie. -/
theorem cookie_attributes (name value : String) (expires : Int) (secure : Bool) :
    let header := (Http.SetCookie.scripted name value expires secure).headerValue
    let year := (Http.Civil.ofDays (expires / 86400)).year
    let kept := value.toList.filter fun ch =>
      ch.toNat < 0x80 ∧ ¬ (ch.toNat < 0x20 ∨ ch.toNat = 0x7F) ∧ ch ∉ ['"', ';', '\\']
    let sent := if ' ' ∈ kept ∨ ',' ∈ kept then '"' :: (kept ++ ['"']) else kept
    ((∃ text, header = .ok text) ↔
      (name ≠ "" ∧ ∀ ch ∈ name.toList, ch.isAlphanum ∨ ch ∈ "!#$%&'*+-.^_`|~".toList) ∧
        -9999 ≤ year ∧ year ≤ 9999) ∧
    ∀ text, header = .ok text →
      (∀ ch ∈ text.toList, 0x20 ≤ ch.toNat ∧ ch.toNat < 0x7F) ∧
      ∃ date, Http.httpDate? expires = some date ∧
        text.toList.splitOn ';' =
          [name.toList ++ '=' :: sent, " Path=/".toList, " Expires=".toList ++ date.toList,
            " HttpOnly".toList] ++ if secure then [" Secure".toList] else [] := by
  intro header year kept sent
  have hkept : (Http.SetCookie.clean value).toList = kept := by
    rw [Http.clean_eq, String.toList_ofList]
  refine ⟨?_, fun text htext => ?_⟩
  · rw [← Http.isToken_iff_chars, ← Http.isSome_httpDate?_iff]
    constructor
    · rintro ⟨text, htext⟩
      obtain ⟨hname, date, hdate, -⟩ := Http.SetCookie.headerValue_eq_ok_iff.1 htext
      exact ⟨hname, Option.isSome_of_eq_some hdate⟩
    · rintro ⟨hname, hsome⟩
      obtain ⟨date, hdate⟩ := Option.isSome_iff_exists.1 hsome
      exact ⟨String.ofList _, Http.SetCookie.headerValue_eq_ok_iff.2
        ⟨hname, date, hdate, String.toList_ofList⟩⟩
  · have hpath : Http.IsAttribute "/".toList := by decide
    obtain ⟨hprintable, date, hdate, hsplit⟩ := Http.SetCookie.splitOn_headerValue hpath htext
    refine ⟨hprintable, date, hdate, ?_⟩
    have hsent : (Http.SetCookie.sent value).toList = sent := by
      rw [Http.SetCookie.toList_sent, hkept]
    have hpair : (Http.SetCookie.scripted name value expires secure).sentPair.toList =
        name.toList ++ '=' :: sent := by
      rw [← hsent]
      simp [Http.SetCookie.sentPair, Http.SetCookie.scripted]
    have hroot : " Path=".toList ++ "/".toList = " Path=/".toList := by decide
    rw [hsplit, Http.SetCookie.attributes, hpair]
    simp only [Http.SetCookie.scripted]
    rw [hroot]
    rfl

/-- A value that tries to end its attribute and the header loses the characters it tries with. -/
theorem cookie_attributes_of_forged :
    ∃ text, (Http.SetCookie.scripted "sid" "a, b; Secure\r\nX: \"é\"" 0 false).headerValue =
      .ok text ∧ text.toList.splitOn ';' =
        ["sid=\"a, b SecureX: \"".toList, " Path=/".toList,
          " Expires=Thu, 01 Jan 1970 00:00:00 GMT".toList, " HttpOnly".toList] := by
  obtain ⟨hwritten, hparts⟩ :=
    cookie_attributes "sid" "a, b; Secure\r\nX: \"é\"" 0 false
  have hname := (Http.isToken_iff_chars "sid").1 (by decide)
  obtain ⟨text, htext⟩ := hwritten.2 ⟨hname, by decide, by decide⟩
  obtain ⟨-, date, hdate, hsplit⟩ := hparts text htext
  have hepoch : Http.httpDate? 0 = some "Thu, 01 Jan 1970 00:00:00 GMT" := by decide +kernel
  obtain rfl : "Thu, 01 Jan 1970 00:00:00 GMT" = date := Option.some.inj (hepoch.symm.trans hdate)
  refine ⟨text, htext, hsplit.trans ?_⟩
  decide +kernel

end WebScript
