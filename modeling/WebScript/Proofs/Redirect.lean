import WebScript.Proofs.Exchange
import WebScript.Proofs.Headers
import WebScript.Proofs.Url.Rejoined
import WebScript.Run

/-!
# Redirections

A redirection to a relative destination names the path and the query of the URL that the
destination leads to, and the client reads them relative to the URL it asked for.

* `Url.join_relative`: a relative destination keeps the scheme.
* `Run.location_redirect`: the header that says where a redirection leads.
* `redirect_leads_back`: **the client comes to the URL that the destination leads to exactly if
  its path and query lead back to it.**
-/

namespace WebScript

namespace Url

variable {base u : Url} {kind : SchemeKind} {p : Parts} {cs : List Char} {text : String}

/-- What is read relative to a URL has its scheme and a path of its kind. -/
theorem of_readRelative (h : readRelative base kind p cs = .ok u)
    (hbase : base.isUnstructured = false) :
    u.scheme = base.scheme ∧ u.isUnstructured = base.isUnstructured := by
  rw [hbase]
  unfold readRelative at h
  split at h
  · cases h
    exact ⟨scheme_withTail .., hbase⟩
  split at h
  · split at h
    · obtain ⟨a, r, -, rfl⟩ := exists_of_readAfterSlashes h
      refine ⟨rfl, ?_⟩
      unfold isUnstructured
      split
      · rename_i text hp
        exact absurd hp (readAbsolutePath_ne_unstructured kind r text)
      · rfl
    · cases h
      exact ⟨rfl, rfl⟩
  · cases h
    exact ⟨rfl, rfl⟩

/-- Only a scheme that is not special goes without structure. -/
theorem Written.isUnstructured_eq_false (hu : u.Written) (hkind : schemeKind u.scheme = .special) :
    u.isUnstructured = false := by
  have hpath := hu.path
  unfold isUnstructured
  split
  · rename_i text hp
    rw [hp, hkind] at hpath
    cases hpath.1
  · rfl

/-- **A text that is no URL of its own leads to a URL of the same scheme**, with structure exactly
if the base has some. -/
theorem join_relative (hbase : base.Written) (hfile : base.scheme ≠ "file")
    (hrelative : (parse text).isOk = false) (h : base.join text = .ok u) :
    u.scheme = base.scheme ∧ u.isUnstructured = base.isUnstructured := by
  unfold parse parseWith at hrelative
  unfold join parseWith at h
  dsimp only at h hrelative
  split at h
  · rename_i scheme r hsplit
    rw [hsplit] at hrelative
    dsimp only at hrelative
    -- a scheme makes the text a URL of its own, unless it is the special one of the base
    rcases readWithScheme_cases hfile scheme (Parts.of (tidy text.toList)) r with he | ⟨hkind, he⟩
    · rw [← he, h] at hrelative
      cases hrelative
    · rw [he] at h
      exact of_readRelative h (hbase.isUnstructured_eq_false hkind)
  · split at h
    · cases h
      exact ⟨scheme_withTail .., isUnstructured_withTail ..⟩
    split at h
    · cases h
    rename_i hstructured
    have hstructured := Bool.eq_false_iff.2 hstructured
    split at h
    · rename_i hkind
      exact absurd (schemeKind_eq_file_iff.1 hkind) hfile
    · exact of_readRelative h hstructured

end Url

/-- The URL of a request is written as its parts show, unless it is that of a file. -/
theorem Request.written_url {r : Request} {base : Url} (h : r.url = .ok base)
    (hfile : base.scheme ≠ "file") : base.Written := by
  have hlocal : localBase.Written :=
    ⟨fun n hn => by
      obtain rfl := List.mem_singleton.1 hn
      exact UrlPath.isSegment_nil, nofun⟩
  unfold url at h
  exact Url.written_join hlocal (by decide) h hfile

/-- The header that says where a redirection leads. -/
theorem Run.location_redirect (s : Run) (d : String) (status : Nat) :
    (s.redirect (some d) status).exchange.response.headers.get "Location" =
      s.context.request.resolve d := by
  have hheaders : (s.redirect (some d) status).exchange.response.headers =
      s.exchange.response.headers.set "Location" (s.context.request.resolve d) := by
    change (Exchange.writeStatus _ _).response.headers = _
    rw [Exchange.response_writeStatus]
    unfold Response.writeStatus
    split <;> rfl
  rw [hheaders, Headers.get_set]

/-- A relative destination is resolved, and its path and query are kept. -/
theorem Request.resolve_of_relative {r : Request} {base : Url} {d : String}
    (hbase : r.url = .ok base) (hrelative : (Url.parse d).isOk = false)
    (hroot : d.toList.head? ≠ some '/') :
    r.resolve d = match base.join d with
      | .ok url => url.pathAndQuery
      | .error _ => d := by
  have hbind : ∀ read : Url → Except UrlFault Url, (Except.ok base >>= read) = read base :=
    fun _ => rfl
  unfold resolve
  rw [if_neg (by simp [hrelative, hroot]), hbase]
  cases hd : base.join d <;> simp only [hbind, hd]

/-- **Where a relative redirection takes the client.** The URL of the request is not that of a
file, and the destination is neither a URL of its own nor a path from the root. Then the client
that reads the location relative to the URL of the request comes to the URL that the destination
leads to, fragment aside, exactly if path and query of that URL lead back to it: its authority is
that of the request, its path has structure and does not begin with two slashes, and where there is
no path, and then no query, there is none in the URL of the request.

URLs of files are left out because where their paths lead depends on drives too: a path from the
root that names no drive is read on the drive of the page. From the file `/C:/a` the destination
`\\\x` leads to the file `/x`, with the authority of the page and one slash in front, but the
location `/x` leads to `/C:/x`. -/
theorem redirect_leads_back {s : Run} {base : Url} {d : String} (status : Nat)
    (hbase : s.context.request.url = .ok base) (hfile : base.scheme ≠ "file")
    (hrelative : (Url.parse d).isOk = false) (hroot : d.toList.head? ≠ some '/') :
    let location := (s.redirect (some d) status).exchange.response.headers.get "Location"
    (base.join location).map Url.withoutFragment = (base.join d).map Url.withoutFragment ↔
      ∀ u, base.join d = .ok u → base.LedBack u := by
  intro location
  have hwritten : base.Written := Request.written_url hbase hfile
  have hlocation : location = _ :=
    (s.location_redirect d status).trans (Request.resolve_of_relative hbase hrelative hroot)
  rw [hlocation]
  cases hd : base.join d with
  | error fault =>
    dsimp only
    rw [hd]
    exact iff_of_true rfl nofun
  | ok u =>
    obtain ⟨hscheme, hstructure⟩ := Url.join_relative hwritten hfile hrelative hd
    have hu : u.Written := Url.written_join hwritten hfile hd (hscheme ▸ hfile)
    refine (Url.join_pathAndQuery_iff hu hscheme hstructure hfile).trans
      ⟨fun h v hv => ?_, fun h => h u rfl⟩
    cases hv
    exact h

/-- A destination beside the page takes the client there. -/
theorem redirect_leads_back_of_segment :
    let s := (Exchange.start none).bind .regular ⟨"1", "GET", "/a/b?q", .empty, "", []⟩ .anonymous
    let base : Url := { Request.localBase with path := .segments ["a", "b"], query := some "q" }
    s.context.request.url = .ok base ∧ base.scheme ≠ "file" ∧ (Url.parse "c").isOk = false ∧
      "c".toList.head? ≠ some '/' ∧
      (base.join ((s.redirect (some "c") 0).exchange.response.headers.get "Location")).map
        Url.withoutFragment = (base.join "c").map Url.withoutFragment := by
  intro s base
  have hbase : s.context.request.url = .ok base := by decide +kernel
  have hfile : base.scheme ≠ "file" := by decide
  have hrelative : (Url.parse "c").isOk = false := by decide +kernel
  have hroot : "c".toList.head? ≠ some '/' := by decide
  refine ⟨hbase, hfile, hrelative, hroot,
    (redirect_leads_back 0 hbase hfile hrelative hroot).2 fun u hu => ?_⟩
  have hjoin : base.join "c" = .ok { Request.localBase with path := .segments ["a", "c"] } := by
    decide +kernel
  rw [hjoin] at hu
  cases hu
  exact ⟨rfl, rfl, by decide, nofun, nofun⟩

/-- Behind an empty segment, a path on the same host is taken for another host. -/
theorem redirect_leads_away :
    let s := (Exchange.start none).bind .regular ⟨"1", "GET", "/", .empty, "", []⟩ .anonymous
    let location := (s.redirect (some ".//evil") 0).exchange.response.headers.get "Location"
    let base := Request.localBase
    s.context.request.url = .ok base ∧ (Url.parse ".//evil").isOk = false ∧
      ".//evil".toList.head? ≠ some '/' ∧ location = "//evil" ∧
      (base.join ".//evil").map Url.hostOrEmpty = .ok (.domain "localhost") ∧
      (base.join location).map Url.hostOrEmpty = .ok (.domain "evil") := by
  decide +kernel

end WebScript
