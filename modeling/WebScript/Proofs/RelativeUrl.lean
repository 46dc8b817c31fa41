import WebScript.Proofs.Text
import WebScript.Request

/-!
# Relative URLs of requests

A request names a path alone, or a scheme and a host in front of it. The two are told apart by the
mark behind a scheme, wherever in the text it stands.

* `Request.relativeUrl_eq_iff`: **a path is kept as it was received exactly if the mark is not in
  it.**
* `relative_url_of_path`: the same of the URI of a request that names a path alone, and of the query
  of a request built from it.
-/

namespace WebScript

namespace Text

variable {word cs r : List Char}

/-- What follows a word leaves room for it. -/
theorem length_add_of_after? (h : after? word cs = some r) :
    r.length + word.length ≤ cs.length := by
  induction cs with
  | nil =>
    rw [after?] at h
    split at h
    · rename_i hw
      cases h
      rw [List.isEmpty_iff.1 hw]
      exact Nat.le_refl 0
    · cases h
  | cons c cs ih =>
    rw [after?] at h
    split at h
    · rename_i hw
      cases h
      have hlen : word.length ≤ (c :: cs).length :=
        (List.isPrefixOf_iff_prefix.1 hw).length_le
      rw [List.length_drop]
      omega
    · have hrest : r.length + word.length ≤ cs.length := ih h
      rw [List.length_cons]
      omega

end Text

namespace Request

variable {r : Request}

/-- What stands behind a scheme. -/
def schemeMark : List Char := "://".toList

theorem beforeFragment_eq (r : Request) :
    r.beforeFragment = r.uri.toList.takeWhile (· ≠ '#') := by
  rw [beforeFragment, Text.fst_cut]
  congr 1
  funext c
  simp

/-- Path and query behind a scheme and a host, if there is a scheme. -/
def behindHost (r : Request) : List Char :=
  match Text.after? schemeMark r.beforeFragment with
  | some rest => rest.dropWhile fun c => c != '/' && c != '?'
  | none => r.beforeFragment

theorem relativeUrl_eq (r : Request) :
    r.relativeUrl = String.ofList
      (if r.behindHost.head? = some '/' then r.behindHost else '/' :: r.behindHost) := rfl

/-- Where there is no mark of a scheme, a path is kept. -/
theorem relativeUrl_of_not_mark (hp : r.beforeFragment.head? = some '/')
    (hm : ¬ schemeMark <:+: r.beforeFragment) :
    r.relativeUrl = String.ofList r.beforeFragment := by
  have hbehind : r.behindHost = r.beforeFragment := by
    rw [behindHost, Text.after?_eq_none_iff.2 hm]
  rw [relativeUrl_eq, hbehind, if_pos hp]

/-- Where there is one, what stands before it is lost. -/
theorem length_relativeUrl_of_mark (hm : schemeMark <:+: r.beforeFragment) :
    r.relativeUrl.toList.length < r.beforeFragment.length := by
  cases hrest : Text.after? schemeMark r.beforeFragment with
  | none => exact absurd hm (Text.after?_eq_none_iff.1 hrest)
  | some rest =>
    have hlen : rest.length + 3 ≤ r.beforeFragment.length := Text.length_add_of_after? hrest
    have hbehind : r.behindHost.length ≤ rest.length := by
      rw [behindHost, hrest]
      exact (List.dropWhile_sublist _).length_le
    rw [relativeUrl_eq, String.toList_ofList]
    -- a slash may be put in front, which is still less than the mark
    split
    · omega
    · rw [List.length_cons]
      omega

/-- **A path is kept as it was received exactly if the mark of a scheme is not in it.** -/
theorem relativeUrl_eq_iff (hp : r.beforeFragment.head? = some '/') :
    r.relativeUrl = String.ofList r.beforeFragment ↔ ¬ schemeMark <:+: r.beforeFragment := by
  refine ⟨fun h hm => ?_, relativeUrl_of_not_mark hp⟩
  have hlt := length_relativeUrl_of_mark hm
  rw [h, String.toList_ofList] at hlt
  exact Nat.lt_irrefl _ hlt

/-- The query is read off what stands before the fragment. -/
theorem query_congr {q : Request} (h : q.beforeFragment = r.beforeFragment) :
    q.query = r.query := by
  unfold query
  rw [h]

theorem beforeFragment_of_uri {q : Request} (h : q.uri = String.ofList r.beforeFragment) :
    q.beforeFragment = r.beforeFragment := by
  rw [beforeFragment_eq q, h, String.toList_ofList, beforeFragment_eq r, List.takeWhile_takeWhile]
  simp

end Request

/-- **The relative URL of a path.** Of a URI that begins with a slash, the relative URL is exactly
the part before its first `#` if, and only if, `://` does not stand in that part; and then a request
for the relative URL has the same query values. -/
theorem relative_url_of_path {r : Request} (hr : r.uri.toList.head? = some '/') :
    let path := r.uri.toList.takeWhile (· ≠ '#')
    (r.relativeUrl = String.ofList path ↔ ¬ "://".toList <:+: path) ∧
    (¬ "://".toList <:+: path →
      ∀ q : Request, q.uri = r.relativeUrl → q.query = r.query) := by
  intro path
  have hpath : r.beforeFragment = path := r.beforeFragment_eq
  have hhead : r.beforeFragment.head? = some '/' := by
    obtain ⟨rest, huri⟩ := List.head?_eq_some_iff.1 hr
    rw [r.beforeFragment_eq, huri]
    rfl
  rw [← hpath]
  refine ⟨Request.relativeUrl_eq_iff hhead, fun hm q hq => ?_⟩
  rw [Request.relativeUrl_of_not_mark hhead hm] at hq
  exact Request.query_congr (Request.beforeFragment_of_uri hq)

/-- A fragment is dropped, whatever stands in it, and the rest is kept as it is. -/
theorem relative_url_of_path_of_fragment :
    let r : Request := ⟨"1", "GET", "/a/../%7e?b=c#d://e", .empty, "", []⟩
    r.uri.toList.head? = some '/' ∧
      r.relativeUrl = String.ofList (r.uri.toList.takeWhile (· ≠ '#')) := by
  intro r
  have hr : r.uri.toList.head? = some '/' := by decide
  exact ⟨hr, (relative_url_of_path hr).1.2 (Text.after?_eq_none_iff.1 (by decide))⟩

/-- A URL in the query is taken for the URL of the request, whose path and query are lost. -/
theorem relative_url_of_embedded_url :
    let r : Request := ⟨"1", "GET", "/go?to=http://x/y", .empty, "", []⟩
    r.uri.toList.head? = some '/' ∧
      String.ofList (r.uri.toList.takeWhile (· ≠ '#')) = "/go?to=http://x/y" ∧
      r.relativeUrl = "/y" := by
  decide

end WebScript
