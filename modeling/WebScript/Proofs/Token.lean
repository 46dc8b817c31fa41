import WebScript.Http.Token
import WebScript.Proofs.Text

/-!
# The characters of tokens

* `isBlank_eq_false`: printable ASCII has no white space but for the space.
* `toNat_of_isTokenChar`: tokens are of printable ASCII, without the space.
* `not_mem_of_isToken`, `isBlank_of_mem_token`: what stands in no token.
-/

namespace WebScript.Http

/-- Printable ASCII but for the space is no white space. -/
theorem isBlank_eq_false {c : Char} (h : 0x20 < c.toNat) (h' : c.toNat < 0x7F) :
    Text.isBlank c = false := by
  simp only [Text.isBlank, Bool.or_eq_false_iff, Bool.and_eq_false_iff, decide_eq_false_iff_not,
    beq_eq_false_iff_ne]
  omega

/-- A token character is printable ASCII but for the space. -/
theorem toNat_of_isTokenChar {c : Char} (h : isTokenChar c = true) :
    0x20 < c.toNat ∧ c.toNat < 0x7F := by
  rw [isTokenChar, Bool.or_eq_true] at h
  rcases h with h | h
  · exact Text.toNat_of_isAlphanum h
  · have hmarks : "!#$%&'*+-.^_`|~".toList.all (fun d => 0x20 < d.toNat ∧ d.toNat < 0x7F) := by
      decide
    exact of_decide_eq_true (List.all_eq_true.1 hmarks c (List.contains_iff_mem.1 h))

theorem not_mem_of_isToken {s : String} (h : isToken s = true) {c : Char}
    (hc : isTokenChar c = false) : c ∉ s.toList := by
  intro hm
  rw [isToken, Bool.and_eq_true, List.all_eq_true] at h
  rw [h.2 c hm] at hc
  cases hc

theorem isBlank_of_mem_token {s : String} (h : isToken s = true) :
    ∀ c ∈ s.toList, Text.isBlank c = false := by
  intro c hm
  rw [isToken, Bool.and_eq_true, List.all_eq_true] at h
  obtain ⟨hlow, hhigh⟩ := toNat_of_isTokenChar (h.2 c hm)
  exact isBlank_eq_false hlow hhigh

end WebScript.Http
