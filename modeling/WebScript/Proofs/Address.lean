import WebScript.Http.Address
import WebScript.Proofs.Text

/-!
# Hosts of network addresses

An address is a host and a port with a colon between them. A host that holds colons of its own
stands in brackets; brackets stand nowhere else, but for an opening one in the port, which is not
looked for.

* `Http.IsAddress`: the form of an address, given the marks that must not stand in the port.
* `Http.exists_of_bareHost`: what is taken for the host, and where the brackets have to close.
* `Http.hostOf_eq_ok_iff`: **a host is found exactly in texts of that form.**
* `address_grammar`: the same of whole addresses; any other is refused.
* `address_of_stray_bracket`: an opening bracket in the port is let through.
-/

namespace WebScript

namespace Http

/-- **A host and a port**, the host in brackets or without colons. -/
inductive IsAddress (portMarks host : List Char) : List Char → Prop
  | bare {port : List Char} : (∀ c ∈ [':', '[', ']'], c ∉ host) → (∀ c ∈ portMarks, c ∉ port) →
    IsAddress portMarks host (host ++ ':' :: port)
  | bracketed {port : List Char} : (∀ c ∈ ['[', ']'], c ∉ host) → (∀ c ∈ portMarks, c ∉ port) →
    IsAddress portMarks host ('[' :: host ++ ']' :: ':' :: port)

variable {cs front port host : List Char}

/-- **The host before the last colon**: all of it, if it has no colon and no opening bracket in
front, and else what stands between brackets that enclose all of it. -/
theorem exists_of_bareHost (h : bareHost (front ++ ':' :: port) front = .ok host) :
    (front = host ∧ ':' ∉ host) ∨ (front = '[' :: host ++ [']'] ∧ ']' ∉ host) := by
  unfold bareHost at h
  split at h
  · rename_i r hcs
    right
    split at h
    · cases h
    · rename_i inside rest hcut
      split at h
      · rename_i hlen
        cases h
        obtain ⟨rfl, hinside⟩ := Text.cut_eq_some_iff.1 hcut
        -- both texts are cut at the same place, so the parts are the same
        have hsame : front ++ ':' :: port = ('[' :: host ++ [']']) ++ rest := by
          rw [hcs]
          simp
        have hfront : front.length = ('[' :: host ++ [']']).length := by
          simp only [List.length_append, List.length_cons, List.length_nil]
          omega
        exact ⟨(List.append_inj hsame hfront).1, hinside⟩
      · cases h
  · left
    split at h
    · cases h
    · rename_i hcolon
      cases h
      exact ⟨rfl, by simpa using hcolon⟩

/-- A host without brackets is all that stands before the colon. -/
theorem bareHost_of_bare (hhost : ∀ c ∈ [':', '[', ']'], c ∉ host) :
    bareHost (host ++ ':' :: port) host = .ok host := by
  have hcolon : host.contains ':' = false := by
    simpa using hhost ':' (by decide)
  unfold bareHost
  split
  · rename_i r hcs
    exfalso
    cases host with
    | nil => cases hcs
    | cons c host =>
      obtain rfl : c = '[' := (List.cons.inj hcs).1
      exact hhost '[' (by decide) List.mem_cons_self
  · rw [hcolon, if_neg Bool.false_ne_true]

/-- A host in brackets is what stands between them. -/
theorem bareHost_of_bracketed (hhost : ']' ∉ host) :
    bareHost ('[' :: host ++ ']' :: ':' :: port) ('[' :: host ++ [']']) = .ok host := by
  have hcut : Text.cut (· = ']') (host ++ ']' :: ':' :: port) = (host, some (':' :: port)) :=
    Text.cut_eq_some_iff.2 ⟨rfl, hhost⟩
  have hlen : host.length + 2 = ('[' :: host ++ [']']).length := by simp
  rw [List.cons_append, bareHost, hcut]
  exact if_pos hlen

/-- The host of an address is what is read before its last colon. -/
theorem IsAddress.exists_parts {portMarks : List Char} (h : IsAddress portMarks host cs) :
    ∃ front port, cs = front ++ ':' :: port ∧ (∀ c ∈ portMarks, c ∉ port) ∧
      bareHost cs front = .ok host ∧ '[' ∉ host ∧ ']' ∉ host := by
  rcases h with ⟨hhost, hport⟩ | ⟨hhost, hport⟩
  · exact ⟨host, _, rfl, hport, bareHost_of_bare hhost, hhost '[' (by decide),
      hhost ']' (by decide)⟩
  · have hclose : ']' ∉ host := hhost ']' (by decide)
    exact ⟨'[' :: host ++ [']'], _, by simp, hport, bareHost_of_bracketed hclose,
      hhost '[' (by decide), hclose⟩

/-- What is left of the brackets is looked at last. -/
theorem hostOf_of_cutLast (h : Text.cutLast (· = ':') cs = some (front, port)) :
    hostOf cs = .ok host ↔
      bareHost cs front = .ok host ∧ '[' ∉ host ∧ ']' ∉ host ∧ ']' ∉ port := by
  rw [hostOf, h]
  dsimp only
  cases bareHost cs front with
  | error f => exact iff_of_false nofun nofun
  | ok found =>
    change (if _ then _ else _) = _ ↔ _
    split
    · rename_i hmarks
      refine iff_of_false nofun fun ⟨hfound, hopen, hclose, hport⟩ => ?_
      cases hfound
      simp [hopen, hclose, hport] at hmarks
    · rename_i hmarks
      simp only [Bool.or_eq_true, List.contains_iff_mem, not_or] at hmarks
      constructor
      · intro hok
        cases hok
        exact ⟨rfl, hmarks.1.1, hmarks.1.2, hmarks.2⟩
      · exact fun ⟨hok, _⟩ => hok

/-- **A host is found exactly in texts of the form of an address.** -/
theorem hostOf_eq_ok_iff : hostOf cs = .ok host ↔ IsAddress [':', ']'] host cs := by
  constructor
  · intro h
    cases hcut : Text.cutLast (· = ':') cs with
    | none =>
      rw [hostOf, hcut] at h
      cases h
    | some parts =>
      obtain ⟨front, port⟩ := parts
      obtain ⟨hbare, hopen, hclose, hport⟩ := (hostOf_of_cutLast hcut).1 h
      obtain ⟨rfl, hcolon⟩ := Text.cutLast_eq_some_iff.1 hcut
      have hmarks : ∀ c ∈ [':', ']'], c ∉ port := by simp [hcolon, hport]
      rcases exists_of_bareHost hbare with ⟨rfl, hfree⟩ | ⟨rfl, -⟩
      · exact .bare (by simp [hfree, hopen, hclose]) hmarks
      · rw [List.append_assoc]
        exact .bracketed (by simp [hopen, hclose]) hmarks
  · intro h
    obtain ⟨front, port, hcs, hport, hbare, hopen, hclose⟩ := h.exists_parts
    have hcut := Text.cutLast_eq_some_iff.2 ⟨hcs, hport ':' (by decide)⟩
    exact (hostOf_of_cutLast hcut).2 ⟨hbare, hopen, hclose, hport ']' (by decide)⟩

end Http

/-- **The grammar of addresses.** A host is found in an address exactly if the address is the host
and a port with a colon between them, where the host stands in brackets or has no colon, and neither
has a bracket of its own but for opening brackets in the port. Every other text is refused, with
what is wrong with it. -/
theorem address_grammar (address : String) :
    (∀ host : String, Http.splitHostPort address = .ok host ↔
      Http.IsAddress [':', ']'] host.toList address.toList) ∧
    ((∃ host, Http.splitHostPort address = .ok host) ∨
      ∃ f : Http.AddressFault, Http.splitHostPort address =
        .error (.host ("Cannot split host and port: " ++ f.message address))) := by
  have hok (host : String) : Http.splitHostPort address = .ok host ↔
      Http.hostOf address.toList = .ok host.toList := by
    unfold Http.splitHostPort
    cases Http.hostOf address.toList with
    | ok found => simp [String.ext_iff]
    | error f => exact iff_of_false nofun nofun
  refine ⟨fun host => (hok host).trans Http.hostOf_eq_ok_iff, ?_⟩
  unfold Http.splitHostPort
  cases Http.hostOf address.toList with
  | ok host => exact .inl ⟨_, rfl⟩
  | error f => exact .inr ⟨f, rfl⟩

/-- An opening bracket in the port is let through, though the address is not of the form that has
no bracket there. -/
theorem address_of_stray_bracket :
    Http.splitHostPort "a:[" = .ok "a" ∧
      ∀ host, ¬ Http.IsAddress [':', '[', ']'] host "a:[".toList := by
  refine ⟨by decide, fun host h => ?_⟩
  obtain ⟨front, port, hcs, hport, -⟩ := h.exists_parts
  have hcut := Text.cutLast_eq_some_iff.2 ⟨hcs, hport ':' (by decide)⟩
  have hlast : Text.cutLast (· = ':') "a:[".toList = some (['a'], ['[']) := by decide
  rw [hlast] at hcut
  cases hcut
  exact hport '[' (by decide) (by decide)

end WebScript
