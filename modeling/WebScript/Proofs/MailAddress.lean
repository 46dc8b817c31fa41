import WebScript.Proofs.Text
import WebScript.Validator

/-!
# Which texts are mail addresses

The check on mail addresses cuts a text at its last at sign and looks for characters, words and
lengths in the parts. What it lets through is a grammar: atoms between dots, an at sign, and labels
between dots.

* `Check.IsMailAddress`: the grammar.
* `Check.isLocalPart_iff`: **a local part is accepted exactly if it is atoms between dots**, as an
  empty atom is a dot at an end or two in a row.
* `Check.isDomain_iff`: a domain is accepted exactly if it is labels between dots.
* `email_grammar`: **the check accepts exactly the texts of the grammar.**
-/

namespace WebScript

namespace Check

variable {cs : List Char}

/-! ## The grammar -/

/-- Words with dots between them. -/
def dotted (words : List (List Char)) : List Char := ['.'].intercalate words

/-- A character of an atom: an ASCII letter, a digit or one of the marks. -/
def IsAtomChar (c : Char) : Prop :=
  c.isAlphanum = true ∨ c ∈ "!#$%&'*+/=?^_\x60\x7b|\x7d~-".toList

instance (c : Char) : Decidable (IsAtomChar c) := inferInstanceAs (Decidable (_ ∨ _))

/-- An atom: at least one character. -/
structure IsAtom (cs : List Char) : Prop where
  ne_nil : cs ≠ []
  chars : ∀ c ∈ cs, IsAtomChar c

/-- **What stands before the at sign**: one atom or more between dots, in at most 64 bytes. -/
structure IsLocal (cs : List Char) : Prop where
  atoms : ∃ atoms, atoms ≠ [] ∧ (∀ a ∈ atoms, IsAtom a) ∧ cs = dotted atoms
  size : (String.ofList cs).utf8ByteSize ≤ 64

/-- A label: 1 to 63 ASCII letters, digits and hyphens, with no hyphen at either end. -/
structure IsDomainLabel (cs : List Char) : Prop where
  ne_nil : cs ≠ []
  length_le : cs.length ≤ 63
  chars : ∀ c ∈ cs, c.isAlphanum = true ∨ c = '-'
  first : cs.head? ≠ some '-'
  last : cs.getLast? ≠ some '-'

/-- **What stands behind the at sign**: two labels or more between dots, of which the last has
letters alone, and at least two of them. -/
def IsDomainName (cs : List Char) : Prop :=
  ∃ labels top, labels ≠ [] ∧ (∀ l ∈ labels ++ [top], IsDomainLabel l) ∧
    2 ≤ top.length ∧ (∀ c ∈ top, c.isAlpha = true) ∧ cs = dotted (labels ++ [top])

/-- **A mail address.** -/
def IsMailAddress (cs : List Char) : Prop :=
  ∃ front domain, cs = front ++ '@' :: domain ∧ IsLocal front ∧ IsDomainName domain

/-! ## Words between dots -/

theorem dotted_splitOn (cs : List Char) : dotted (cs.splitOn '.') = cs :=
  List.intercalate_splitOn '.'

theorem splitOn_dotted {words : List (List Char)} (hne : words ≠ []) (h : ∀ w ∈ words, '.' ∉ w) :
    (dotted words).splitOn '.' = words :=
  List.splitOn_intercalate '.' h hne

theorem of_mem_splitOn_dot {word : List Char} (h : word ∈ cs.splitOn '.') :
    ∀ c ∈ word, c ∈ cs ∧ c ≠ '.' := by
  rw [List.splitOn_eq_splitOnP] at h
  intro c hc
  obtain ⟨hmem, hdot⟩ := Text.of_mem_splitOnP h c hc
  exact ⟨hmem, by simpa using hdot⟩

/-! ## Characters -/

theorem isLocalChar_iff {c : Char} : isLocalChar c = true ↔ c = '.' ∨ IsAtomChar c := by
  have hmarks : "!#$%&'*+/=?^_\x60\x7b|\x7d~.-".toList.Perm
      ('.' :: "!#$%&'*+/=?^_\x60\x7b|\x7d~-".toList) := by decide
  rw [isLocalChar, Bool.or_eq_true, List.contains_iff_mem, hmarks.mem_iff, List.mem_cons,
    IsAtomChar, or_left_comm]

theorem toNat_lt_of_isLocalChar {c : Char} (h : isLocalChar c = true) : c.toNat < 128 := by
  rw [isLocalChar, Bool.or_eq_true, List.contains_iff_mem] at h
  rcases h with h | h
  · have hbounds := Text.toNat_of_isAlphanum h
    omega
  · have hmarks : "!#$%&'*+/=?^_\x60\x7b|\x7d~.-".toList.all (·.toNat < 128) := by decide
    exact of_decide_eq_true (List.all_eq_true.1 hmarks c h)

/-- A text of ASCII characters has a byte for each. -/
theorem utf8ByteSize_of_ascii (h : ∀ c ∈ cs, c.toNat < 128) :
    (String.ofList cs).utf8ByteSize = cs.length := by
  induction cs with
  | nil => rfl
  | cons c cs ih =>
    have hc : c.utf8Size = 1 := by
      rw [Char.utf8Size_eq_one_iff, UInt32.le_iff_toNat_le]
      exact Nat.le_of_lt_succ (h c List.mem_cons_self)
    rw [String.ofList_cons, String.utf8ByteSize_append, String.utf8ByteSize_singleton, hc,
      ih fun d hd => h d (List.mem_cons_of_mem c hd), List.length_cons, Nat.add_comm]

/-! ## The parts -/

/-- What is looked for are empty words. -/
theorem isLocalPart_eq : isLocalPart cs = true ↔
    [] ∉ cs.splitOn '.' ∧ cs.length ≤ 64 ∧ ∀ c ∈ cs, isLocalChar c = true := by
  have hword : Text.hasWord ['.', '.'] cs = false ↔ ¬ ['.', '.'] <:+: cs := by
    rw [Text.hasWord, Option.isSome_eq_false_iff, Option.isNone_iff_eq_none,
      Text.after?_eq_none_iff]
  simp only [isLocalPart, Bool.and_eq_true, Bool.not_eq_true', List.isEmpty_eq_false_iff,
    decide_eq_true_eq, bne_iff_ne, List.all_eq_true, hword, Text.nil_mem_splitOn_iff, not_or]
  constructor
  · rintro ⟨⟨⟨⟨⟨hne, hlen⟩, hfirst⟩, hlast⟩, hchars⟩, hdots⟩
    exact ⟨⟨hne, hfirst, hlast, hdots⟩, hlen, hchars⟩
  · rintro ⟨⟨hne, hfirst, hlast, hdots⟩, hlen, hchars⟩
    exact ⟨⟨⟨⟨⟨hne, hlen⟩, hfirst⟩, hlast⟩, hchars⟩, hdots⟩

/-- **A local part is accepted exactly if it is atoms between dots.** -/
theorem isLocalPart_iff : isLocalPart cs = true ↔ IsLocal cs := by
  rw [isLocalPart_eq]
  constructor
  · rintro ⟨hne, hlen, hchars⟩
    have hatoms : ∀ a ∈ cs.splitOn '.', IsAtom a := by
      intro a ha
      refine ⟨fun hnil => hne (hnil ▸ ha), fun c hc => ?_⟩
      obtain ⟨hmem, hdot⟩ := of_mem_splitOn_dot ha c hc
      exact (isLocalChar_iff.1 (hchars c hmem)).resolve_left hdot
    refine ⟨⟨cs.splitOn '.', List.splitOn_ne_nil '.' cs, hatoms, (dotted_splitOn cs).symm⟩, ?_⟩
    rw [utf8ByteSize_of_ascii fun c hc => toNat_lt_of_isLocalChar (hchars c hc)]
    exact hlen
  · rintro ⟨⟨atoms, hne, hatoms, rfl⟩, hsize⟩
    -- no atom has a dot in it, so the text falls into the same atoms again
    have hdot : ∀ a ∈ atoms, '.' ∉ a := by
      intro a ha hmem
      exact absurd ((hatoms a ha).chars '.' hmem) (by decide)
    have hchars : ∀ c ∈ dotted atoms, isLocalChar c = true := by
      intro c hc
      rw [isLocalChar_iff]
      rcases Text.of_mem_intercalate hc with h | ⟨a, ha, hmem⟩
      · exact .inl h
      · exact .inr ((hatoms a ha).chars c hmem)
    rw [utf8ByteSize_of_ascii fun c hc => toNat_lt_of_isLocalChar (hchars c hc)] at hsize
    refine ⟨?_, hsize, hchars⟩
    rw [splitOn_dotted hne hdot]
    exact fun hnil => (hatoms [] hnil).ne_nil rfl

theorem isLabel_iff : isLabel cs = true ↔ IsDomainLabel cs := by
  simp only [isLabel, Bool.and_eq_true, Bool.not_eq_true', List.isEmpty_eq_false_iff,
    decide_eq_true_eq, bne_iff_ne, List.all_eq_true, Bool.or_eq_true, beq_iff_eq]
  constructor
  · rintro ⟨⟨⟨⟨hne, hlen⟩, hfirst⟩, hlast⟩, hchars⟩
    exact ⟨hne, hlen, hchars, hfirst, hlast⟩
  · rintro ⟨hne, hlen, hchars, hfirst, hlast⟩
    exact ⟨⟨⟨⟨hne, hlen⟩, hfirst⟩, hlast⟩, hchars⟩

theorem isTopLabel_iff :
    isTopLabel cs = true ↔ 2 ≤ cs.length ∧ ∀ c ∈ cs, c.isAlpha = true := by
  rw [isTopLabel, Bool.and_eq_true, List.all_eq_true, decide_eq_true_eq, and_comm]

/-- **A domain is accepted exactly if it is labels between dots.** -/
theorem isDomain_iff : isDomain cs = true ↔ IsDomainName cs := by
  simp only [isDomain, Bool.and_eq_true, decide_eq_true_eq, List.all_eq_true, isLabel_iff]
  constructor
  · rintro ⟨⟨hlen, hlabels⟩, htop⟩
    obtain ⟨top, hlast, htop⟩ := (Option.any_eq_true ..).1 htop
    obtain ⟨labels, hsplit⟩ := List.getLast?_eq_some_iff.1 hlast
    rw [hsplit] at hlen hlabels
    -- the last of the labels is told apart
    obtain ⟨hshort, hletters⟩ := isTopLabel_iff.1 htop
    refine ⟨labels, top, ?_, hlabels, hshort, hletters, ?_⟩
    · rintro rfl
      simp at hlen
    · rw [← hsplit, dotted_splitOn]
  · rintro ⟨labels, top, hne, hlabels, hshort, hletters, rfl⟩
    have hdot : ∀ l ∈ labels ++ [top], '.' ∉ l := by
      intro l hl hmem
      exact absurd ((hlabels l hl).chars '.' hmem) (by decide)
    rw [splitOn_dotted (by simp) hdot]
    refine ⟨⟨?_, hlabels⟩, ?_⟩
    · have hpos := List.length_pos_iff.2 hne
      rw [List.length_append, List.length_singleton]
      omega
    · rw [List.getLast?_concat, Option.any_some, isTopLabel_iff]
      exact ⟨hshort, hletters⟩

/-- A domain has no at sign. -/
theorem IsDomainName.not_mem (h : IsDomainName cs) : '@' ∉ cs := by
  obtain ⟨labels, top, -, hlabels, -, -, rfl⟩ := h
  intro hmem
  rcases Text.of_mem_intercalate hmem with h | ⟨l, hl, hmem⟩
  · exact absurd h (by decide)
  · exact absurd ((hlabels l hl).chars '@' hmem) (by decide)

theorem isEmail_iff {s : String} : isEmail s = true ↔ IsMailAddress s.toList := by
  unfold isEmail
  cases hcut : Text.cutLast (· = '@') s.toList with
  | none =>
    refine iff_of_false Bool.false_ne_true ?_
    rintro ⟨front, domain, hs, -⟩
    have hnone := Text.of_cutLast_eq_none hcut '@' (by simp [hs])
    exact absurd hnone (by decide)
  | some parts =>
    obtain ⟨front, domain⟩ := parts
    obtain ⟨hs, hat⟩ := Text.cutLast_eq_some_iff.1 hcut
    change (isLocalPart front && isDomain domain) = true ↔ _
    rw [Bool.and_eq_true, isLocalPart_iff, isDomain_iff]
    constructor
    · exact fun ⟨hfront, hdomain⟩ => ⟨front, domain, hs, hfront, hdomain⟩
    · -- the at sign in front of a domain is the last one
      rintro ⟨front', domain', hs', hfront, hdomain⟩
      have hcut' := Text.cutLast_eq_some_iff.2 ⟨hs', hdomain.not_mem⟩
      rw [hcut] at hcut'
      cases hcut'
      exact ⟨hfront, hdomain⟩

end Check

/-- **The grammar of mail addresses.** A script that asks for the check on mail addresses is answered
for every text, and told yes exactly of these: an at sign, in front of it at most 64 bytes of
non-empty atoms with dots between them, and behind it two or more labels with dots between them, of
which the last is two letters or more. -/
theorem email_grammar (k : Validator) (s : String) :
    ∃ accepted : Bool,
      k.call "validate" [.string "IsEmail", .string s] = .ok [.bool accepted] ∧
      (accepted = true ↔ Check.IsMailAddress s.toList) :=
  ⟨Check.isEmail s, rfl, Check.isEmail_iff⟩

end WebScript
