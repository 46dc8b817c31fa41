import WebScript.Proofs.Loop
import WebScript.Proofs.Multipart.Truncation

/-!
# Positions in a body

A form is read along a position in its body: what stands there is looked at, the position moves
behind it, and the bytes between two positions are cut out. Bytes that the body does not have cannot
be cut out.

* `Cursor.slice`, `Cursor.find?`: cutting out, and searching from a position on.
* `Cursor.enter`, `Cursor.pass`: the start behind the first boundary, and what takes one part.
* `Cursor.startOf`: **a position stands for what is left behind it**, and so each step along
  positions has an equation, from `slice_startOf` to `pass_startOf`, with reading what is left.
* `Cursor.position_of_pass`: **every part moves the position on**, and not out of the body.
* `multipart_loop_is_safe_and_ends`: **nothing is cut out that is not there, and the reading ends**
  with the form or a fault.
-/

namespace WebScript

namespace Multipart

open Form

/-- Where reading along positions ends: at bytes that are not there, or with a result. -/
inductive Stop where
  | outOfBounds (first last : Nat)
  | result (r : Except MultipartFault Multipart)
  deriving DecidableEq

/-- The end with a fault of the body. -/
def Stop.fault (f : BodyFault) : Stop := .result (.error (.malformed f))

/-- Where the reading of a body is: between parts, behind a delimiter. -/
structure Cursor where
  delimiter : Bytes
  reading : Reading
  position : Nat

namespace Cursor

/-! ## Reading along positions -/

/-- The bytes from one position to another. The positions are in order and in the body. -/
def slice (body : Bytes) (i j : Nat) : Except Stop Bytes :=
  if i ≤ j ∧ j ≤ body.length then .ok ((body.take j).drop i) else .error (.outOfBounds i j)

/-- A word stands at a position. -/
def standsAt (body word : Bytes) (i : Nat) : Except Stop Bool :=
  word.isPrefixOf <$> slice body i body.length

/-- The position of the first occurrence of a word that does not begin before `i`. -/
def find? (body word : Bytes) (i : Nat) : Except Stop (Option Nat) :=
  if body.length < i ∨ word = [] then .ok none
  else (fun bs => (Bytes.offset? word bs).map (i + ·)) <$> slice body i body.length

/-- The position behind spaces and tabs. -/
def skipBlanks (body : Bytes) (i : Nat) : Nat :=
  match _h : body[i]? with
  | some b => if b = 32 || b = 9 then skipBlanks body (i + 1) else i
  | none => i
termination_by body.length - i
decreasing_by
  have hlt : i < body.length := (List.getElem?_eq_some_iff.1 _h).1
  omega

/-- The position behind the line break that ends a boundary line. -/
def behindLine (body : Bytes) (i : Nat) : Except Stop Nat := do
  let i := skipBlanks body i
  if ← standsAt body crlf i then pure (i + 2)
  else if ← standsAt body [10] i then pure (i + 1)
  else throw (.fault .boundaryLine)

/-- The bytes up to the next occurrence of a word, and the position behind it. -/
def upTo (word : Bytes) (fault : BodyFault) (body : Bytes) (i : Nat) :
    Except Stop (Bytes × Nat) := do
  match ← find? body word i with
  | none => throw (.fault fault)
  | some e => (·, e + word.length) <$> slice body i e

/-- The headers of a part, and the position behind the empty line that ends them. -/
def headersAt (body : Bytes) (i : Nat) : Except Stop (Bytes × Nat) := do
  if ← standsAt body crlf i then (·, i + 2) <$> slice body i i
  else upTo (crlf ++ crlf) .openHeaders body i

/-- Takes the part that stands at a position, or ends with the form at the last boundary. -/
def pass (body : Bytes) (c : Cursor) : Except Stop Cursor := do
  if ← standsAt body dashes c.position then throw (.result (.ok c.reading.form))
  else
    let i ← behindLine body c.position
    let (headers, i) ← headersAt body i
    let (content, i) ← upTo (crlf ++ c.delimiter) .openContent body i
    -- taking in a part is not about what follows it
    match c.reading.addPart ⟨headers, content, []⟩ with
    | .error f => throw (.result (.error f))
    | .ok reading => pure { c with reading := reading, position := i }

/-- The start, behind the first boundary. -/
def enter (contentType : String) (body : Bytes) (maxMemory : Nat) : Except Stop Cursor :=
  match boundary contentType with
  | .error f => .error (.result (.error f))
  | .ok b => do
    let delimiter := dashes ++ Bytes.ofText b
    match ← find? body delimiter 0 with
    | none => throw (.fault .noBoundary)
    | some i => pure ⟨delimiter, .start maxMemory, i + delimiter.length⟩

/-- Where the reading is after some parts. -/
def after (contentType : String) (body : Bytes) (maxMemory n : Nat) : Except Stop Cursor :=
  Loop.after (pass body) (enter contentType body maxMemory) n

/-! ## What is left behind a position -/

variable {body word front back r : Bytes}

/-- The position at which what is left of a body starts. -/
def startOf (body r : Bytes) : Nat := body.length - r.length

theorem startOf_append (front r : Bytes) : startOf (front ++ r) r = front.length := by
  rw [startOf, List.length_append, Nat.add_sub_cancel]

/-- Bytes taken away in front move the position on by as many. -/
theorem startOf_drop {n : Nat} (h : r <:+ body) (hn : n ≤ r.length) :
    startOf body (r.drop n) = startOf body r + n := by
  have hle : r.length ≤ body.length := h.length_le
  rw [startOf, startOf, List.length_drop]
  omega

theorem startOf_of_append (h : front ++ r <:+ body) :
    startOf body r = startOf body (front ++ r) + front.length := by
  have hdrop := startOf_drop h (List.length_append ▸ Nat.le_add_right front.length r.length)
  rwa [List.drop_left] at hdrop

theorem drop_startOf (h : r <:+ body) : body.drop (startOf body r) = r :=
  (List.suffix_iff_eq_drop.1 h).symm

/-- **What is left can be cut out** from its start on, as far as it goes. -/
theorem slice_startOf (h : front ++ back <:+ body) :
    slice body (startOf body (front ++ back)) (startOf body back) = .ok front := by
  obtain ⟨before, rfl⟩ := h
  have hback : startOf (before ++ (front ++ back)) back = (before ++ front).length := by
    rw [← List.append_assoc, startOf_append]
  rw [slice, hback, startOf_append, if_pos, ← List.append_assoc, List.take_left, List.drop_left]
  simp only [List.length_append]
  omega

theorem slice_rest (h : r <:+ body) : slice body (startOf body r) body.length = .ok r := by
  have hend : startOf body [] = body.length := Nat.sub_zero _
  have hr : r ++ [] <:+ body := by rwa [List.append_nil]
  have hslice := slice_startOf hr
  rwa [List.append_nil, hend] at hslice

theorem standsAt_startOf (h : r <:+ body) :
    standsAt body word (startOf body r) = .ok (word.isPrefixOf r) := by
  rw [standsAt, slice_rest h]
  rfl

theorem find?_startOf (h : r <:+ body) (hword : word ≠ []) :
    find? body word (startOf body r) =
      .ok ((Bytes.splitAt? word r).map fun p => startOf body r + p.1.length) := by
  have hle : startOf body r ≤ body.length := Nat.sub_le _ _
  rw [find?, if_neg (not_or.2 ⟨Nat.not_lt.2 hle, hword⟩), slice_rest h]
  change Except.ok ((Bytes.offset? word r).map (startOf body r + ·)) = _
  rw [Bytes.offset?_eq hword, Option.map_map]
  rfl

theorem skipBlanks_startOf (h : r <:+ body) :
    skipBlanks body (startOf body r) =
      startOf body (r.dropWhile fun b => b = 32 || b = 9) := by
  -- on what is left, as the position grows while that gets shorter
  induction r with
  | nil =>
    have hend : body[startOf body []]? = none := List.getElem?_eq_none (Nat.le_refl _)
    rw [skipBlanks]
    split
    · rename_i hb
      rw [hend] at hb
      cases hb
    · rfl
  | cons b r ih =>
    have hr : r <:+ body := (List.suffix_cons b r).trans h
    have hb : body[startOf body (b :: r)]? = some b := by
      rw [← List.head?_drop, drop_startOf h, List.head?_cons]
    have hnext : startOf body r = startOf body (b :: r) + 1 :=
      startOf_drop h (Nat.le_add_left 1 r.length)
    rw [skipBlanks]
    split
    · rename_i b' hb'
      obtain rfl : b = b' := Option.some.inj (hb.symm.trans hb')
      rw [← hnext, ih hr, List.dropWhile_cons]
      split <;> rfl
    · rename_i hnone
      rw [hb] at hnone
      cases hnone

/-! ## The pieces of a part -/

/-- The line break behind spaces and tabs is looked at as a word. -/
theorem afterBoundaryLine?_eq (bs : Bytes) :
    afterBoundaryLine? bs =
      let line := bs.dropWhile fun b => b = 32 || b = 9
      if crlf.isPrefixOf line then some (line.drop crlf.length)
      else if [10].isPrefixOf line then some (line.drop 1) else none := by
  unfold afterBoundaryLine?
  dsimp only
  split
  · rename_i rest heq
    rw [heq]
    rfl
  · rename_i rest heq
    rw [heq]
    rfl
  · rename_i hcrlf hlf
    rw [if_neg, if_neg]
    · rw [List.isPrefixOf_iff_prefix]
      exact fun ⟨rest, hrest⟩ => hlf rest hrest.symm
    · rw [List.isPrefixOf_iff_prefix]
      exact fun ⟨rest, hrest⟩ => hcrlf rest hrest.symm

theorem behindLine_startOf (h : r <:+ body) :
    behindLine body (startOf body r) =
      match afterBoundaryLine? r with
      | some rest => .ok (startOf body rest)
      | none => .error (.fault .boundaryLine) := by
  have hline : (r.dropWhile fun b => b = 32 || b = 9) <:+ body := (List.dropWhile_suffix _).trans h
  rw [afterBoundaryLine?_eq, behindLine, skipBlanks_startOf h]
  generalize (r.dropWhile fun b => b = 32 || b = 9) = line at hline ⊢
  simp only [standsAt_startOf hline, Result.ok_bind]
  by_cases hcrlf : crlf.isPrefixOf line = true
  · have hle : crlf.length ≤ line.length := (List.isPrefixOf_iff_prefix.1 hcrlf).length_le
    rw [if_pos hcrlf, if_pos hcrlf]
    exact congrArg Except.ok (startOf_drop hline hle).symm
  · rw [if_neg hcrlf, if_neg hcrlf]
    by_cases hlf : [10].isPrefixOf line = true
    · have hle : [(10 : UInt8)].length ≤ line.length := (List.isPrefixOf_iff_prefix.1 hlf).length_le
      rw [if_pos hlf, if_pos hlf]
      exact congrArg Except.ok (startOf_drop hline hle).symm
    · rw [if_neg hlf, if_neg hlf]
      rfl

theorem upTo_startOf {fault : BodyFault} (h : r <:+ body) (hword : word ≠ []) :
    upTo word fault body (startOf body r) =
      match Bytes.splitAt? word r with
      | some (front, rest) => .ok (front, startOf body rest)
      | none => .error (.fault fault) := by
  rw [upTo, find?_startOf h hword, Result.ok_bind]
  cases hsplit : Bytes.splitAt? word r with
  | none => rfl
  | some p =>
    obtain ⟨front, back⟩ := p
    obtain rfl : r = front ++ (word ++ back) := by
      rw [Bytes.eq_of_splitAt? hsplit, List.append_assoc]
    have hback : word ++ back <:+ body := (List.suffix_append front _).trans h
    -- the word stands where the bytes in front of it end, and is passed over
    rw [Option.map_some, ← startOf_of_append h]
    dsimp only
    rw [slice_startOf h]
    exact congrArg (fun i => Except.ok (front, i)) (startOf_of_append hback).symm

theorem headersAt_startOf (h : r <:+ body) :
    headersAt body (startOf body r) =
      match splitHeaders r with
      | .ok (headers, rest) => .ok (headers, startOf body rest)
      | .error f => .error (.fault f) := by
  rw [headersAt, standsAt_startOf h, Result.ok_bind]
  by_cases hcrlf : crlf <+: r
  · -- no headers at all
    obtain ⟨rest, rfl⟩ := hcrlf
    have hnil : slice body (startOf body (crlf ++ rest)) (startOf body (crlf ++ rest)) = .ok [] :=
      slice_startOf (show [] ++ (crlf ++ rest) <:+ body from h)
    rw [if_pos (List.isPrefixOf_iff_prefix.2 (List.prefix_append crlf rest)), hnil]
    exact congrArg (fun i => Except.ok ([], i)) (startOf_of_append h).symm
  · rw [if_neg (List.isPrefixOf_iff_prefix.not.2 hcrlf), upTo_startOf h (by decide),
      splitHeaders_of_not_crlf hcrlf]
    cases Bytes.splitAt? (crlf ++ crlf) r <;> rfl

/-! ## Parts -/

variable {c c' : Cursor}

/-- **A pass takes the next part** of what is left behind the position. -/
theorem pass_startOf (delimiter : Bytes) (s : Reading) (h : r <:+ body) :
    pass body ⟨delimiter, s, startOf body r⟩ =
      match nextPart (crlf ++ delimiter) r with
      | .error f => .error (.fault f)
      | .ok none => .error (.result (.ok s.form))
      | .ok (some p) =>
        match s.addPart p with
        | .error f => .error (.result (.error f))
        | .ok t => .ok ⟨delimiter, t, startOf body p.rest⟩ := by
  simp only [pass, standsAt_startOf h, Result.ok_bind]
  by_cases hd : dashes <+: r
  · have hpre : dashes.isPrefixOf r = true := List.isPrefixOf_iff_prefix.2 hd
    rw [if_pos hpre, nextPart, if_pos hpre]
    rfl
  · rw [if_neg (List.isPrefixOf_iff_prefix.not.2 hd), behindLine_startOf h]
    cases hline : afterBoundaryLine? r with
    | none =>
      rw [nextPart_of_no_line hd hline]
      rfl
    | some lines =>
      -- line, headers and content are taken from the front, each of what the one before leaves
      obtain ⟨line, rfl, -⟩ := afterBoundaryLine?_takes hline
      have hlines : lines <:+ body := (List.suffix_append line lines).trans h
      rw [nextPart_of_line hline, readPart, Result.ok_bind, headersAt_startOf hlines]
      cases hheaders : splitHeaders lines with
      | error f => rfl
      | ok q =>
        obtain ⟨head, hhead, -⟩ := splitHeaders_takes hheaders
        have hq : q.2 <:+ body := (hhead ▸ List.suffix_append head q.2).trans hlines
        rw [Result.ok_bind, Result.ok_bind, readContent, upTo_startOf hq (by simp [crlf])]
        cases hcontent : Bytes.splitAt? (crlf ++ delimiter) q.2 with
        | none => rfl
        | some content =>
          have hpart : s.addPart ⟨q.1, content.1, []⟩ =
              s.addPart ⟨q.1, content.1, content.2⟩ := rfl
          simp only [Result.ok_bind, hpart]
          cases s.addPart ⟨q.1, content.1, content.2⟩ <;> rfl

/-- The start is behind the first delimiter. -/
theorem enter_eq (contentType : String) (body : Bytes) (maxMemory : Nat) :
    enter contentType body maxMemory =
      match boundary contentType with
      | .error f => .error (.result (.error f))
      | .ok b =>
        match Bytes.splitAt? (dashes ++ Bytes.ofText b) body with
        | none => .error (.fault .noBoundary)
        | some (_, r) => .ok ⟨dashes ++ Bytes.ofText b, .start maxMemory, startOf body r⟩ := by
  unfold enter
  cases boundary contentType with
  | error f => rfl
  | ok b =>
    have hfirst := find?_startOf (List.suffix_refl body)
      (show dashes ++ Bytes.ofText b ≠ [] from List.cons_ne_nil _ _)
    rw [show startOf body body = 0 from Nat.sub_self _] at hfirst
    dsimp only
    rw [hfirst, Result.ok_bind]
    cases hsplit : Bytes.splitAt? (dashes ++ Bytes.ofText b) body with
    | none => rfl
    | some p =>
      obtain ⟨front, back⟩ := p
      have hback : startOf body back = 0 + front.length + (dashes ++ Bytes.ofText b).length := by
        rw [Bytes.eq_of_splitAt? hsplit, startOf_append, List.length_append, Nat.zero_add]
      dsimp only [Option.map_some]
      rw [hback]
      rfl

/-! ## The loop -/

/-- What is left of a body behind a cursor. -/
def rest (body : Bytes) (c : Cursor) : Bytes := body.drop c.position

/-- What the parts behind a cursor come to, with what was read before. -/
def outcome (body : Bytes) (c : Cursor) : Except MultipartFault Multipart :=
  readParts (crlf ++ c.delimiter) c.reading (c.rest body)

/-- A pass from a position in the body takes the part that is left behind it. -/
theorem pass_eq (hc : c.position ≤ body.length) :
    pass body c =
      match nextPart (crlf ++ c.delimiter) (c.rest body) with
      | .error f => .error (.fault f)
      | .ok none => .error (.result (.ok c.reading.form))
      | .ok (some p) =>
        match c.reading.addPart p with
        | .error f => .error (.result (.error f))
        | .ok t => .ok ⟨c.delimiter, t, startOf body p.rest⟩ := by
  have hrest : body.drop c.position <:+ body := List.drop_suffix _ _
  have hstart : startOf body (body.drop c.position) = c.position := by
    rw [startOf_drop (List.suffix_refl body) hc, startOf, Nat.sub_self, Nat.zero_add]
  have hpass := pass_startOf c.delimiter c.reading hrest
  rwa [hstart] at hpass

/-- **A pass that goes on** has taken a part: the position has moved on and not out of the body, and
what is left comes to the same. -/
theorem position_of_pass (hc : c.position ≤ body.length) (h : pass body c = .ok c') :
    c'.position ≤ body.length ∧ c.position < c'.position ∧
      c'.outcome body = c.outcome body := by
  rw [pass_eq hc] at h
  split at h
  · cases h
  · cases h
  · rename_i p hp
    split at h
    · cases h
    · rename_i t ht
      cases h
      obtain ⟨taken, htaken, -⟩ := nextPart_takes hp
      have hrest : p.rest <:+ body :=
        (htaken ▸ List.suffix_append taken p.rest).trans (List.drop_suffix c.position body)
      have hlt : p.rest.length < body.length - c.position :=
        List.length_drop ▸ length_rest_lt hp
      refine ⟨Nat.sub_le _ _, Nat.lt_sub_of_add_lt (by omega), ?_⟩
      rw [outcome, outcome, rest, drop_startOf hrest]
      exact (readParts_of_part hp ht).symm

/-- A pass that does not go on has the outcome for its result. -/
theorem result_of_pass {stop : Stop} (hc : c.position ≤ body.length)
    (h : pass body c = .error stop) : stop = .result (c.outcome body) := by
  rw [pass_eq hc] at h
  split at h
  · rename_i f hf
    cases h
    rw [outcome, readParts_of_error hf, Stop.fault]
  · rename_i hnone
    cases h
    rw [outcome, readParts_of_none hnone]
  · rename_i p hp
    split at h
    · rename_i f hf
      cases h
      rw [outcome, readParts_of_some hp, hf]
      rfl
    · cases h

/-- Between parts the position is in the body. -/
theorem position_le {contentType : String} {maxMemory n : Nat}
    (h : after contentType body maxMemory n = .ok c) : c.position ≤ body.length := by
  refine Loop.after_induction (I := fun c => c.position ≤ body.length) ?_ ?_ h
  · intro c hc
    rw [enter_eq] at hc
    split at hc
    · cases hc
    · split at hc
      · cases hc
      · cases hc
        exact Nat.sub_le _ _
  · exact fun c c' hc hpass => (position_of_pass hc hpass).1

/-- **From a position in the body the reading ends**, after no more parts than it has bytes left. -/
theorem exists_ended_of_position (hc : c.position ≤ body.length) :
    ∃ n ≤ body.length - c.position + 1,
      Loop.after (pass body) (.ok c) n = .error (.result (c.outcome body)) := by
  refine Loop.exists_ended (fun c : Cursor => c.position ≤ body.length)
    (fun c => body.length - c.position) (fun c => Stop.result (c.outcome body)) ?_ ?_ hc
  · intro c c' hc hpass
    obtain ⟨hc', hlt, houtcome⟩ := position_of_pass hc hpass
    exact ⟨hc', by omega, congrArg Stop.result houtcome⟩
  · exact fun c stop hc hpass => result_of_pass hc hpass

/-- **Reading along positions ends**, after no more parts than the body has bytes, with what the
form comes to. -/
theorem exists_ended (contentType : String) (body : Bytes) (maxMemory : Nat) :
    ∃ n ≤ body.length,
      after contentType body maxMemory n = .error (.result (parse contentType body maxMemory)) := by
  unfold after parse
  rw [enter_eq]
  cases boundary contentType with
  | error f => exact ⟨0, Nat.zero_le _, rfl⟩
  | ok b =>
    dsimp only
    cases hsplit : Bytes.splitAt? (dashes ++ Bytes.ofText b) body with
    | none => exact ⟨0, Nat.zero_le _, rfl⟩
    | some p =>
      obtain ⟨front, back⟩ := p
      have hbody := Bytes.eq_of_splitAt? hsplit
      have hback : back <:+ body := hbody ▸ List.suffix_append _ back
      -- a delimiter has bytes, so the last pass is paid for by what stands in front
      have hshort : back.length + 1 ≤ body.length := by
        rw [hbody, List.length_append, List.length_append, List.length_append]
        have hdashes : dashes.length = 2 := rfl
        omega
      obtain ⟨n, hn, hended⟩ := exists_ended_of_position
        (c := ⟨dashes ++ Bytes.ofText b, .start maxMemory, startOf body back⟩) (Nat.sub_le _ _)
      refine ⟨n, ?_, ?_⟩
      · have hleft : body.length - startOf body back = back.length :=
          Nat.sub_sub_self hback.length_le
        dsimp only at hn
        omega
      · rw [hended, outcome, rest, drop_startOf hback]

end Cursor

end Multipart

open Multipart

/-- **Reading a form along positions in its body is safe and ends.** Between parts the position is
in the body, and every part moves it on, be it named or not. No slice is cut out whose ends are not
in order and in the body. After no more parts than the body has bytes, there is the form or a
fault. -/
theorem multipart_loop_is_safe_and_ends (contentType : String) (body : Bytes) (maxMemory : Nat) :
    (∀ n c, Cursor.after contentType body maxMemory n = .ok c →
      c.position ≤ body.length ∧
      ∀ c', Cursor.after contentType body maxMemory (n + 1) = .ok c' → c.position < c'.position) ∧
    (∀ n i j, Cursor.after contentType body maxMemory n ≠ .error (.outOfBounds i j)) ∧
    ∃ n ≤ body.length, Cursor.after contentType body maxMemory n =
      .error (.result (parse contentType body maxMemory)) := by
  obtain ⟨m, hm, hended⟩ := Cursor.exists_ended contentType body maxMemory
  refine ⟨fun n c hc => ⟨Cursor.position_le hc, ?_⟩, ?_, m, hm, hended⟩
  · intro c' hc'
    obtain ⟨c₀, hc₀, hpass⟩ := Loop.after_succ_eq_ok_iff.1 hc'
    obtain rfl : c = c₀ := Except.ok.inj (hc.symm.trans hc₀)
    exact (Cursor.position_of_pass (Cursor.position_le hc) hpass).2.1
  · intro n i j hout
    -- it ends in one way only, and that is the one with a result
    cases Loop.eq_of_ended hout hended

/-- A part without a name is passed over, and so moves the position on as any other does. -/
theorem multipart_loop_passes_unnamed_part :
    let contentType := "multipart/form-data; boundary=b"
    let body := Bytes.ofText "--b \t\r\nA: 1\r\n\r\nlost\r\n--b\n\r\n\r\n--b--"
    (∃ c c', Cursor.after contentType body 0 1 = .ok c ∧
      Cursor.after contentType body 0 2 = .ok c' ∧
      c.position < c'.position ∧ c'.position ≤ body.length) ∧
    ∃ n ≤ body.length, Cursor.after contentType body 0 n = .error (.result (.ok .empty)) := by
  intro contentType body
  have hfirst : (Cursor.after contentType body 0 1).isOk = true := by decide +kernel
  have hsecond : (Cursor.after contentType body 0 2).isOk = true := by decide +kernel
  have hread : parse contentType body 0 = .ok .empty := by decide +kernel
  obtain ⟨c, hc⟩ := Result.isOk_iff.1 hfirst
  obtain ⟨c', hc'⟩ := Result.isOk_iff.1 hsecond
  obtain ⟨hwithin, -, n, hn, hended⟩ := multipart_loop_is_safe_and_ends contentType body 0
  exact ⟨⟨c, c', hc, hc', (hwithin 1 c hc).2 c' hc', (hwithin 2 c' hc').1⟩, n, hn, hread ▸ hended⟩

end WebScript
