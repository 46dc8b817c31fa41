import WebScript.Form.Urlencoded
import WebScript.Proofs.Fields
import WebScript.Proofs.Text
import WebScript.Proofs.Utf8

/-!
# Reading back urlencoded forms

* `decodeOnto_encodeByte`: a byte is read from what was written for it, whatever follows.
* `mem_encode`: what is written is ASCII and holds no separator.
* `decodePairs_intercalate`: **pairs are read back**, in order, empty ones among them.
* `Fields.urlencodeBytes_inj`: different fields are written differently.
* `urlencoded_round_trip`: **fields are read back** from what was written for them.
-/

namespace WebScript

namespace Form.Urlencoded

/-! ## Bytes -/

/-- A byte that is written as it is begins no escape and is no plus. -/
theorem decodeOnto_cons_of_plain {b : UInt8} (h : isPlain b = true) (done r : Bytes) :
    decodeOnto done (b :: r) = decodeOnto (b :: done) r := by
  have hplus : b ≠ 43 := by
    rintro rfl
    cases h
  have hpercent : b ≠ 37 := by
    rintro rfl
    cases h
  rw [decodeOnto]
  · exact hplus
  · exact fun _ _ _ he _ => hpercent he

/-- **A byte is read from what was written for it**, whatever follows. -/
theorem decodeOnto_encodeByte (b : UInt8) (done r : Bytes) :
    decodeOnto done (encodeByte b ++ r) = decodeOnto (b :: done) r := by
  unfold encodeByte
  split
  · rename_i hplain
    exact decodeOnto_cons_of_plain hplain done r
  · split
    · rename_i hspace
      rw [hspace]
      rfl
    · change decodeOnto done (37 :: _ :: _ :: r) = _
      rw [decodeOnto, Text.Hex.byte?_digits]

theorem decodeOnto_encode (done bs : Bytes) :
    decodeOnto done (encode bs) = done.reverse ++ bs := by
  induction bs generalizing done with
  | nil => exact (List.append_nil _).symm
  | cons b bs ih =>
    have hcons : encode (b :: bs) = encodeByte b ++ encode bs := List.flatMap_cons
    rw [hcons, decodeOnto_encodeByte, ih, List.reverse_cons, List.append_assoc,
      List.singleton_append]

/-- Any bytes are read back. -/
theorem decode_encode (bs : Bytes) : decode (encode bs) = bs := decodeOnto_encode [] bs

/-- What is written for a byte is ASCII and separates nothing. -/
theorem mem_encodeByte {b c : UInt8} (h : c ∈ encodeByte b) :
    c.toNat < 0x80 ∧ c ≠ 38 ∧ c ≠ 61 := by
  -- through `List.all`, as a quantifier over members may be decided by trying every byte
  have hall : ∀ n : Fin 256,
      (encodeByte (UInt8.ofFin n)).all fun c => c.toNat < 0x80 ∧ c ≠ 38 ∧ c ≠ 61 := by
    decide +kernel
  exact of_decide_eq_true (List.all_eq_true.1 (hall b.toFin) c h)

theorem mem_encode {bs : Bytes} {c : UInt8} (h : c ∈ encode bs) :
    c.toNat < 0x80 ∧ c ≠ 38 ∧ c ≠ 61 := by
  obtain ⟨b, -, hc⟩ := List.mem_flatMap.1 h
  exact mem_encodeByte hc

/-! ## Pairs -/

variable {p : String × String} {ps : List (String × String)} {c : UInt8}

/-- What is written for a pair is ASCII and holds no ampersand. -/
theorem mem_encodePair (h : c ∈ encodePair p) : c.toNat < 0x80 ∧ c ≠ 38 := by
  rw [encodePair, List.mem_append, List.mem_cons] at h
  rcases h with h | rfl | h
  · exact ⟨(mem_encode h).1, (mem_encode h).2.1⟩
  · exact ⟨by decide, by decide⟩
  · exact ⟨(mem_encode h).1, (mem_encode h).2.1⟩

theorem mem_intercalate (h : c ∈ [38].intercalate (ps.map encodePair)) : c.toNat < 0x80 := by
  rcases Text.of_mem_intercalate h with rfl | ⟨pair, hpair, hc⟩
  · decide
  · obtain ⟨p, -, rfl⟩ := List.mem_map.1 hpair
    exact (mem_encodePair hc).1

/-- **A pair is read back.** It is cut at its first equals sign, and neither part holds one. -/
theorem decodePair_encodePair (p : String × String) : decodePair (encodePair p) = p := by
  have hname : ∀ b ∈ encode (Bytes.ofText p.1), decide (b ≠ 61) = true := by
    intro b hb
    exact decide_eq_true (mem_encode hb).2.2
  have htake : (encodePair p).takeWhile (· ≠ 61) = encode (Bytes.ofText p.1) := by
    rw [encodePair, List.takeWhile_append_of_pos hname]
    simp
  have hdrop : (encodePair p).dropWhile (· ≠ 61) = 61 :: encode (Bytes.ofText p.2) := by
    rw [encodePair, List.dropWhile_append_of_pos hname]
    simp
  rw [decodePair, htake, hdrop, List.drop_succ_cons, List.drop_zero, decode_encode, decode_encode,
    Bytes.toText_ofText, Bytes.toText_ofText]

/-- **Pairs are read back**, in order. A pair of empty texts is one of them: it is written as an
equals sign, and not as nothing. -/
theorem decodePairs_intercalate (ps : List (String × String)) :
    decodePairs ([38].intercalate (ps.map encodePair)) = ps := by
  cases ps with
  | nil => rfl
  | cons p ps =>
    have hsep : ∀ l ∈ (p :: ps).map encodePair, (38 : UInt8) ∉ l := by
      intro l hl hm
      obtain ⟨q, -, rfl⟩ := List.mem_map.1 hl
      exact (mem_encodePair hm).2 rfl
    have hne : ((p :: ps).map encodePair).filter (! ·.isEmpty) = (p :: ps).map encodePair := by
      rw [List.filter_eq_self]
      intro l hl
      obtain ⟨q, -, rfl⟩ := List.mem_map.1 hl
      simp [encodePair]
    rw [decodePairs, List.splitOn_intercalate 38 hsep (by simp), hne, List.map_map]
    exact List.map_id'' decodePair_encodePair (p :: ps)

end Form.Urlencoded

namespace Fields

open Form.Urlencoded

/-- What is written is ASCII, so text and bytes are the same. -/
theorem ofText_urlencode (f : Fields) : Bytes.ofText f.urlencode = f.urlencodeBytes :=
  Bytes.ofText_toText fun _ hb => mem_intercalate hb

/-- What is read of written fields is each value with its name. -/
theorem decodePairs_urlencode (f : Fields) :
    decodePairs (Bytes.ofText f.urlencode) = f.toPairs := by
  rw [ofText_urlencode, urlencodeBytes, decodePairs_intercalate]

/-- **Different fields are written differently.** -/
theorem urlencodeBytes_inj {f g : Fields} : f.urlencodeBytes = g.urlencodeBytes ↔ f = g := by
  refine ⟨fun h => ?_, congrArg _⟩
  have hpairs : f.toPairs = g.toPairs := by
    rw [← decodePairs_urlencode, ofText_urlencode, h, ← ofText_urlencode, decodePairs_urlencode]
  rw [← f.ofPairs_toPairs, hpairs, g.ofPairs_toPairs]

end Fields

/-- **Fields are read back from what was written for them**, whatever characters their names and
values hold, with the order of the names and that of the values of each name. So writing and
reading what has been read of any text gives the same once more, even where a name came back in
between others. -/
theorem urlencoded_round_trip :
    (∀ f : Fields, Fields.ofUrlencoded f.urlencode = f) ∧
    ∀ s : String, Fields.ofUrlencoded (Fields.ofUrlencoded s).urlencode = .ofUrlencoded s := by
  have hread (f : Fields) : Fields.ofUrlencoded f.urlencode = f := by
    rw [Fields.ofUrlencoded, f.decodePairs_urlencode, f.ofPairs_toPairs]
  exact ⟨hread, fun s => hread (.ofUrlencoded s)⟩

/-- The values of a name come together, and empty texts are kept. -/
example : (Fields.ofUrlencoded "=&a+b=%26&=c").urlencode = "=&=c&a+b=%26" := by decide +kernel

end WebScript
