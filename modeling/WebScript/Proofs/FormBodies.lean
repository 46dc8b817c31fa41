import WebScript.Proofs.Outbound
import WebScript.Proofs.Tables
import WebScript.Proofs.Urlencoded

/-!
# Tables as bodies of requests

A table is sent as a form in two ways. `postForm` reads it as fields, of which a sequence is several
values of one name. `request` sets each name to the text that its entry shows, which for any table is
the word `table`. So the two send the same exactly for entries of which that is the one text.

* `Value.texts`: what an entry is as values of a field.
* `Table.toList_toFields`: **the fields of a table**, entry by entry.
* `ClientConfig.toList_setFields`: the fields that `request` makes of it.
* `form_bodies_agree_iff`: **the bodies are the same exactly if each entry is the one text that it
  shows**; of fields as a table, exactly if each name has one value.
* `request_body_of_sequence`: of two values of a name neither is sent.
-/

namespace WebScript

open Result

/-- **The values of a field** that an entry stands for: the text of a scalar, or those of the scalars
of a sequence. -/
def Value.texts : Value → List String
  | .table t => (t.sequence?.getD []).map display
  | v => [v.display]

namespace Fields

variable {ps : List (String × List String)}

/-- New names come last with their values, but for those that have none. -/
theorem toList_foldl_add_filter (f : Fields) (hn : (f.entries.keys ++ ps.map (·.1)).Nodup) :
    (ps.foldl (fun g p => p.2.foldl (·.add p.1 ·) g) f).toList =
      f.toList ++ ps.filter (·.2 ≠ []) := by
  have hskip : ps.foldl (fun g p => p.2.foldl (·.add p.1 ·) g) f =
      (ps.filter (·.2 ≠ [])).foldl (fun g p => p.2.foldl (·.add p.1 ·) g) f := by
    rw [List.foldl_filter]
    congr 1
    funext g p
    by_cases hp : p.2 = []
    · simp [hp]
    · simp [hp]
  have hsub : (f.entries.keys ++ (ps.filter (·.2 ≠ [])).map (·.1)).Sublist
      (f.entries.keys ++ ps.map (·.1)) :=
    (List.Sublist.refl _).append (List.filter_sublist.map _)
  rw [hskip]
  refine f.toList_foldl_add (hn.sublist hsub) fun p hp => ?_
  simpa using (List.mem_filter.1 hp).2

theorem entries_foldl_set (f : Fields) (ps : List (String × String)) :
    (ps.foldl (fun g p => g.set p.1 p.2) f).entries =
      ps.foldl (fun m p => m.insert p.1 [p.2]) f.entries := by
  induction ps generalizing f with
  | nil => rfl
  | cons p ps ih => exact ih _

/-- New names that are set come last, with one value each. -/
theorem toList_foldl_set (f : Fields) {ps : List (String × String)}
    (hn : (f.entries.keys ++ ps.map (·.1)).Nodup) :
    (ps.foldl (fun g p => g.set p.1 p.2) f).toList = f.toList ++ ps.map fun p => (p.1, [p.2]) := by
  have hnew : (f.entries.keys ++ (ps.map fun p => (p.1, [p.2])).map (·.1)).Nodup := by
    rw [List.map_map]
    exact hn
  have hinsert := OrderedMap.entries_foldl_insert f.entries hnew
  rw [List.foldl_map, ← entries_foldl_set] at hinsert
  exact hinsert

end Fields

namespace Table

variable {name : String} {v : Value} {ss : List String} {f g : Fields} {t : Table}
  {es : List (Key × Value)}

theorem eq_display_of_scalarText {s : String} (h : scalarText name v = .ok s) : s = v.display := by
  unfold scalarText at h
  split at h <;> cases h <;> rfl

theorem eq_map_of_mapM_scalarText {vs : List Value} (h : vs.mapM (scalarText name) = .ok ss) :
    ss = vs.map Value.display := by
  induction vs generalizing ss with
  | nil =>
    cases h
    rfl
  | cons v vs ih =>
    rw [List.mapM_cons] at h
    obtain ⟨s, hs, h⟩ := bind_eq_ok_iff.1 h
    obtain ⟨ss, hss, h⟩ := bind_eq_ok_iff.1 h
    cases h
    rw [List.map_cons, eq_display_of_scalarText hs, ih hss]

theorem eq_texts_of_entryTexts (h : entryTexts name v = .ok ss) : ss = v.texts := by
  cases v with
  | table t =>
    rw [entryTexts] at h
    rw [Value.texts]
    cases hs : t.sequence? with
    | none =>
      rw [hs] at h
      cases h
    | some vs =>
      rw [hs] at h
      exact eq_map_of_mapM_scalarText h
  | string s | number x | bool b =>
    cases h
    rfl
  | nil | handle w => cases h

/-- An entry is added value by value, under a name. -/
theorem addEntry_eq_ok {e : Key × Value} (h : addEntry f e = .ok g) :
    e.1.isName = true ∧ g = e.2.texts.foldl (·.add e.1.display ·) f := by
  obtain ⟨k, v⟩ := e
  cases k with
  | index i => cases h
  | name name =>
    rw [addEntry] at h
    dsimp only at h
    cases hs : entryTexts name v with
    | error w =>
      rw [hs] at h
      cases h
    | ok ss =>
      rw [hs] at h
      cases h
      rw [eq_texts_of_entryTexts hs]
      exact ⟨rfl, rfl⟩

theorem foldlM_addEntry_eq_ok (h : es.foldlM addEntry f = .ok g) :
    (∀ e ∈ es, e.1.isName = true) ∧
      g = (es.map fun e => (e.1.display, e.2.texts)).foldl
        (fun g p => p.2.foldl (·.add p.1 ·) g) f := by
  induction es generalizing f with
  | nil =>
    cases h
    exact ⟨nofun, rfl⟩
  | cons e es ih =>
    rw [List.foldlM_cons] at h
    obtain ⟨next, hnext, hrest⟩ := bind_eq_ok_iff.1 h
    obtain ⟨hname, rfl⟩ := addEntry_eq_ok hnext
    obtain ⟨hnames, hg⟩ := ih hrest
    exact ⟨List.forall_mem_cons.2 ⟨hname, hnames⟩, hg⟩

/-- Names are distinct where keys are. -/
theorem nodup_display (hd : t.keys.Nodup) (hn : ∀ e ∈ t.entries, e.1.isName = true) :
    (t.entries.map (·.1.display)).Nodup := by
  have hmap : t.entries.map (·.1.display) = t.keys.map Key.display := by
    rw [OrderedMap.keys, List.map_map]
    rfl
  rw [hmap]
  refine hd.map_on fun k hk l hl hkl => ?_
  obtain ⟨d, hd, rfl⟩ := List.mem_map.1 hk
  obtain ⟨e, he, rfl⟩ := List.mem_map.1 hl
  have hdname := hn d hd
  have hename := hn e he
  revert hkl hdname hename
  cases d.1 <;> cases e.1 <;> simp [Key.isName, Key.display]

/-- **The fields of a table**: a name with the values of its entry, unless there are none. -/
theorem toList_toFields (hd : t.keys.Nodup) (h : t.toFields = .ok f) :
    (t.entries.map (·.1.display)).Nodup ∧
      f.toList = (t.entries.map fun e => (e.1.display, e.2.texts)).filter (·.2 ≠ []) := by
  obtain ⟨hnames, rfl⟩ := foldlM_addEntry_eq_ok h
  have hdisplay := nodup_display hd hnames
  refine ⟨hdisplay, ?_⟩
  exact Fields.toList_foldl_add_filter .empty (by rwa [List.map_map])

end Table

namespace ClientConfig

variable {t : Table}

/-- The fields that settings make of a table: each name is set to the text that its entry shows. -/
def setFields (t : Table) : Fields :=
  t.entries.foldl (fun f e => f.set e.1.display e.2.display) .empty

theorem readBody_table (t : Table) : readBody (.table t) = (setFields t).urlencode := rfl

theorem toList_setFields (hn : (t.entries.map (·.1.display)).Nodup) :
    (setFields t).toList = t.entries.map fun e => (e.1.display, [e.2.display]) := by
  have hnew : (Fields.empty.entries.keys ++
      (t.entries.map fun e => (e.1.display, e.2.display)).map (·.1)).Nodup := by
    rw [List.map_map]
    exact hn
  have hset := Fields.toList_foldl_set .empty hnew
  rw [List.foldl_map, List.map_map] at hset
  exact hset

end ClientConfig

/-- **Set and posted fields are the same** exactly if each entry is the one text that it shows. -/
theorem Table.eq_setFields_iff {t : Table} {f : Fields} (hd : t.keys.Nodup)
    (h : t.toFields = .ok f) :
    f = ClientConfig.setFields t ↔ ∀ e ∈ t.entries, e.2.texts = [e.2.display] := by
  obtain ⟨hn, hposted⟩ := toList_toFields hd h
  have hset := ClientConfig.toList_setFields hn
  constructor
  · rintro rfl e he
    rw [hset] at hposted
    -- as many fields as entries, so none is left out for want of a value
    have hlen := congrArg List.length hposted
    rw [List.length_map, ← List.length_map (fun e => (e.1.display, e.2.texts))] at hlen
    rw [List.filter_eq_self.2 (List.length_filter_eq_length_iff.1 hlen.symm), List.map_inj_left]
      at hposted
    exact (congrArg Prod.snd (hposted e he)).symm
  · intro hshown
    have hsame : (t.entries.map fun e => (e.1.display, e.2.texts)) =
        t.entries.map fun e => (e.1.display, [e.2.display]) :=
      List.map_congr_left fun e he => by rw [hshown e he]
    refine Fields.ext_toList ?_
    rw [hposted, hset, hsame, List.filter_eq_self]
    intro p hp
    obtain ⟨e, -, rfl⟩ := List.mem_map.1 hp
    rfl

/-- Values under a name are one text that is shown exactly if there is one of them. -/
theorem Table.texts_ofValues_iff (ss : List String) :
    (ofValues ss).texts = [(ofValues ss).display] ↔ ss.length = 1 := by
  match ss with
  | [s] => exact iff_of_true rfl rfl
  | [] => exact iff_of_false (by decide) (by decide)
  | a :: b :: ss =>
    have htable : ofValues (a :: b :: ss) = .table (ofStrings (a :: b :: ss)) := rfl
    rw [htable, Value.texts, sequence?_ofStrings]
    simp

namespace OutboundRequest

variable {config d : Table} {url : String} {p q : OutboundRequest}

theorem body_of_ofForm (h : ofForm url (some d) = .ok p) :
    ∃ f, d.toFields = .ok f ∧ p.body = f.urlencodeBytes := by
  rw [ofForm, Option.getD_some] at h
  cases hf : d.toFields with
  | error w =>
    rw [hf] at h
    cases h
  | ok f =>
    rw [hf] at h
    obtain ⟨g, hg, h⟩ := bind_eq_ok_iff.1 h
    obtain ⟨u, -, hp⟩ := bind_eq_ok_iff.1 h
    cases hg
    cases hp
    exact ⟨f, rfl, rfl⟩

theorem body_of_ofConfig (h : ofConfig config = .ok q) :
    q.body = Bytes.ofText (ClientConfig.readBody (config.field "data")) := by
  obtain ⟨_, _, _, rfl⟩ := exists_of_ofConfig h
  rfl

end OutboundRequest

/-- **Two ways to send a table.** `postForm` sends the fields that a table is read as. `request`
sends the same body exactly if each entry is the one text that it shows, as every scalar is; and of
fields as a table, which are read back, exactly if each name has one value. -/
theorem form_bodies_agree_iff {config d : Table} {url : String} {p q : OutboundRequest}
    (hd : d.keys.Nodup) (hdata : config.field "data" = .table d)
    (hp : OutboundRequest.ofForm url (some d) = .ok p)
    (hq : OutboundRequest.ofConfig config = .ok q) :
    (∃ f, d.toFields = .ok f ∧ p.body = f.urlencodeBytes) ∧
    (q.body = p.body ↔ ∀ e ∈ d.entries, e.2.texts = [e.2.display]) ∧
    ∀ f, d = Table.ofFields f → (q.body = f.urlencodeBytes ↔ ∀ e ∈ f.toList, e.2.length = 1) := by
  obtain ⟨f, hf, hpost⟩ := OutboundRequest.body_of_ofForm hp
  have hrequest : q.body = (ClientConfig.setFields d).urlencodeBytes := by
    rw [OutboundRequest.body_of_ofConfig hq, hdata, ClientConfig.readBody_table,
      Fields.ofText_urlencode]
  have hagree : q.body = p.body ↔ ∀ e ∈ d.entries, e.2.texts = [e.2.display] := by
    rw [hrequest, hpost, Fields.urlencodeBytes_inj, eq_comm, Table.eq_setFields_iff hd hf]
  refine ⟨⟨f, hf, hpost⟩, hagree, ?_⟩
  rintro g rfl
  obtain rfl : f = g := by
    rw [Table.toFields_ofFields] at hf
    exact (Except.ok.inj hf).symm
  rw [← hpost, hagree, Table.entries_ofFields, List.forall_mem_map]
  exact forall₂_congr fun e _ => Table.texts_ofValues_iff e.2

/-- A scalar is sent alike, and so is a sequence of the one text that any table shows. -/
theorem form_bodies_agree_of_word :
    let data : Table := .set (.set .empty (.name "a") (.bool true))
      (.name "b") (.table (Table.ofStrings ["table"]))
    let config : Table := .set (.set (.set .empty (.name "method") (.string "POST"))
      (.name "url") (.string "http://h/")) (.name "data") (.table data)
    data.keys.Nodup ∧ config.field "data" = .table data ∧
      ∃ p q, OutboundRequest.ofForm "http://h/" (some data) = .ok p ∧
        OutboundRequest.ofConfig config = .ok q ∧ q.body = p.body := by
  intro data config
  have hd : data.keys.Nodup := by decide
  have hdata : config.field "data" = .table data := rfl
  obtain ⟨p, hp⟩ := isOk_iff.1
    (show (OutboundRequest.ofForm "http://h/" (some data)).isOk by decide +kernel)
  obtain ⟨q, hq⟩ := isOk_iff.1
    (show (OutboundRequest.ofConfig config).isOk by decide +kernel)
  refine ⟨hd, hdata, p, q, hp, hq, (form_bodies_agree_iff hd hdata hp hq).2.1.2 ?_⟩
  exact List.forall_mem_cons.2 ⟨rfl, List.forall_mem_singleton.2 rfl⟩

/-- Of two values of a name, which `postForm` sends, `request` sends neither. -/
theorem request_body_of_sequence :
    let data : Table := .ofFields (.ofPairs [("a", "1"), ("a", "2")])
    let config : Table := .set (.set (.set .empty (.name "method") (.string "POST"))
      (.name "url") (.string "http://h/")) (.name "data") (.table data)
    (OutboundRequest.body <$> OutboundRequest.ofForm "http://h/" (some data)) =
        .ok (Bytes.ofText "a=1&a=2") ∧
      (OutboundRequest.body <$> OutboundRequest.ofConfig config) =
        .ok (Bytes.ofText "a=table") := by
  decide +kernel

end WebScript
