import WebScript.Proofs.Calls
import WebScript.Proofs.Moments
import WebScript.Proofs.Tables.Json

/-!
# Rendering from end to end

A template is rendered from a table of arguments and the widgets of the page. The table is converted
first, and if it cannot be, that is all. Otherwise the compiler is called, then status 200 is sent,
then the renderer is called; whatever these two report, the call succeeds.

* `Table.IsData`: the keys of a table are names and its entries have a reading.
* `Exchange.deeds`: what has happened in an exchange, apart from the log.
* `Run.render_of_not_isData`: **without a reading nothing runs**.
* `Run.deeds_renderWith`: **the compiler runs once, and then the renderer once**.
* `Run.get?_data`: the widgets and the arguments as the renderer gets them.
* `rendering`: all together.
-/

namespace WebScript

/-- **The table has a reading as the data of a template**: all keys are names, and no node of an
entry refuses. -/
def Table.IsData (t : Table) : Prop :=
  ∀ e ∈ t.entries, e.1.isName = true ∧ ¬ ∃ u w, e.2.HasNode u ∧ u.Refuses w

theorem Table.isOk_toJsonMembers_iff_isData (t : Table) : t.toJsonMembers.isOk ↔ t.IsData := by
  rw [Value.isOk_toJsonMembers_iff, OrderedMap.keys, List.forall_mem_map, ← forall₂_and]
  exact forall₂_congr fun e _ => and_congr_right' Value.isOk_toJson_iff

/-! ## What has happened -/

namespace Exchange

/-- What has happened in the exchange, apart from the log. -/
def deeds (x : Exchange) : List Event := x.events.filter (! ·.isLine)

variable {x y : Exchange}

theorem deeds_note {e : Event} (he : e.isLine = false) (x : Exchange) :
    (x.note e).deeds = x.deeds ++ [e] := by
  rw [deeds, note, List.filter_append, List.filter_cons_of_pos (by simp [he]), List.filter_nil,
    deeds]

theorem deeds_log (line : LogLine) (x : Exchange) : (x.log line).deeds = x.deeds := by
  rw [deeds, log, note, List.filter_append, List.filter_cons_of_neg (by simp [Event.isLine]),
    List.filter_nil, List.append_nil, deeds]

theorem deeds_writeStatus (status : Nat) (x : Exchange) :
    (x.writeStatus status).deeds = x.deeds := by
  unfold writeStatus
  split
  · exact deeds_log _ x
  · rfl

/-- Who can only write to the response and to the log does nothing else. -/
theorem Evolves.deeds (h : x.Evolves (fun _ => False) y) : y.deeds = x.deeds := by
  obtain ⟨es, hes, hall⟩ := h.events
  have hnone : es.filter (! ·.isLine) = [] := by
    rw [List.filter_eq_nil_iff]
    intro e he
    simpa using (hall e he).resolve_right id
  rw [Exchange.deeds, hes, List.filter_append, hnone, List.append_nil]
  rfl

end Exchange

namespace Run

variable {h : Host} {template : String} {args : Option Table} {ms : List (String × Json)}

/-! ## Without a reading -/

/-- **Arguments without a reading** are refused before anything runs. -/
theorem render_of_not_isData (s : Run) (template : String)
    (hargs : ¬ (args.getD .empty).IsData) :
    ∃ m, ∀ renderer compiler, s.render { h with renderer, compiler } template args =
      (.error (.ambiguousTable m), s) := by
  rw [← Table.isOk_toJsonMembers_iff_isData] at hargs
  unfold render
  cases hm : (args.getD .empty).toJsonMembers with
  | ok ms =>
    rw [hm] at hargs
    exact absurd rfl hargs
  | error w => exact ⟨w.message, fun _ _ => rfl⟩

theorem render_of_toJsonMembers (s : Run) (template : String)
    (hm : (args.getD .empty).toJsonMembers = .ok ms) :
    s.render h template args = (.ok [], s.renderWith h template ⟨ms⟩) := by
  rw [render, hm]

/-! ## The two collaborators -/

/-- What the renderer gets: the arguments and the widgets. -/
def data (h : Host) (s : Run) (members : Members) : Members :=
  members.insert widgetsName (.object (s.compiled h).1.widgets)

theorem deeds_afterCompiler (hc : h.Confined) (s : Run) :
    (s.afterCompiler h).deeds = s.exchange.deeds ++ [.compiled] := by
  have hcompiled : (s.compiled h).2.deeds = s.exchange.deeds ++ [.compiled] :=
    (hc.compiler _ _ _).deeds.trans (Exchange.deeds_note rfl s.exchange)
  unfold afterCompiler
  split
  · rw [Exchange.deeds_log, hcompiled]
  · exact hcompiled

theorem deeds_beforeRenderer (hc : h.Confined) (s : Run) (template : String) (members : Members) :
    (s.beforeRenderer h template members).deeds = s.exchange.deeds ++
      [.compiled, .rendered s.context.request.method template (s.data h members)] := by
  rw [beforeRenderer, Exchange.deeds_note rfl, Exchange.deeds_writeStatus, deeds_afterCompiler hc,
    List.append_assoc]
  rfl

/-- **The compiler runs once, and then the renderer once.** -/
theorem deeds_renderWith (hc : h.Confined) (s : Run) (template : String) (members : Members) :
    (s.renderWith h template members).exchange.deeds = s.exchange.deeds ++
      [.compiled, .rendered s.context.request.method template (s.data h members)] := by
  have hrendered : (s.rendered h template members).2.deeds = s.exchange.deeds ++
      [.compiled, .rendered s.context.request.method template (s.data h members)] :=
    (hc.renderer _ _ _ _).deeds.trans (deeds_beforeRenderer hc s template members)
  rw [renderWith_eq]
  split <;> rename_i e <;> rw [e] at hrendered
  · exact hrendered
  · exact (Exchange.deeds_log _ _).trans hrendered

/-- **The widgets under their name, and else the entries of the table**, each converted. -/
theorem get?_data {t : Table} (hd : t.keys.Nodup) (hm : t.toJsonMembers = .ok ms) (s : Run)
    (name : String) (j : Json) :
    (s.data h ⟨ms⟩).get? name = some j ↔
      if name = widgetsName then j = .object (s.compiled h).1.widgets
      else ∃ v, t.get? (.name name) = some v ∧ v.toJson = .ok j := by
  rw [data, OrderedMap.get?_insert]
  split
  · rw [Option.some.injEq, eq_comm]
  · have hnodup : (OrderedMap.mk ms).keys.Nodup := Value.nodup_of_toJsonMembers hd hm
    rw [OrderedMap.get?_eq_some_iff hnodup, ← Value.mem_of_toJsonMembers hd hm]

theorem nodup_data {t : Table} (hd : t.keys.Nodup) (hm : t.toJsonMembers = .ok ms) (s : Run) :
    (s.data h ⟨ms⟩).keys.Nodup :=
  OrderedMap.nodup_insert (m := ⟨ms⟩) (Value.nodup_of_toJsonMembers hd hm) _ _

/-! ## The response -/

/-- What the compiler leaves is sent with status 200, and the renderer cannot take it back. -/
theorem keeps_renderWith (hc : h.Confined) (s : Run) (template : String) (members : Members) :
    ((s.compiled h).2.response.writeStatus 200).Keeps
      (s.renderWith h template members).exchange.response := by
  rw [response_renderWith_eq, ← response_beforeRenderer]
  exact (hc.renderer _ _ _ _).response.keeps

end Run

/-- **Rendering from end to end.** Let renderer and compiler have no other access to an exchange
than a response writer and the log, and let the keys of the arguments be distinct. If a key is no
name, or an entry has a node that refuses, the call fails as for an ambiguous table and nothing
changes, with whatever renderer and compiler. Otherwise it succeeds, whatever these report. What
happens is that the compiler runs, and then the renderer, each once. The renderer gets the compiled
widgets under their name, and under all other names the entries of the table, converted; status 200
has been sent before it runs, with the headers as the compiler left them, unless a status was sent
before, and then that one stays. -/
theorem rendering {h : Host} (hc : h.Confined) (s : Run) (template : String) (args : Option Table)
    (hd : (args.getD .empty).keys.Nodup) :
    let t := args.getD .empty
    let c := s.context
    let k := h.compiler c.request c.session (s.exchange.note .compiled)
    let o := s.render h template args
    (¬ t.IsData → ∃ m, ∀ renderer compiler,
      s.render { h with renderer, compiler } template args = (.error (.ambiguousTable m), s)) ∧
    (t.IsData → o.1 = .ok [] ∧ ∃ (data : Members) (x : Exchange),
      (data.keys.Nodup ∧ ∀ name j, data.get? name = some j ↔
        if name = "widgets" then j = .object k.1.widgets
        else ∃ v, t.get? (.name name) = some v ∧ v.toJson = .ok j) ∧
      o.2.exchange.deeds =
        s.exchange.deeds ++ [.compiled, .rendered c.request.method template data] ∧
      (x.response = k.2.response.writeStatus 200 ∧
        o.2.exchange.response = (h.renderer c.request template data x).2.response) ∧
      (k.2.response.status = none → o.2.exchange.response.status = some 200 ∧
        o.2.exchange.response.sent = some k.2.response.headers) ∧
      (k.2.response.status ≠ none → o.2.exchange.response.status = k.2.response.status ∧
        o.2.exchange.response.sent = k.2.response.sent)) := by
  intro t c k o
  refine ⟨s.render_of_not_isData template, fun hdata => ?_⟩
  obtain ⟨ms, hm⟩ := Result.isOk_iff.1 ((Table.isOk_toJsonMembers_iff_isData t).2 hdata)
  have ho : o = (.ok [], s.renderWith h template ⟨ms⟩) := s.render_of_toJsonMembers template hm
  -- what stands when the renderer is called is what is sent, whether by it or before
  have hkeeps : (k.2.response.writeStatus 200).Keeps
      (s.renderWith h template ⟨ms⟩).exchange.response :=
    Run.keeps_renderWith hc s template ⟨ms⟩
  refine ⟨by rw [ho], s.data h ⟨ms⟩, s.beforeRenderer h template ⟨ms⟩,
    ⟨Run.nodup_data hd hm s, Run.get?_data hd hm s⟩, ?_, ⟨?_, ?_⟩, fun hnone => ?_, fun hsome => ?_⟩
  · rw [ho]
    exact Run.deeds_renderWith hc s template ⟨ms⟩
  · exact Run.response_beforeRenderer h s template ⟨ms⟩
  · rw [ho]
    exact Run.response_renderWith_eq h s template ⟨ms⟩
  · rw [ho]
    rw [Response.writeStatus_of_none hnone] at hkeeps
    exact hkeeps.head (Option.some_ne_none 200)
  · obtain ⟨existing, hexisting⟩ := Option.ne_none_iff_exists'.1 hsome
    rw [Response.writeStatus_of_some hexisting] at hkeeps
    rw [ho]
    exact hkeeps.head hsome

/-- Both collaborators fail, and the widgets take the place of an argument of their name. With a
number for a key beside them nothing runs. -/
theorem rendering_of_failures :
    let page := (Exchange.start none).bind .full ⟨"1", "GET", "/", .empty, "", []⟩ .anonymous
    let host : Host := { Host.plain with
      compiler := fun _ _ x =>
        (⟨[("menu", .null)], some (.host "down")⟩, x.mapHeaders (·.set "X-Menu" "1"))
      renderer := fun _ template _ x =>
        (.error (.host "gone"), (x.write (Bytes.ofText template)).2) }
    let args : Table :=
      .set (.set .empty (.name "widgets") (.bool true)) (.name "title") (.string "Home")
    let bad : Table := args.set (.index 1) (.bool true)
    let o := page.render host "home" (some args)
    host.Confined ∧ args.keys.Nodup ∧ args.IsData ∧ bad.keys.Nodup ∧ ¬ bad.IsData ∧
      (∃ m, page.render host "home" (some bad) = (.error (.ambiguousTable m), page)) ∧
      o.1 = .ok [] ∧ o.2.exchange.response.status = some 200 ∧
      ∃ data : Members, data.get? "widgets" = some (.object [("menu", .null)]) ∧
        data.get? "title" = some (.string "Home") ∧
        o.2.exchange.deeds = [.compiled, .rendered "GET" "home" data] := by
  intro page host args bad o
  have hc : host.Confined :=
    ⟨fun _ template _ x => Exchange.evolves_write (Bytes.ofText template) x,
      fun _ _ x => Exchange.evolves_mapHeaders (·.set "X-Menu" "1") x⟩
  have hd : args.keys.Nodup := by decide
  have hdata : args.IsData := (Table.isOk_toJsonMembers_iff_isData args).1 (by decide +kernel)
  have hbad : bad.keys.Nodup := by decide
  have hindex : ¬ bad.IsData := by
    rw [← Table.isOk_toJsonMembers_iff_isData]
    decide +kernel
  obtain ⟨hrefused, -⟩ := rendering hc page "home" (some bad) hbad
  obtain ⟨m, hm⟩ := hrefused hindex
  obtain ⟨-, hrendered⟩ := rendering hc page "home" (some args) hd
  obtain ⟨hok, data, x, ⟨-, hget⟩, hdeeds, -, hstatus, -⟩ := hrendered hdata
  refine ⟨hc, hd, hdata, hbad, hindex, ⟨m, hm host.renderer host.compiler⟩, hok,
    (hstatus rfl).1, data, (hget _ _).2 rfl, (hget _ _).2 ⟨.string "Home", rfl, ?_⟩, hdeeds⟩
  rw [Value.toJson]

end WebScript
