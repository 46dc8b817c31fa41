import WebScript.Proofs.Headers.History
import WebScript.Proofs.Outbound

/-!
# Headers of outbound requests

The settings of a request have a table of headers. Its entries are taken in order, and each that is
a string under a name sets a header, so of entries whose names are one header the last one stays.
The user agent of the host comes behind them, unless one of them is a user agent.

* `Table.headerValues`: the values that a table of settings gives to a header.
* `ClientConfig.getAll_scriptHeaders`: **of the values given to a header the last stays**.
* `OutboundRequest.getAll_withUserAgent`: the user agent of the host is the one header added.
* `outbound_headers`: both together, for the request that a call hands to the transport.
-/

namespace WebScript

/-- The entries of the table of headers, of which there are none if it is not a table. -/
def Table.headerEntries (config : Table) : List (Key × Value) :=
  match config.field "headers" with
  | .table t => t.entries
  | _ => []

/-- The value that an entry gives to a header: a string under a name that has its canonical form.
-/
def Table.headerValue? (header : String) : Key × Value → Option String
  | (.name k, .string v) => if header = Headers.canonicalName k then some v else none
  | _ => none

/-- **The values that a table of settings gives to a header**, in the order of the table. -/
def Table.headerValues (config : Table) (header : String) : List String :=
  config.headerEntries.filterMap (headerValue? header)

namespace ClientConfig

/-- The call that an entry makes on the headers, if it is a string under a name. -/
def headerCall? : Key × Value → Option Headers.Call
  | (.name k, .string v) => some (.set k v)
  | _ => none

/-- The headers that a table of settings describes. -/
def scriptHeaders (config : Table) : Headers :=
  .after (config.headerEntries.filterMap headerCall?)

theorem headers_eq_scriptHeaders (config : Table) :
    (readHeaders (config.field "headers")).foldl (fun h p => h.set p.1 p.2) .empty =
      scriptHeaders config := by
  unfold scriptHeaders Table.headerEntries readHeaders
  cases config.field "headers" with
  | table t =>
    dsimp only
    rw [Headers.after, List.foldl_filterMap, List.foldl_filterMap]
    congr 1
    funext h e
    obtain ⟨k, v⟩ := e
    cases k <;> cases v <;> rfl
  | nil | bool _ | number _ | string _ | handle _ => rfl

/-- An entry gives a header what its call does, and the calls of entries all set headers. -/
theorem headerCall?_cases (header : String) (e : Key × Value) :
    (headerCall? e = none ∧ Table.headerValue? header e = none) ∨
      ∃ name value, headerCall? e = some (.set name value) ∧ Table.headerValue? header e =
        if header = Headers.canonicalName name then some value else none := by
  obtain ⟨k, v⟩ := e
  cases k with
  | index i => exact .inl ⟨rfl, rfl⟩
  | name name =>
    cases v with
    | string value => exact .inr ⟨name, value, rfl, rfl⟩
    | nil | bool _ | number _ | table _ | handle _ => exact .inl ⟨rfl, rfl⟩

/-- A value that is set takes the place of those before. -/
theorem given_concat_set (calls : List Headers.Call) (header name value : String) :
    Headers.given (calls ++ [.set name value]) header =
      if header = Headers.canonicalName name then [value] else Headers.given calls header := by
  rw [Headers.given_concat]
  by_cases hn : header = Headers.canonicalName name <;>
    simp [Headers.Call.resets, Headers.Call.value?, hn]

/-- **Of the values given to a header the last stays.** -/
theorem given_headerCalls (es : List (Key × Value)) (header : String) :
    Headers.given (es.filterMap headerCall?) header =
      (es.filterMap (Table.headerValue? header)).getLast?.toList := by
  induction es using List.reverseRecOn with
  | nil => rfl
  | append_singleton es e ih =>
    -- the last entry sets this header, or another, or none
    rw [List.filterMap_append, List.filterMap_append]
    rcases headerCall?_cases header e with ⟨hc, hv⟩ | ⟨name, value, hc, hv⟩
    · rw [List.filterMap_cons_none hc, List.filterMap_cons_none hv, List.filterMap_nil,
        List.filterMap_nil, List.append_nil, List.append_nil, ih]
    · rw [List.filterMap_cons_some hc, List.filterMap_nil, given_concat_set, ih]
      by_cases hn : header = Headers.canonicalName name
      · rw [if_pos hn] at hv ⊢
        rw [List.filterMap_cons_some hv, List.filterMap_nil, List.getLast?_concat]
        rfl
      · rw [if_neg hn] at hv ⊢
        rw [List.filterMap_cons_none hv, List.filterMap_nil, List.append_nil]

theorem getAll_scriptHeaders (config : Table) (header : String) :
    (scriptHeaders config).fields.getAll header =
      (config.headerValues header).getLast?.toList := by
  rw [scriptHeaders, (Headers.records_after _).getAll, given_headerCalls, Table.headerValues]

end ClientConfig

/-! ## The user agent -/

theorem Headers.canonicalName_userAgent : canonicalName "User-Agent" = "User-Agent" := by decide

/-- **The user agent of the host is given to a request that has none**, and nothing else is. -/
theorem OutboundRequest.getAll_withUserAgent (q : OutboundRequest) (agent : Option String)
    (header : String) :
    (q.withUserAgent agent).headers.fields.getAll header =
      if header = "User-Agent" ∧ q.headers.fields.getAll "User-Agent" = [] then agent.toList
      else q.headers.fields.getAll header := by
  have hall : q.headers.getAll "User-Agent" = q.headers.fields.getAll "User-Agent" := by
    rw [Headers.getAll, Headers.canonicalName_userAgent]
  cases agent with
  | none =>
    rw [withUserAgent, Option.toList_none]
    split
    · rename_i hnone
      rw [hnone.1, hnone.2]
    · rfl
  | some a =>
    rw [withUserAgent, Headers.contains, hall]
    by_cases hnone : q.headers.fields.getAll "User-Agent" = []
    · rw [hnone, if_neg (by decide), Headers.set, Headers.canonicalName_userAgent,
        Fields.getAll_set]
      simp
    · rw [if_pos (by simpa using hnone), if_neg fun h => hnone h.2]

/-- **The headers of an outbound request.** Take a call of `request` by a full script, with a table
of settings that describes a request. One request is handed to the transport, and its answer is what
the call gives. The names of its headers are distinct and each has one value. The value is the last
that the table of headers gives to that header: of its entries that are a string under a name with
that canonical form, in the order of the table. The user agent of the host is added if there is one
and the table gives none, and no other header is. -/
theorem outbound_headers {s : Run} (hs : s.context.tier = .full) (h : Host) {args : List Value}
    {config : Table} (hconfig : Arguments.nth args 1 = .table config) (hok : config.IsRequest) :
    let o := s.call h "http" "request" args
    ∃ q : OutboundRequest, o.2.exchange.sentRequests = s.exchange.sentRequests ++ [q] ∧
      o.1 = OutboundResponse.allValues <$> h.transport q ∧
      q.headers.fields.entries.keys.Nodup ∧ (∀ e ∈ q.headers.fields.toList, e.2.length = 1) ∧
      ∀ header, q.headers.fields.getAll header =
        ((config.headerValues header).getLast?.or
          (if header = "User-Agent" then h.settings.userAgent else none)).toList := by
  intro o
  obtain ⟨p, hp⟩ := Result.isOk_iff.1 ((OutboundRequest.isOk_ofConfig_iff config).2 hok)
  have ho : o = s.send h p OutboundResponse.allValues := by
    have houtgoing : OutboundMethod.request.outgoing args = .ok p := by
      rw [OutboundMethod.outgoing, Arguments.table_eq_ok_iff.2 hconfig, Result.ok_bind, hp]
    have hcall := OutboundMethod.call_eq hs h .request args
    rw [houtgoing] at hcall
    exact hcall
  have hscript : p.headers = ClientConfig.scriptHeaders config := by
    obtain ⟨_, _, _, rfl⟩ := OutboundRequest.exists_of_ofConfig hp
    exact ClientConfig.headers_eq_scriptHeaders config
  have hall : ∀ header, (p.withUserAgent h.settings.userAgent).headers.fields.getAll header =
      ((config.headerValues header).getLast?.or
        (if header = "User-Agent" then h.settings.userAgent else none)).toList := by
    intro header
    rw [OutboundRequest.getAll_withUserAgent, hscript, ClientConfig.getAll_scriptHeaders,
      ClientConfig.getAll_scriptHeaders]
    by_cases hname : header = "User-Agent"
    · rw [hname, if_pos rfl]
      cases (config.headerValues "User-Agent").getLast? <;> simp
    · rw [if_neg (fun hh => hname hh.1), if_neg hname, Option.or_none]
  refine ⟨p.withUserAgent h.settings.userAgent, ?_, ?_, ?_, ?_, hall⟩
  · rw [ho, Run.send, Run.mapExchange]
    dsimp only
    rw [Exchange.sentRequests_note_sent, Exchange.sentRequests_log]
  · rw [ho]
    rfl
  · exact Fields.distinct _
  · intro e he
    have hone : ∀ value : Option String, value.toList ≠ [] → value.toList.length = 1 := by
      rintro (_ | value) hne
      · exact absurd rfl hne
      · rfl
    rw [← Fields.getAll_of_mem_toList he, hall]
    refine hone _ ?_
    rw [← hall, Fields.getAll_of_mem_toList he]
    exact Fields.valued _ e he

/-- Of two spellings the later entry stays, what is not a string under a name does not count, and
the user agent of the host is added. -/
theorem outbound_headers_of_two_spellings :
    let page := (Exchange.start none).bind .full ⟨"1", "GET", "/", .empty, "", []⟩ .anonymous
    let host : Host := { Host.plain with
      settings := { Settings.default with userAgent := some "host" } }
    let headers : Table := .set (.set (.set (.set .empty (.name "X-A") (.string "1"))
      (.name "x-a") (.string "2")) (.index 1) (.string "3")) (.name "X-a") (.bool true)
    let config : Table := .set (.set (.set .empty (.name "method") (.string "GET"))
      (.name "url") (.string "http://h/")) (.name "headers") (.table headers)
    page.context.tier = .full ∧ Arguments.nth [.table config] 1 = .table config ∧
      config.IsRequest ∧ ∃ q : OutboundRequest,
        (page.call host "http" "request" [.table config]).2.exchange.sentRequests = [q] ∧
        q.headers.fields.getAll "X-A" = ["2"] ∧
        q.headers.fields.getAll "User-Agent" = ["host"] := by
  intro page host headers config
  have hs : page.context.tier = .full := rfl
  have hconfig : Arguments.nth [.table config] 1 = .table config := rfl
  have hok : config.IsRequest :=
    (OutboundRequest.isOk_ofConfig_iff config).1 (by decide +kernel)
  obtain ⟨q, hq, -, -, -, hall⟩ := outbound_headers hs host hconfig hok
  have hnone : page.exchange.sentRequests = [] := rfl
  rw [hnone, List.nil_append] at hq
  refine ⟨hs, hconfig, hok, q, hq, ?_, ?_⟩
  · rw [hall]
    decide +kernel
  · rw [hall]
    decide +kernel

end WebScript
