import WebScript.Proofs.Calls
import WebScript.Proofs.Results

/-!
# Requests are checked before they are sent

What `get`, `postForm` and `request` have to be given, said apart from the order in which it is
checked, and what a call of theirs does with it.

* `Table.IsForm`, `Table.IsRequest`, `OutboundMethod.Passes`: the checks.
* `OutboundMethod.outgoing`: the request that a call asks for.
* `OutboundMethod.isOk_outgoing_iff`: **a request can be made exactly if every check passes**.
* `OutboundMethod.call_eq`: a call hands that request to the transport, and does nothing else.
* `checked_before_sent`: **the transport is reached once if every check passes, and else not at
  all**.
-/

namespace WebScript

open Result

/-! ## Arguments -/

namespace Arguments

variable {args : List Value} {position : Nat} {message : String}

theorem string_eq_ok_iff {s : String} :
    string args position message = .ok s ↔ nth args position = .string s := by
  unfold string
  split <;> simp_all

theorem table_eq_ok_iff {t : Table} :
    table args position message = .ok t ↔ nth args position = .table t := by
  unfold table
  split <;> simp_all

theorem table?_eq_ok_iff {t : Option Table} :
    table? args position message = .ok t ↔
      (nth args position = .nil ∧ t = none) ∨ ∃ u, nth args position = .table u ∧ t = some u := by
  unfold table? table
  cases nth args position with
  | nil => simp [Value.isNil, eq_comm]
  | table u => simp [Value.isNil, Functor.map, Except.map, eq_comm]
  | bool _ | number _ | string _ | handle _ => simp [Value.isNil, Functor.map, Except.map]

end Arguments

/-! ## Forms -/

/-- Strings, numbers and booleans are scalars. -/
inductive Value.IsScalar : Value → Prop
  | string (s : String) : IsScalar (.string s)
  | number (x : Float) : IsScalar (.number x)
  | bool (b : Bool) : IsScalar (.bool b)

namespace Table

/-- **An entry of a form**: a scalar or a sequence of scalars, under a name. -/
inductive IsFormEntry : Key × Value → Prop
  | scalar {name : String} {v : Value} : v.IsScalar → IsFormEntry (.name name, v)
  | sequence {name : String} {t : Table} {vs : List Value} :
    t.sequence? = some vs → (∀ v ∈ vs, v.IsScalar) → IsFormEntry (.name name, .table t)

/-- The table can be sent as a form. -/
def IsForm (t : Table) : Prop := ∀ e ∈ t.entries, IsFormEntry e

/-- **The table describes a request.** A timeout that is not a string does not matter, and neither
does anything else that may be in the table. -/
structure IsRequest (t : Table) : Prop where
  timeout : ∀ s, t.field "timeout" = .string s → (Http.readDuration s).isOk
  method : ∃ s, t.field "method" = .string s ∧ s ≠ "" ∧ ∀ c ∈ s.toList, Http.isTokenChar c
  url : ∃ s, t.field "url" = .string s ∧ (Url.parse s).isOk

theorem isOk_scalarText_iff (name : String) (v : Value) :
    (scalarText name v).isOk ↔ v.IsScalar := by
  cases v with
  | string s => exact iff_of_true rfl (.string s)
  | number x => exact iff_of_true rfl (.number x)
  | bool b => exact iff_of_true rfl (.bool b)
  | nil | table _ | handle _ => exact iff_of_false Bool.false_ne_true nofun

/-- All values of a sequence have to be scalars. -/
theorem isOk_mapM_scalarText_iff (name : String) (vs : List Value) :
    (vs.mapM (scalarText name)).isOk ↔ ∀ v ∈ vs, v.IsScalar := by
  rw [isOk_mapM_iff]
  exact forall₂_congr fun v _ => isOk_scalarText_iff name v

theorem isOk_entryTexts_iff (name : String) (v : Value) :
    (entryTexts name v).isOk ↔ IsFormEntry (.name name, v) := by
  cases v with
  | string s => exact iff_of_true rfl (.scalar (.string s))
  | number x => exact iff_of_true rfl (.scalar (.number x))
  | bool b => exact iff_of_true rfl (.scalar (.bool b))
  | nil | handle _ =>
    refine iff_of_false Bool.false_ne_true ?_
    rintro ⟨hv⟩
    cases hv
  | table t =>
    rw [entryTexts]
    cases hs : t.sequence? with
    | some vs =>
      dsimp only
      rw [isOk_mapM_scalarText_iff]
      refine ⟨.sequence hs, ?_⟩
      rintro (hv | ⟨hs', hvs⟩)
      · cases hv
      · rw [hs] at hs'
        cases hs'
        exact hvs
    | none =>
      refine iff_of_false Bool.false_ne_true ?_
      rintro (hv | ⟨hs', hvs⟩)
      · cases hv
      · rw [hs] at hs'
        cases hs'

theorem isOk_addEntry_iff (f : Fields) (e : Key × Value) :
    (addEntry f e).isOk ↔ IsFormEntry e := by
  obtain ⟨k, v⟩ := e
  cases k with
  | index i => exact iff_of_false Bool.false_ne_true nofun
  | name name =>
    rw [addEntry, ← isOk_entryTexts_iff name v]
    dsimp only
    rw [isOk_map]

/-- **A table has a reading as fields exactly if it can be sent as a form.** -/
theorem isOk_toFields_iff (t : Table) : t.toFields.isOk ↔ t.IsForm :=
  isOk_foldlM_iff isOk_addEntry_iff

end Table

/-! ## Tables of settings -/

namespace ClientConfig

theorem isOk_readTimeout_iff (v : Value) :
    (readTimeout v).isOk ↔ ∀ s, v = .string s → (Http.readDuration s).isOk := by
  cases v with
  | string s =>
    rw [readTimeout]
    cases h : Http.readDuration s with
    | ok n => simp [h]
    | error f => simp [h]
  | nil | bool _ | number _ | table _ | handle _ => exact iff_of_true rfl nofun

theorem readString_eq_ok_iff {v : Value} {what s : String} :
    readString v what = .ok s ↔ v = .string s := by
  unfold readString
  split <;> simp_all

theorem isOk_toRequest_iff (c : ClientConfig) :
    c.toRequest.isOk ↔ (Url.parse c.url).isOk ∧ Http.isToken c.method := by
  unfold toRequest
  cases Url.parse c.url with
  | error f => simp
  | ok u =>
    dsimp only
    split <;> simp_all

end ClientConfig

theorem Http.isToken_iff (s : String) :
    isToken s ↔ s ≠ "" ∧ ∀ c ∈ s.toList, isTokenChar c := by
  simp [isToken]

theorem isOk_readTarget (doing url : String) :
    (readTarget doing url).isOk = (Url.parse url).isOk := by
  unfold readTarget
  cases Url.parse url <;> rfl

namespace OutboundRequest

theorem isOk_ofGet (url : String) : (ofGet url).isOk = (Url.parse url).isOk := by
  rw [ofGet, isOk_map, isOk_readTarget]

/-- Without a table the form is empty. -/
theorem isOk_ofForm_iff (url : String) (data : Option Table) :
    (ofForm url data).isOk ↔ (data.getD .empty).IsForm ∧ (Url.parse url).isOk := by
  rw [← Table.isOk_toFields_iff, ← isOk_readTarget "Cannot post form", ofForm]
  cases (data.getD .empty).toFields with
  | error f => exact iff_of_false Bool.false_ne_true (by simp)
  | ok fields =>
    cases readTarget "Cannot post form" url with
    | ok u => exact iff_of_true rfl ⟨rfl, rfl⟩
    | error f => exact iff_of_false Bool.false_ne_true (by simp)

/-- **A table of settings describes a request exactly if every setting passes its check.** -/
theorem isOk_ofConfig_iff (t : Table) : (ofConfig t).isOk ↔ t.IsRequest := by
  simp only [ofConfig, ClientConfig.ofTable, bind_assoc, pure_bind, isOk_bind_iff,
    ClientConfig.readString_eq_ok_iff, ClientConfig.isOk_toRequest_iff, Http.isToken_iff]
  constructor
  · rintro ⟨timeout, htimeout, method, hmethod, url, hurl, hparse, htoken⟩
    have hread := isOk_iff.2 ⟨timeout, htimeout⟩
    exact ⟨(ClientConfig.isOk_readTimeout_iff _).1 hread, ⟨method, hmethod, htoken⟩,
      ⟨url, hurl, hparse⟩⟩
  · rintro ⟨htimeout, ⟨method, hmethod, htoken⟩, ⟨url, hurl, hparse⟩⟩
    obtain ⟨timeout, hread⟩ := isOk_iff.1 ((ClientConfig.isOk_readTimeout_iff _).2 htimeout)
    exact ⟨timeout, hread, method, hmethod, url, hurl, hparse, htoken⟩

/-- **The request that a table of settings describes**, setting by setting. -/
theorem exists_of_ofConfig {t : Table} {q : OutboundRequest} (h : ofConfig t = .ok q) :
    ∃ method url timeout, q =
      { method, url, timeout
        headers := (ClientConfig.readHeaders (t.field "headers")).foldl
          (fun h p => h.set p.1 p.2) .empty
        body := Bytes.ofText (ClientConfig.readBody (t.field "data"))
        auth := ClientConfig.readAuth (t.field "authentication") } := by
  obtain ⟨c, hc, hq⟩ := bind_eq_ok_iff.1 h
  obtain ⟨timeout, -, hc⟩ := bind_eq_ok_iff.1 hc
  obtain ⟨method, -, hc⟩ := bind_eq_ok_iff.1 hc
  obtain ⟨url, -, hc⟩ := bind_eq_ok_iff.1 hc
  cases hc
  unfold ClientConfig.toRequest at hq
  split at hq
  · cases hq
  · split at hq
    · cases hq
      exact ⟨_, _, _, rfl⟩
    · cases hq

end OutboundRequest

/-! ## Calls -/

/-- The methods that reach other hosts. -/
inductive OutboundMethod where
  | get
  | postForm
  | request

namespace OutboundMethod

/-- The name that scripts call a method by. -/
def name : OutboundMethod → String
  | .get => "get"
  | .postForm => "postForm"
  | .request => "request"

/-- **What the arguments have to be**: a URL; a URL and, if anything, the table of a form; a table
that describes a request. -/
def Passes (args : List Value) : OutboundMethod → Prop
  | .get => ∃ s, Arguments.nth args 1 = .string s ∧ (Url.parse s).isOk
  | .postForm => ∃ s, Arguments.nth args 1 = .string s ∧ (Url.parse s).isOk ∧
    (Arguments.nth args 2 = .nil ∨ ∃ t : Table, Arguments.nth args 2 = .table t ∧ t.IsForm)
  | .request => ∃ t : Table, Arguments.nth args 1 = .table t ∧ t.IsRequest

/-- The request that a call asks for, or the first check that fails. -/
def outgoing (args : List Value) : OutboundMethod → Result OutboundRequest
  | .get => Arguments.string args 1 "Invalid url type. Expected string" >>= OutboundRequest.ofGet
  | .postForm => do
    let url ← Arguments.string args 1 "Invalid url type. Expected string"
    OutboundRequest.ofForm url (← Arguments.table? args 2 "Invalid form data. Expected table")
  | .request =>
    Arguments.table args 1 "Invalid request configuration. Expected table" >>=
      OutboundRequest.ofConfig

/-- What scripts get of the answer of another host. -/
def answer : OutboundMethod → OutboundResponse → List Value
  | .get | .postForm => fun r => [r.bodyValue]
  | .request => OutboundResponse.allValues

/-- **A request can be made exactly if every check passes.** -/
theorem isOk_outgoing_iff (m : OutboundMethod) (args : List Value) :
    (m.outgoing args).isOk ↔ m.Passes args := by
  cases m with
  | get =>
    simp only [outgoing, Passes, isOk_bind_iff, Arguments.string_eq_ok_iff,
      OutboundRequest.isOk_ofGet]
  | request =>
    simp only [outgoing, Passes, isOk_bind_iff, Arguments.table_eq_ok_iff,
      OutboundRequest.isOk_ofConfig_iff]
  | postForm =>
    simp only [outgoing, Passes, isOk_bind_iff, Arguments.string_eq_ok_iff,
      Arguments.table?_eq_ok_iff, OutboundRequest.isOk_ofForm_iff]
    constructor
    · rintro ⟨s, hs, data, ⟨hnil, rfl⟩ | ⟨t, ht, rfl⟩, hform, hparse⟩
      · exact ⟨s, hs, hparse, .inl hnil⟩
      · exact ⟨s, hs, hparse, .inr ⟨t, ht, hform⟩⟩
    · rintro ⟨s, hs, hparse, hnil | ⟨t, ht, hform⟩⟩
      · exact ⟨s, hs, none, .inl ⟨hnil, rfl⟩, nofun, hparse⟩
      · exact ⟨s, hs, some t, .inr ⟨t, ht, rfl⟩, hform, hparse⟩

/-- What a call is read as. -/
def read (args : List Value) : OutboundMethod → Result Operation
  | .get => .get <$> Arguments.string args 1 "Invalid url type. Expected string"
  | .postForm => do
    let url ← Arguments.string args 1 "Invalid url type. Expected string"
    return .postForm url (← Arguments.table? args 2 "Invalid form data. Expected table")
  | .request =>
    .request <$> Arguments.table args 1 "Invalid request configuration. Expected table"

/-- A full script has the methods that reach other hosts besides those that are shared. -/
theorem read_eq (m : OutboundMethod) (args : List Value) :
    (Operation.methods .full).read .full m.name args = m.read args := by
  cases m <;> simp [name, read, Methods.read, Operation.methods, Operation.sharedMethods,
    Operation.outboundMethods, List.lookup_cons]

/-- **A call hands the request that it asks for to the transport**, if it can be made. -/
theorem call_eq {s : Run} (hs : s.context.tier = .full) (h : Host) (m : OutboundMethod)
    (args : List Value) :
    s.call h "http" m.name args = s.sendIf h (m.outgoing args) m.answer := by
  have ht : s.context.tier ≠ .widget := by simp [hs]
  rw [Run.call_http, Run.callHttp_eq ht, hs, read_eq]
  cases m with
  | get =>
    rw [read, outgoing]
    cases Arguments.string args 1 "Invalid url type. Expected string" with
    | ok url =>
      rw [ok_bind]
      rfl
    | error f => rfl
  | postForm =>
    rw [read, outgoing]
    cases Arguments.string args 1 "Invalid url type. Expected string" with
    | ok url =>
      cases Arguments.table? args 2 "Invalid form data. Expected table" with
      | ok data =>
        rw [ok_bind, ok_bind, ok_bind, ok_bind]
        rfl
      | error f => rfl
    | error f => rfl
  | request =>
    rw [read, outgoing]
    cases Arguments.table args 1 "Invalid request configuration. Expected table" with
    | ok config =>
      rw [ok_bind]
      rfl
    | error f => rfl

end OutboundMethod

namespace Exchange

theorem sentRequests_note_sent (x : Exchange) (q : OutboundRequest) :
    (x.note (.sent q)).sentRequests = x.sentRequests ++ [q] := by
  simp [sentRequests, note]

theorem sentRequests_log (x : Exchange) (line : LogLine) :
    (x.log line).sentRequests = x.sentRequests := by
  simp [sentRequests, log, note]

end Exchange

/-- **Requests are checked before they are sent.** A call of `get`, `postForm` or `request` by a
full script hands the requests `rs` to the transport: one if every check passes, and none else. Of
one that is handed over the answer decides the result. Where a check fails nothing changes, and
neither does the result with any other transport; and a call that succeeds has sent a request. -/
theorem checked_before_sent {s : Run} (hs : s.context.tier = .full) (h : Host)
    (m : OutboundMethod) (args : List Value) :
    let o := s.call h "http" m.name args
    ∃ rs : List OutboundRequest, o.2.exchange.sentRequests = s.exchange.sentRequests ++ rs ∧
      rs.length ≤ 1 ∧ (rs.length = 1 ↔ m.Passes args) ∧
      (∀ q ∈ rs, ∀ t : Transport,
        (s.call { h with transport := t } "http" m.name args).1 = m.answer <$> t q) ∧
      (¬ m.Passes args → ∃ f, ∀ t : Transport,
        s.call { h with transport := t } "http" m.name args = (.error f, s)) ∧
      (o.1.isOk → rs.length = 1) := by
  intro o
  have ho : o = s.sendIf h (m.outgoing args) m.answer := OutboundMethod.call_eq hs h m args
  have hcall (t : Transport) : s.call { h with transport := t } "http" m.name args =
      s.sendIf { h with transport := t } (m.outgoing args) m.answer :=
    OutboundMethod.call_eq hs _ m args
  simp only [hcall, ho, ← OutboundMethod.isOk_outgoing_iff]
  cases m.outgoing args with
  | ok request =>
    have hsent : (s.sendIf h (.ok request) m.answer).2.exchange.sentRequests =
        s.exchange.sentRequests ++ [request.withUserAgent h.settings.userAgent] := by
      rw [Run.sendIf, Run.send, Run.mapExchange]
      dsimp only
      rw [Exchange.sentRequests_note_sent, Exchange.sentRequests_log]
    refine ⟨_, hsent, Nat.le_refl 1, iff_of_true rfl rfl, ?_, ?_, fun _ => rfl⟩
    · intro q hq t
      rw [List.mem_singleton.1 hq]
      rfl
    · exact fun hfail => absurd rfl hfail
  | error f =>
    refine ⟨[], (List.append_nil _).symm, Nat.zero_le 1, ?_, ?_, ?_, ?_⟩
    · exact iff_of_false Nat.zero_ne_one Bool.false_ne_true
    · exact fun q hq => absurd hq List.not_mem_nil
    · exact fun _ => ⟨f, fun _ => rfl⟩
    · exact fun hok => absurd hok Bool.false_ne_true

/-- Nothing is sent for want of a URL; with one there is a request. A timeout that is no duration
stops a request that is sent without it. -/
theorem checked_before_sent_plain :
    let page := (Exchange.start none).bind .full ⟨"1", "GET", "/", .empty, "", []⟩ .anonymous
    let config : Table :=
      .set (.set .empty (.name "method") (.string "GET")) (.name "url") (.string "a:")
    let hurried : Table := config.set (.name "timeout") (.string "soon")
    page.context.tier = .full ∧
      (page.call .plain "http" "get" []).2.exchange.sentRequests = [] ∧
      (page.call .plain "http" "get" [.string "a:"]).2.exchange.sentRequests.length = 1 ∧
      (page.call .plain "http" "request" [.table hurried]).2.exchange.sentRequests = [] ∧
      (page.call .plain "http" "request" [.table config]).2.exchange.sentRequests.length = 1 := by
  intro page config hurried
  have hs : page.context.tier = .full := rfl
  have hnone (m : OutboundMethod) (args : List Value) (hfail : ¬ m.Passes args) :
      (page.call .plain "http" m.name args).2.exchange.sentRequests = [] := by
    obtain ⟨rs, hrs, hle, hone, -⟩ := checked_before_sent hs .plain m args
    have hlen : rs.length ≠ 1 := fun h => hfail (hone.1 h)
    have hnil : rs = [] := List.length_eq_zero_iff.1 (by omega)
    rw [hnil] at hrs
    exact hrs
  have hsent (m : OutboundMethod) (args : List Value) (hpass : m.Passes args) :
      (page.call .plain "http" m.name args).2.exchange.sentRequests.length = 1 := by
    obtain ⟨rs, hrs, -, hone, -⟩ := checked_before_sent hs .plain m args
    exact (congrArg List.length hrs).trans (hone.2 hpass)
  have hurl : OutboundMethod.get.Passes [.string "a:"] := ⟨_, rfl, by decide⟩
  have hsoon : ¬ OutboundMethod.request.Passes [.table hurried] := by
    rintro ⟨t, ht, hrequest⟩
    cases ht
    exact absurd (hrequest.timeout "soon" rfl) (by decide +kernel)
  have hconfig : OutboundMethod.request.Passes [.table config] :=
    ⟨config, rfl, nofun, ⟨"GET", rfl, by decide, List.all_eq_true.1 (by decide)⟩,
      ⟨"a:", rfl, by decide⟩⟩
  exact ⟨hs, hnone .get [] nofun, hsent .get _ hurl, hnone .request _ hsoon,
    hsent .request _ hconfig⟩

end WebScript
