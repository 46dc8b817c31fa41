import WebScript.Proofs.Masking
import WebScript.Proofs.Outbound

/-!
# Credentials stay where they are

Two runs may differ in the token of the session and in the passwords that are sent to other hosts.

* `Call.withoutSecrets`, `Script.SameButSecrets`: calls and scripts but for sessions and passwords.
* `Host.Blind`: renderer, compiler and transport do nothing by sessions and passwords.
* `Observer.outsider`: an observer who sees everything else.
* `OutboundRequest.ofConfig_withoutCredentials`: settings that differ in passwords make requests
  that differ in passwords.
* `Observer.outsider_call`: **a call does the same in runs that differ in secrets.**
* `credentials_noninterference`: **nothing that is given, sent, recorded or logged depends on a
  secret.**
-/

namespace WebScript

open Result

/-- What `f` does not tell of a result, `g` does not tell of what becomes of it. -/
theorem Result.map_bind_congr {α β γ δ : Type} {f : α → γ} {g : β → δ} {k : α → Result β}
    {r r' : Result α} (hr : f <$> r' = f <$> r)
    (hk : ∀ {a a' : α}, f a' = f a → g <$> k a' = g <$> k a) :
    g <$> (r' >>= k) = g <$> (r >>= k) := by
  cases r with
  | error e =>
    cases r' with
    | error e' =>
      cases hr
      rfl
    | ok a' => cases hr
  | ok a =>
    cases r' with
    | error e' => cases hr
    | ok a' => exact hk (Except.ok.inj hr)

/-! ## Passwords -/

/-- The map with the value under a key changed. -/
def OrderedMap.modify {κ ν : Type} [DecidableEq κ] (m : OrderedMap κ ν) (k : κ) (f : ν → ν) :
    OrderedMap κ ν :=
  ⟨m.entries.map fun e => if e.1 = k then (k, f e.2) else e⟩

theorem OrderedMap.get?_modify {κ ν : Type} [DecidableEq κ] (m : OrderedMap κ ν) (k k' : κ)
    (f : ν → ν) : (m.modify k f).get? k' = if k' = k then (m.get? k').map f else m.get? k' := by
  obtain ⟨es⟩ := m
  simp only [get?, modify]
  induction es with
  | nil => simp
  | cons e r ih => grind

/-- A string that is not told. -/
def Value.blanked : Value → Value
  | .string _ => .string ""
  | v => v

/-- The table of an authentication with its password not told, if that is a string. -/
def Value.withoutPassword : Value → Value
  | .table t => .table (t.modify (.name "password") blanked)
  | v => v

/-- Settings of a request with the password of their authentication not told. -/
def Table.withoutCredentials (t : Table) : Table :=
  t.modify (.name "authentication") Value.withoutPassword

/-- The credentials but for the password. -/
def BasicAuth.withoutPassword (a : BasicAuth) : BasicAuth := { a with password := ⟨""⟩ }

/-- The settings but for the password. -/
def ClientConfig.withoutPassword (c : ClientConfig) : ClientConfig :=
  { c with auth := c.auth.map BasicAuth.withoutPassword }

/-- The request but for its password. -/
def OutboundRequest.withoutPassword (q : OutboundRequest) : OutboundRequest :=
  { q with auth := q.auth.map BasicAuth.withoutPassword }

/-- The event but for the password of a request. -/
def Event.withoutPassword : Event → Event
  | .sent q => .sent q.withoutPassword
  | e => e

/-- The exchange but for the passwords of the requests on the way to it. -/
def Exchange.withoutPasswords (x : Exchange) : Exchange :=
  { x with events := x.events.map Event.withoutPassword }

namespace Table

theorem field_modify (t : Table) (k name : String) (f : Value → Value) (hf : f .nil = .nil) :
    Table.field (t.modify (.name k) f) name =
      if name = k then f (t.field name) else t.field name := by
  unfold field get
  rw [OrderedMap.get?_modify]
  by_cases hn : name = k
  · rw [if_pos (congrArg Key.name hn), if_pos hn]
    cases t.get? (.name name) with
    | none => exact hf.symm
    | some v => rfl
  · rw [if_neg fun hk => hn (Key.name.inj hk), if_neg hn]

theorem field_withoutCredentials (t : Table) (name : String) :
    t.withoutCredentials.field name =
      if name = "authentication" then (t.field name).withoutPassword else t.field name :=
  field_modify t "authentication" name _ rfl

end Table

namespace ClientConfig

theorem readAuth_withoutPassword (v : Value) :
    (readAuth v.withoutPassword).map BasicAuth.withoutPassword =
      (readAuth v).map BasicAuth.withoutPassword := by
  cases v with
  | table t =>
    have husername : Table.field (t.modify (.name "password") Value.blanked) "username" =
        Table.field t "username" := by
      rw [Table.field_modify _ _ _ _ rfl, if_neg (by decide)]
    simp only [Value.withoutPassword, readAuth, Value.table?, Option.map_some, husername]
    rfl
  | nil | bool _ | number _ | string _ | handle _ => rfl

/-- Settings with the password not told are read alike. -/
theorem ofTable_withoutCredentials (t : Table) :
    withoutPassword <$> ofTable t.withoutCredentials = withoutPassword <$> ofTable t := by
  have hauth := readAuth_withoutPassword (t.field "authentication")
  simp only [ofTable, Table.field_withoutCredentials, String.reduceEq, if_false, if_true, map_bind,
    map_pure, withoutPassword, hauth]

theorem toRequest_withoutPassword (c : ClientConfig) :
    c.withoutPassword.toRequest = OutboundRequest.withoutPassword <$> c.toRequest := by
  unfold toRequest withoutPassword
  dsimp only
  cases Url.parse c.url with
  | error f => rfl
  | ok u =>
    dsimp only
    split <;> rfl

end ClientConfig

namespace OutboundRequest

/-- **Settings that differ in their password make requests that differ in their password.** -/
theorem ofConfig_withoutCredentials {t t' : Table}
    (ht : t'.withoutCredentials = t.withoutCredentials) :
    withoutPassword <$> ofConfig t' = withoutPassword <$> ofConfig t := by
  have hmake (u : Table) : withoutPassword <$> ofConfig u =
      ClientConfig.withoutPassword <$> ClientConfig.ofTable u >>= ClientConfig.toRequest := by
    simp only [ofConfig, map_bind, bind_map_left, ClientConfig.toRequest_withoutPassword]
  rw [hmake, hmake, ← ClientConfig.ofTable_withoutCredentials t',
    ← ClientConfig.ofTable_withoutCredentials t, ht]

theorem withoutPassword_withUserAgent (q : OutboundRequest) (agent : Option String) :
    (q.withUserAgent agent).withoutPassword = q.withoutPassword.withUserAgent agent := by
  cases agent with
  | none => rfl
  | some a =>
    unfold withUserAgent
    dsimp only
    split
    · rename_i hc
      exact (if_pos hc).symm
    · rename_i hc
      exact (if_neg hc).symm

end OutboundRequest

/-! ## Runs -/

/-- **Renderer, compiler and transport do nothing by secrets**: neither by the session nor by the
passwords of requests, those noted in the exchange among them. -/
structure Host.Blind (h : Host) : Prop where
  transport : ∀ q q' : OutboundRequest, q'.withoutPassword = q.withoutPassword →
    h.transport q' = h.transport q
  renderer : ∀ r template args (x y : Exchange), y.withoutPasswords = x.withoutPasswords →
    (h.renderer r template args y).1 = (h.renderer r template args x).1 ∧
      (h.renderer r template args y).2.withoutPasswords =
        (h.renderer r template args x).2.withoutPasswords
  compiler : ∀ r session session' (x y : Exchange), y.withoutPasswords = x.withoutPasswords →
    (h.compiler r session' y).1 = (h.compiler r session x).1 ∧
      (h.compiler r session' y).2.withoutPasswords = (h.compiler r session x).2.withoutPasswords

/-- **An outsider**, who sees everything but passwords and sessions. -/
def Observer.outsider : Observer where
  event e := some e.withoutPassword
  tier := Eq
  session _ _ := True
  line {c c'} htier hrequest level message := by
    have htier : c.tier = c'.tier := htier
    rw [Context.line, Context.line, htier, hrequest]

namespace Observer

variable {h : Host} {x y : Exchange} {s s' : Run}

theorem outsider_sameExchange_iff :
    outsider.SameExchange x y ↔ y.withoutPasswords = x.withoutPasswords := by
  have hseen (es : List Event) : es.filterMap outsider.event = es.map Event.withoutPassword :=
    congrFun List.filterMap_eq_map es
  obtain ⟨response, broken, events⟩ := x
  obtain ⟨response', broken', events'⟩ := y
  simp only [Exchange.withoutPasswords, Exchange.mk.injEq, ← hseen]
  exact ⟨fun ⟨hr, hb, he⟩ => ⟨hr, hb, he⟩, fun ⟨hr, hb, he⟩ => ⟨hr, hb, he⟩⟩

/-- To blind collaborators it makes no difference what an outsider does not see. -/
theorem outsider_suffices (hb : h.Blind) : outsider.Suffices h where
  renderer r template args x y hxy := by
    rw [outsider_sameExchange_iff] at hxy ⊢
    exact hb.renderer r template args x y hxy
  compiler r session session' x y _ hxy := by
    rw [outsider_sameExchange_iff] at hxy ⊢
    exact hb.compiler r session session' x y hxy

/-- Requests that differ in their passwords may be sent one for the other. -/
theorem outsider_sendIf (hb : h.Blind) (hs : outsider.SameRun s s')
    {request request' : Result OutboundRequest}
    (hr : OutboundRequest.withoutPassword <$> request' =
      OutboundRequest.withoutPassword <$> request)
    (answer : OutboundResponse → List Value) :
    outsider.SameOutcome (s.sendIf h request answer) (s'.sendIf h request' answer) := by
  cases request with
  | error f =>
    cases request' with
    | error f' =>
      cases hr
      exact ⟨rfl, hs⟩
    | ok q' => cases hr
  | ok q =>
    cases request' with
    | error f' => cases hr
    | ok q' =>
      have hq : q'.withoutPassword = q.withoutPassword := Except.ok.inj hr
      have hsent : (q'.withUserAgent h.settings.userAgent).withoutPassword =
          (q.withUserAgent h.settings.userAgent).withoutPassword := by
        rw [OutboundRequest.withoutPassword_withUserAgent, hq,
          OutboundRequest.withoutPassword_withUserAgent]
      have hmethod := congrArg OutboundRequest.method hsent
      have hurl := congrArg OutboundRequest.url hsent
      exact send hs hmethod hurl (congrArg (some <| Event.sent ·) hsent) (hb.transport _ _ hsent)
        answer

end Observer

/-! ## Calls -/

/-- Arguments of which the first, if it is a table of settings, does not tell its password. -/
def Arguments.withoutCredentials : List Value → List Value
  | .table t :: args => .table (Table.withoutCredentials t) :: args
  | args => args

theorem Arguments.table_withoutCredentials (args : List Value) (message : String) :
    table (withoutCredentials args) 1 message =
      Table.withoutCredentials <$> table args 1 message := by
  cases args with
  | nil => rfl
  | cons v args => cases v <;> rfl

/-- **The call but for its secrets**: with the same session in all handles and, if it asks for a
request to another host, with the password of its settings not told. -/
def Call.withoutSecrets (c : Call) : Call :=
  let args := c.args.map Value.masked
  { c with args := if c.target = "http" ∧ c.method = "request" then
      Arguments.withoutCredentials args else args }

/-- Arguments that differ in a password ask for requests that differ in a password. -/
theorem OutboundMethod.outgoing_withoutCredentials {args args' : List Value}
    (ha : Arguments.withoutCredentials args' = Arguments.withoutCredentials args) :
    OutboundRequest.withoutPassword <$> outgoing args' .request =
      OutboundRequest.withoutPassword <$> outgoing args .request := by
  have htable := congrArg
    (Arguments.table · 1 "Invalid request configuration. Expected table") ha
  simp only [Arguments.table_withoutCredentials] at htable
  exact map_bind_congr htable OutboundRequest.ofConfig_withoutCredentials

/-- A method that the tier lacks is refused whatever the arguments are. -/
theorem Run.callHttp_of_missing {h : Host} {s : Run} {method : String}
    (hm : method ∉ (Operation.methods s.context.tier).names) (args args' : List Value) :
    s.callHttp h method args' = s.callHttp h method args := by
  by_cases hw : s.context.tier = .widget
  · rw [callHttp_widget hw, callHttp_widget hw]
  · rw [callHttp_of_error hw (Methods.read_of_not_mem hm _ args'),
      callHttp_of_error hw (Methods.read_of_not_mem hm _ args)]

namespace Observer

variable {h : Host} {s s' : Run}

/-- Calls that ask for requests to other hosts may differ in a password. -/
theorem outsider_request (hb : h.Blind) (hs : outsider.SameRun s s') {args args' : List Value}
    (ha : Arguments.withoutCredentials args' = Arguments.withoutCredentials args) :
    outsider.SameOutcome (s.call h "http" "request" args) (s'.call h "http" "request" args') := by
  have ht : s.context.tier = s'.context.tier := hs.context.tier
  by_cases hfull : s.context.tier = .full
  · have hcall := OutboundMethod.call_eq hfull h .request args
    have hcall' := OutboundMethod.call_eq (ht ▸ hfull) h .request args'
    rw [OutboundMethod.name] at hcall hcall'
    rw [hcall, hcall']
    exact outsider_sendIf hb hs (OutboundMethod.outgoing_withoutCredentials ha) _
  · -- the other tiers lack the method, and do not look at its arguments
    have hm : "request" ∉ (Operation.methods s'.context.tier).names := by
      rw [← ht]
      intro hmem
      have hout : (Operation.request .empty).isOutbound = false :=
        Operation.isOutbound_of_mem hfull hmem
      cases hout
    have hcall : s'.call h "http" "request" args' = s'.call h "http" "request" args := by
      rw [Run.call_http, Run.call_http, Run.callHttp_of_missing hm]
    rw [hcall]
    exact call (outsider_suffices hb) hs ht.symm _ _ _

/-- **A call does the same in runs that differ in secrets**, and so does one that differs from it
in secrets. -/
theorem outsider_call (hb : h.Blind) (hs : outsider.SameRun s s') {c c' : Call}
    (hc : c'.withoutSecrets = c.withoutSecrets) :
    outsider.SameOutcome (s.call h c.target c.method c.args)
      (s'.call h c'.target c'.method c'.args) := by
  have ht : s.context.tier = s'.context.tier := hs.context.tier
  obtain ⟨target, method, args⟩ := c
  obtain ⟨target', method', args'⟩ := c'
  have htarget : target' = target := congrArg Call.target hc
  have hmethod : method' = method := congrArg Call.method hc
  have hargs := congrArg Call.args hc
  subst htarget hmethod
  dsimp only [Call.withoutSecrets] at hargs ⊢
  rw [← Run.call_masked h s, ← Run.call_masked h s']
  split at hargs
  · rename_i hrequest
    obtain ⟨rfl, rfl⟩ := hrequest
    exact outsider_request hb hs hargs
  · rw [hargs]
    exact call (outsider_suffices hb) hs ht.symm _ _ _

end Observer

/-- The answers to calls made in order. -/
def Run.answers (h : Host) : Run → List Call → List (Result (List Value))
  | _, [] => []
  | s, c :: calls =>
    let (answer, s) := s.call h c.target c.method c.args
    answer :: s.answers h calls

/-- **Two scripts differ in secrets only**: they do the same with equal answers and with fields
that differ in sessions, but for secrets in what they call for. -/
inductive Script.SameButSecrets : Script → Script → Prop
  | done : SameButSecrets .done .done
  | fail (f : Failure) : SameButSecrets (.fail f) (.fail f)
  | call {c c' : Call} {next next' : Result (List Value) → Script} :
    c'.withoutSecrets = c.withoutSecrets →
    (∀ answer, SameButSecrets (next answer) (next' answer)) →
    SameButSecrets (.call c.target c.method c.args next) (.call c'.target c'.method c'.args next')
  | field {name : String} {next next' : Value → Script} :
    (∀ v v', v'.masked = v.masked → SameButSecrets (next v) (next' v')) →
    SameButSecrets (.field name next) (.field name next')

namespace Observer

variable {h : Host} {s s' : Run}

/-- **Calls are answered alike and leave the same** in runs that differ in secrets. -/
theorem outsider_after (hb : h.Blind) (hs : outsider.SameRun s s') {calls calls' : List Call}
    (hc : calls'.map Call.withoutSecrets = calls.map Call.withoutSecrets) :
    s'.answers h calls' = s.answers h calls ∧
      outsider.SameRun (s.after h calls) (s'.after h calls') := by
  induction calls generalizing s s' calls' with
  | nil =>
    rw [List.map_nil, List.map_eq_nil_iff] at hc
    subst hc
    exact ⟨rfl, hs⟩
  | cons c calls ih =>
    obtain ⟨c', rest, rfl, hc, hrest⟩ := List.map_eq_cons_iff.1 hc
    obtain ⟨hanswer, hstate⟩ := outsider_call hb hs hc
    obtain ⟨hanswers, hleft⟩ := ih hstate hrest
    refine ⟨?_, hleft⟩
    rw [Run.answers, Run.answers]
    dsimp only
    rw [hanswer, hanswers]

/-- Fields differ in sessions at most. -/
theorem outsider_field (hs : outsider.SameRun s s') (name : String) :
    (s'.context.field name).masked = (s.context.field name).masked := by
  have ht : s.context.tier = s'.context.tier := hs.context.tier
  rw [hs.context.rest]
  by_cases hw : s.context.tier = .widget
  · have hfield : s.context.field name = .nil := if_pos hw
    have hfield' : (s.context.rebound s'.context.tier s'.context.session).field name = .nil :=
      if_pos (ht.symm.trans hw)
    rw [hfield, hfield']
  · have hfield : s.context.field name = _ := if_neg hw
    have hfield' : (s.context.rebound s'.context.tier s'.context.session).field name = _ :=
      if_neg (ht ▸ hw)
    rw [hfield, hfield']
    split <;> rfl

/-- **Scripts that differ in secrets do the same.** -/
theorem outsider_run (hb : h.Blind) (hs : outsider.SameRun s s') {script script' : Script}
    (hscript : script.SameButSecrets script') :
    (script'.run h s').1 = (script.run h s).1 ∧
      outsider.SameRun (script.run h s).2 (script'.run h s').2 := by
  induction hscript generalizing s s' with
  | done => exact ⟨rfl, hs⟩
  | fail f => exact ⟨rfl, hs⟩
  | call hc _ ih =>
    obtain ⟨hanswer, hstate⟩ := outsider_call hb hs hc
    rw [Script.run, Script.run]
    dsimp only
    rw [hanswer]
    exact ih _ hstate
  | field _ ih =>
    rw [Script.run, Script.run]
    exact ih _ _ (outsider_field hs _) hs

end Observer

/-! ## What is shown -/

namespace Exchange

/-- The lines of the log, in order. -/
def logLines (x : Exchange) : List LogLine :=
  x.events.filterMap fun
    | .logged line => some line
    | _ => none

/-- **What an exchange shows**: the response, what is kept of the requests sent to other hosts, and
the log. -/
def shown (x : Exchange) : Response × List SentRecord × List LogLine :=
  (x.response, x.sentRequests.map (·.record), x.logLines)

/-- No password is shown. -/
theorem shown_withoutPasswords (x : Exchange) : x.withoutPasswords.shown = x.shown := by
  obtain ⟨response, broken, events⟩ := x
  simp only [shown, sentRequests, logLines, withoutPasswords, List.filterMap_map,
    List.map_filterMap]
  congr 2
  · congr 1
    funext e
    cases e <;> simp [Event.withoutPassword, OutboundRequest.withoutPassword, OutboundRequest.record]
  · congr 1
    funext e
    cases e <;> rfl

theorem shown_eq {x y : Exchange} (hxy : Observer.outsider.SameExchange x y) :
    y.shown = x.shown := by
  rw [← shown_withoutPasswords y, Observer.outsider_sameExchange_iff.1 hxy, shown_withoutPasswords]

end Exchange

/-- **Credentials stay where they are.** A request is bound twice, with two sessions, to exchanges
that are equal but for passwords. Renderer, compiler and transport do nothing by sessions and
passwords. Then calls that are equal but for sessions in their arguments and passwords in settings
of requests are answered alike, failures included, and what is shown after them is the same:
response, records of requests sent, and log. So it is when scripts are executed, with the result
of the script and the line about its failure. -/
theorem credentials_noninterference {h : Host} (hb : h.Blind) (tier : Tier) (r : Request)
    (session session' : Session) {x x' : Exchange}
    (hx : x'.withoutPasswords = x.withoutPasswords) :
    (∀ calls calls' : List Call,
      calls'.map Call.withoutSecrets = calls.map Call.withoutSecrets →
      let s := x.bind tier r session
      let s' := x'.bind tier r session'
      s'.answers h calls' = s.answers h calls ∧
        (s'.after h calls').exchange.shown = (s.after h calls).exchange.shown) ∧
    ∀ script script' : Script, script.SameButSecrets script' →
      let o := h.execute tier r session script x
      let o' := h.execute tier r session' script' x'
      o'.1 = o.1 ∧ o'.2.shown = o.2.shown := by
  have hbind : Observer.outsider.SameRun (x.bind tier r session) (x'.bind tier r session') :=
    ⟨⟨rfl, trivial, rfl⟩, (Observer.outsider_sameExchange_iff.2 hx).note rfl⟩
  refine ⟨fun calls calls' hc => ?_, fun script script' hscript => ?_⟩
  · obtain ⟨hanswers, hleft⟩ := Observer.outsider_after hb hbind hc
    exact ⟨hanswers, Exchange.shown_eq hleft.exchange⟩
  · obtain ⟨hresult, hleft⟩ := Observer.outsider_run hb hbind hscript
    refine ⟨hresult, Exchange.shown_eq ?_⟩
    unfold Host.execute
    dsimp only
    rw [hresult]
    exact Observer.conclude hleft.exchange tier r _

theorem Host.plain_blind : plain.Blind where
  transport _ _ _ := rfl
  renderer r template args x y hxy := by
    rw [← Observer.outsider_sameExchange_iff] at hxy ⊢
    obtain ⟨-, hleft⟩ := hxy.write (Bytes.ofText template)
    exact ⟨rfl, hleft⟩
  compiler _ _ _ _ _ hxy := ⟨rfl, hxy⟩

/-- A session in a table that is to be rendered and a password for another host are not shown, be
it by calls or by a script that fails. -/
theorem credentials_noninterference_plain :
    let r : Request := ⟨"1", "GET", "/", .empty, "", []⟩
    let settings (password : String) : Table := ⟨[(.name "authentication",
      .table ⟨[(.name "password", .string password)]⟩)]⟩
    let calls (token password : String) : List Call :=
      [⟨"http", "request", [.table (settings password)]⟩,
        ⟨"http", "render", [.string "page", .table ⟨[(.name "who",
          .handle (.session ⟨⟨token⟩⟩))]⟩]⟩]
    let script (password : String) : Script :=
      .call "http" "request" [.table (settings password)] fun _ => .fail (.host "gone")
    Host.plain.Blind ∧
    (calls "b" "q").map Call.withoutSecrets = (calls "a" "p").map Call.withoutSecrets ∧
    (((Exchange.start none).bind .full r ⟨⟨"b"⟩⟩).after .plain (calls "b" "q")).exchange.shown =
      (((Exchange.start none).bind .full r ⟨⟨"a"⟩⟩).after .plain (calls "a" "p")).exchange.shown ∧
    (Host.plain.execute .full r ⟨⟨"b"⟩⟩ (script "q") (.start none)).2.shown =
      (Host.plain.execute .full r ⟨⟨"a"⟩⟩ (script "p") (.start none)).2.shown := by
  intro r settings calls script
  have hcalls : (calls "b" "q").map Call.withoutSecrets =
      (calls "a" "p").map Call.withoutSecrets := rfl
  have hsettings : Call.withoutSecrets ⟨"http", "request", [.table (settings "q")]⟩ =
      Call.withoutSecrets ⟨"http", "request", [.table (settings "p")]⟩ := rfl
  have hscript : (script "p").SameButSecrets (script "q") := .call hsettings fun _ => .fail _
  have hstart : (Exchange.start none).withoutPasswords = (Exchange.start none).withoutPasswords :=
    rfl
  obtain ⟨hrun, hexecute⟩ :=
    credentials_noninterference Host.plain_blind .full r ⟨⟨"a"⟩⟩ ⟨⟨"b"⟩⟩ hstart
  exact ⟨Host.plain_blind, hcalls, (hrun _ _ hcalls).2, (hexecute _ _ hscript).2⟩

end WebScript
