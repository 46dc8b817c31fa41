import WebScript.Host

/-!
# How exchanges evolve

Whoever takes part in an exchange does so by the operations of a response writer, and by events
that are noted.

* `Response.Writes`: what a response comes to by these operations, in any number and order.
* `Response.Writes.inOrder`: **nothing is sent before a status**, however a response was written.
* `Exchange.Evolves P`: what an exchange comes to by these operations, and by events that are
  lines of the log or satisfy `P`.
* `Host.Confined`: renderer and compiler have no other access to an exchange.
-/

namespace WebScript

namespace Response

/-- **The operations of a response writer**, in any number and order: changes of the headers, a
status, bytes of the body. -/
inductive Writes (r : Response) : Response → Prop
  | refl : Writes r r
  | mapHeaders {q : Response} (f : Headers → Headers) : Writes r q → Writes r (q.mapHeaders f)
  | writeStatus {q : Response} (status : Nat) : Writes r q → Writes r (q.writeStatus status)
  | write {q : Response} (bytes : Bytes) : Writes r q → Writes r (q.write bytes)

variable {p q r : Response}

theorem Writes.trans (hr : r.Writes q) (hq : q.Writes p) : r.Writes p := by
  induction hq with
  | refl => exact hr
  | mapHeaders f _ ih => exact ih.mapHeaders f
  | writeStatus status _ ih => exact ih.writeStatus status
  | write bytes _ ih => exact ih.write bytes

theorem writeStatus_of_none (h : r.status = none) (status : Nat) :
    r.writeStatus status = { r with status := some status, sent := some r.headers } := by
  unfold writeStatus
  rw [h]

theorem writeStatus_of_some {existing : Nat} (h : r.status = some existing) (status : Nat) :
    r.writeStatus status = r := by
  unfold writeStatus
  rw [h]

theorem status_writeStatus_ne_none (r : Response) (status : Nat) :
    (r.writeStatus status).status ≠ none := by
  cases h : r.status with
  | none => simp [writeStatus_of_none h]
  | some existing => simp [writeStatus_of_some h, h]

/-- Nothing of a response is sent before its status. -/
def InOrder (r : Response) : Prop := r.status = none → r.sent = none ∧ r.body = []

theorem inOrder_empty : empty.InOrder := fun _ => ⟨rfl, rfl⟩

/-- **Nothing is sent before a status**, whatever is written and in whatever order. -/
theorem Writes.inOrder (h : r.Writes q) (hr : r.InOrder) : q.InOrder := by
  induction h with
  | refl => exact hr
  | mapHeaders f _ ih => exact ih
  | writeStatus status _ _ =>
    intro hs
    exact absurd hs (status_writeStatus_ne_none _ _)
  | write bytes _ _ =>
    intro hs
    exact absurd hs (status_writeStatus_ne_none _ 200)

end Response

/-- The event is a line of the log. -/
def Event.isLine : Event → Bool
  | .logged _ => true
  | _ => false

/-- The event is a request handed to the transport. -/
def Event.isSent : Event → Bool
  | .sent _ => true
  | _ => false

namespace Exchange

/-- The requests handed to the transport, in order. -/
def sentRequests (x : Exchange) : List OutboundRequest :=
  x.events.filterMap fun
    | .sent r => some r
    | _ => none

/-- **What an exchange comes to** by the operations of a response writer and by further events,
each of them a line of the log or one that satisfies `P`. -/
structure Evolves (P : Event → Prop) (x y : Exchange) : Prop where
  response : x.response.Writes y.response
  broken : y.broken = x.broken
  events : ∃ es, y.events = x.events ++ es ∧ ∀ e ∈ es, e.isLine ∨ P e

variable {P Q : Event → Prop} {x y z : Exchange}

theorem Evolves.refl (x : Exchange) : x.Evolves P x := ⟨.refl, rfl, [], by simp, by simp⟩

theorem Evolves.trans (hx : x.Evolves P y) (hy : y.Evolves P z) : x.Evolves P z := by
  obtain ⟨es, hes, hP⟩ := hx.events
  obtain ⟨es', hes', hP'⟩ := hy.events
  refine ⟨hx.response.trans hy.response, hy.broken.trans hx.broken, es ++ es', ?_, ?_⟩
  · rw [hes', hes, List.append_assoc]
  · intro e he
    rcases List.mem_append.1 he with he | he
    · exact hP e he
    · exact hP' e he

/-- More kinds of events may be allowed. -/
theorem Evolves.mono (hPQ : ∀ e, P e → Q e) (h : x.Evolves P y) : x.Evolves Q y := by
  obtain ⟨es, hes, hP⟩ := h.events
  exact ⟨h.response, h.broken, es, hes, fun e he => (hP e he).imp_right (hPQ e)⟩

theorem evolves_note {e : Event} (he : e.isLine ∨ P e) (x : Exchange) : x.Evolves P (x.note e) :=
  ⟨.refl, rfl, [e], rfl, by simpa using he⟩

theorem evolves_log (line : LogLine) (x : Exchange) : x.Evolves P (x.log line) :=
  evolves_note (.inl rfl) x

theorem evolves_mapHeaders (f : Headers → Headers) (x : Exchange) :
    x.Evolves P (x.mapHeaders f) :=
  ⟨Response.Writes.refl.mapHeaders f, rfl, [], by simp [mapHeaders], by simp⟩

/-- The response after a status: the warning about a second one is all that differs. -/
theorem response_writeStatus (x : Exchange) (status : Nat) :
    (x.writeStatus status).response = x.response.writeStatus status := by
  unfold writeStatus
  split
  · rename_i existing h
    rw [Response.writeStatus_of_some h]
    rfl
  · rfl

theorem evolves_writeStatus (status : Nat) (x : Exchange) :
    x.Evolves P (x.writeStatus status) := by
  unfold writeStatus
  split
  · exact evolves_log _ x
  · exact ⟨Response.Writes.refl.writeStatus status, rfl, [], by simp, by simp⟩

/-- A status does not change whether the client can be reached. -/
theorem broken_writeStatus (x : Exchange) (status : Nat) :
    (x.writeStatus status).broken = x.broken := by
  unfold writeStatus
  split <;> rfl

theorem evolves_write (bytes : Bytes) (x : Exchange) : x.Evolves P (x.write bytes).2 := by
  unfold write
  split
  · exact .refl x
  · exact ⟨Response.Writes.refl.write bytes, rfl, [], by simp, by simp⟩

/-- Where no request is among the events allowed, none is handed to the transport. -/
theorem Evolves.sentRequests (hP : ∀ e, P e → e.isSent = false) (h : x.Evolves P y) :
    y.sentRequests = x.sentRequests := by
  obtain ⟨es, hes, hall⟩ := h.events
  have hnone : es.filterMap (fun | .sent r => some r | _ => none) =
      ([] : List OutboundRequest) := by
    rw [List.filterMap_eq_nil_iff]
    intro e he
    cases e with
    | sent r =>
      rcases hall _ he with hl | hp
      · simp [Event.isLine] at hl
      · simpa [Event.isSent] using hP _ hp
    | logged _ | compiled | rendered _ _ _ => rfl
  rw [Exchange.sentRequests, hes, List.filterMap_append, hnone, List.append_nil]
  rfl

end Exchange

/-- **Renderer and compiler are confined** to what they are handed: a response writer. They leave
behind nothing but what its operations come to, and lines of the log. -/
structure Host.Confined (h : Host) : Prop where
  renderer : ∀ r template args (x : Exchange),
    x.Evolves (fun _ => False) (h.renderer r template args x).2
  compiler : ∀ r session (x : Exchange), x.Evolves (fun _ => False) (h.compiler r session x).2

/-- A host with nothing of its own: the response to a template is its name, there are no widgets,
no reference data and no files, and the transport answers every request with an empty page. -/
def Host.plain : Host where
  settings := .default
  reference := .empty
  renderer _ template _ x := (.ok (), (x.write (Bytes.ofText template)).2)
  compiler _ _ x := (⟨[], none⟩, x)
  codes := none
  withoutListed := dropListed
  transport _ := .ok ⟨200, .empty, []⟩
  files _ := .error .missing

theorem Host.plain_confined : plain.Confined :=
  ⟨fun _ template _ x => Exchange.evolves_write (Bytes.ofText template) x, fun _ _ x => .refl x⟩

end WebScript
