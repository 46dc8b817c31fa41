import Mathlib.Tactic.ByContra
import WebScript.Proofs.Exchange

/-!
# The moments of a response

A response is written by one operation of a response writer after the other, and there is a moment
after each of them.

* `Response.moment`: the response after the first operations of a list.
* `Response.keeps_moment`: **what has been sent stays sent**, from any moment to any later one.
* `Response.sent_moment`: **the headers that are sent are those that stand when the status is
  written**.
* `Response.Monotone`: both together, for a response in time.
-/

namespace WebScript.Response

/-- An operation of a response writer. -/
inductive Step where
  | mapHeaders (f : Headers → Headers)
  | writeStatus (status : Nat)
  | write (bytes : Bytes)

/-- What an operation makes of a response. -/
def step (r : Response) : Step → Response
  | .mapHeaders f => r.mapHeaders f
  | .writeStatus status => r.writeStatus status
  | .write bytes => r.write bytes

/-- What operations make of a response, one after the other. -/
def steps (r : Response) (ops : List Step) : Response := ops.foldl step r

/-- The response after the first `n` of the operations. -/
def moment (r : Response) (ops : List Step) (n : Nat) : Response := r.steps (ops.take n)

variable {p q r : Response}

theorem steps_cons (r : Response) (op : Step) (ops : List Step) :
    r.steps (op :: ops) = (r.step op).steps ops := rfl

theorem steps_append (r : Response) (ops ops' : List Step) :
    r.steps (ops ++ ops') = (r.steps ops).steps ops' := List.foldl_append

theorem steps_concat (r : Response) (ops : List Step) (op : Step) :
    r.steps (ops ++ [op]) = (r.steps ops).step op := steps_append r ops [op]

/-- Operations in order are what a response writer does. -/
theorem writes_steps (r : Response) (ops : List Step) : r.Writes (r.steps ops) := by
  induction ops generalizing r with
  | nil => exact .refl
  | cons op ops ih =>
    have hstep : r.Writes (r.step op) := by
      cases op with
      | mapHeaders f => exact Writes.refl.mapHeaders f
      | writeStatus status => exact Writes.refl.writeStatus status
      | write bytes => exact Writes.refl.write bytes
    rw [steps_cons]
    exact hstep.trans (ih (r.step op))

/-- Whatever a response writer does is done by operations in order. -/
theorem Writes.exists_steps (h : r.Writes q) : ∃ ops, q = r.steps ops := by
  have hlast (p : Response) (op : Step) (hp : ∃ ops, p = r.steps ops) :
      ∃ ops, p.step op = r.steps ops := by
    obtain ⟨ops, rfl⟩ := hp
    exact ⟨ops ++ [op], (steps_concat r ops op).symm⟩
  induction h with
  | refl => exact ⟨[], rfl⟩
  | mapHeaders f _ ih => exact hlast _ (.mapHeaders f) ih
  | writeStatus status _ ih => exact hlast _ (.writeStatus status) ih
  | write bytes _ ih => exact hlast _ (.write bytes) ih

/-! ## What stays -/

/-- What a response has sent is sent in a later one too: status and headers are the same, and the
body is continued. -/
structure Keeps (r q : Response) : Prop where
  head : r.status ≠ none → q.status = r.status ∧ q.sent = r.sent
  body : r.body <+: q.body

theorem Keeps.refl (r : Response) : r.Keeps r := ⟨fun _ => ⟨rfl, rfl⟩, List.prefix_refl _⟩

theorem Keeps.trans (hr : r.Keeps q) (hq : q.Keeps p) : r.Keeps p := by
  refine ⟨fun hs => ?_, hr.body.trans hq.body⟩
  obtain ⟨hstatus, hsent⟩ := hr.head hs
  have hs' : q.status ≠ none := by rwa [hstatus]
  obtain ⟨hstatus', hsent'⟩ := hq.head hs'
  exact ⟨hstatus'.trans hstatus, hsent'.trans hsent⟩

theorem keeps_mapHeaders (r : Response) (f : Headers → Headers) : r.Keeps (r.mapHeaders f) :=
  ⟨fun _ => ⟨rfl, rfl⟩, List.prefix_refl _⟩

theorem keeps_writeStatus (r : Response) (status : Nat) : r.Keeps (r.writeStatus status) := by
  cases hs : r.status with
  | none =>
    rw [writeStatus_of_none hs]
    exact ⟨fun h => absurd hs h, List.prefix_refl _⟩
  | some existing =>
    rw [writeStatus_of_some hs]
    exact .refl r

theorem keeps_write (r : Response) (bytes : Bytes) : r.Keeps (r.write bytes) := by
  have hstatus : r.Keeps (r.writeStatus 200) := keeps_writeStatus r 200
  have hbody : (r.writeStatus 200).Keeps (r.write bytes) :=
    ⟨fun _ => ⟨rfl, rfl⟩, List.prefix_append _ _⟩
  exact hstatus.trans hbody

theorem keeps_step (r : Response) (op : Step) : r.Keeps (r.step op) := by
  cases op with
  | mapHeaders f => exact keeps_mapHeaders r f
  | writeStatus status => exact keeps_writeStatus r status
  | write bytes => exact keeps_write r bytes

theorem keeps_steps (r : Response) (ops : List Step) : r.Keeps (r.steps ops) := by
  induction ops generalizing r with
  | nil => exact .refl r
  | cons op ops ih =>
    rw [steps_cons]
    exact (keeps_step r op).trans (ih (r.step op))

/-- Whatever is written, what has been sent stays. -/
theorem Writes.keeps (h : r.Writes q) : r.Keeps q := by
  obtain ⟨ops, rfl⟩ := h.exists_steps
  exact keeps_steps r ops

/-- Operations on the headers send nothing. -/
theorem steps_of_mapHeaders {ops : List Step} (h : ∀ op ∈ ops, ∃ f, op = .mapHeaders f) :
    (r.steps ops).status = r.status ∧ (r.steps ops).sent = r.sent ∧
      (r.steps ops).body = r.body := by
  induction ops generalizing r with
  | nil => exact ⟨rfl, rfl, rfl⟩
  | cons op ops ih =>
    obtain ⟨f, rfl⟩ := h op List.mem_cons_self
    have hops := ih (r := r.mapHeaders f) fun op' hop' => h op' (List.mem_cons_of_mem _ hop')
    rw [steps_cons]
    exact hops

/-! ## Moments -/

variable {ops : List Step}

theorem moment_length (r : Response) (ops : List Step) :
    r.moment ops ops.length = r.steps ops := by
  rw [moment, List.take_length]

theorem moment_succ {n : Nat} (hn : n < ops.length) :
    r.moment ops (n + 1) = (r.moment ops n).step ops[n] := by
  rw [moment, List.take_succ_eq_append_getElem hn, steps_concat, moment]

/-- The moment after the first operations of a list. -/
theorem moment_of_prefix {ops' : List Step} (h : ops' <+: ops) :
    r.moment ops ops'.length = r.steps ops' := by
  obtain ⟨rest, rfl⟩ := h
  rw [moment, List.take_left]

/-- A later moment comes from an earlier one by the operations between them. -/
theorem moment_of_le {n m : Nat} (hnm : n ≤ m) :
    r.moment ops m = (r.moment ops n).steps ((ops.take m).drop n) := by
  have hcut : (ops.take m).take n = ops.take n := by rw [List.take_take, Nat.min_eq_left hnm]
  rw [moment, moment, ← steps_append, ← hcut, List.take_append_drop]

/-- **What has been sent stays sent**: status and headers do not change once there is a status,
and the body grows at its end only. -/
theorem keeps_moment (r : Response) (ops : List Step) {n m : Nat} (hnm : n ≤ m) :
    (r.moment ops n).Keeps (r.moment ops m) := by
  rw [moment_of_le hnm]
  exact keeps_steps _ _

/-- Nothing is sent before a status, at any moment. -/
theorem inOrder_moment (hr : r.InOrder) (ops : List Step) (n : Nat) : (r.moment ops n).InOrder :=
  (writes_steps r (ops.take n)).inOrder hr

/-- The operation that writes the status sends the headers as they stand. -/
theorem sent_step {op : Step} (hs : r.status = none) (hop : (r.step op).status ≠ none) :
    (r.step op).sent = some r.headers := by
  cases op with
  | mapHeaders f => exact absurd hs hop
  | writeStatus status =>
    rw [step, writeStatus_of_none hs]
  | write bytes =>
    rw [step, write, writeStatus_of_none hs]

/-- **The headers that are sent are those that stand when the status is written**, at every moment
behind that one. -/
theorem sent_moment {n m : Nat} (hs : (r.moment ops n).status = none)
    (hs' : (r.moment ops (n + 1)).status ≠ none) (hnm : n < m) :
    (r.moment ops m).sent = some (r.moment ops n).headers := by
  have hn : n < ops.length := by
    -- behind the last operation nothing changes
    by_contra hn
    have hall : ops.take (n + 1) = ops.take n := by
      rw [List.take_of_length_le (by omega), List.take_of_length_le (by omega)]
    rw [moment, hall] at hs'
    exact hs' hs
  have hwritten : (r.moment ops (n + 1)).sent = some (r.moment ops n).headers := by
    rw [moment_succ hn] at hs' ⊢
    exact sent_step hs hs'
  have hkept := (keeps_moment r ops hnm).head hs'
  exact hkept.2.trans hwritten

/-- **A response that is monotone in time**: what has been sent stays as it is. -/
structure Monotone (w : Nat → Response) : Prop where
  /-- Status and sent headers, once there, never change. -/
  head : ∀ n m, n ≤ m → (w n).status ≠ none →
    (w m).status = (w n).status ∧ (w m).sent = (w n).sent
  /-- The body grows at its end only. -/
  body : ∀ n m, n ≤ m → (w n).body <+: (w m).body
  /-- Without a status there are no sent headers and no body. -/
  inOrder : ∀ n, (w n).status = none → (w n).sent = none ∧ (w n).body = []
  /-- The sent headers are those that stand when the status is written. -/
  sent : ∀ n m, n < m → (w n).status = none → (w (n + 1)).status ≠ none →
    (w m).sent = some (w n).headers

/-- **Whatever is done to a new response, it is monotone.** -/
theorem monotone_moment (ops : List Step) : Monotone (empty.moment ops) where
  head _ _ hnm := (keeps_moment empty ops hnm).head
  body _ _ hnm := (keeps_moment empty ops hnm).body
  inOrder := inOrder_moment inOrder_empty ops
  sent _ _ hnm hs hs' := sent_moment hs hs' hnm

end WebScript.Response
