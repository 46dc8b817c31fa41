import WebScript.Proofs.Calls
import WebScript.Proofs.Multipart.Threshold

/-!
# The form of a script

* `Run.read?`: the form that a call reads, if it reads one; `Run.forms`: all forms that a list of
  calls reads.
* `Run.context_call`: a call that reads a form puts it in the place of the one before, and all
  others leave the context as it is.
* `Run.context_after`: **after any calls the context holds the last form that was read**, and is
  else as it was.
* `Run.file?_after`: the files of a field stay the same, whatever is read in between.
* `form_state_machine`: **values and form stay in step**.
-/

namespace WebScript

open Result Failure

namespace Context

variable {c : Context}

/-- The memory with which an operation reads the form, if it reads it: what is asked for, or what
the host allows, for the file of a form that has not been read. -/
def memory? (h : Host) (c : Context) : Operation → Option Nat
  | .parseForm maxMemory => some (h.memoryFor maxMemory)
  | .getFile _ => if c.form = none then some h.settings.maxMemory else none
  | _ => none

/-- The form as it can be read with some memory. -/
def formWith? (c : Context) (maxMemory : Nat) : Option Multipart :=
  (Multipart.parse c.request.contentType c.body maxMemory).toOption

/-- The context with a form that has been read, if there is one. -/
def holding (c : Context) : Option Multipart → Context
  | some form => { c with values := form.values, form := some form }
  | none => c

/-- The body is read as a form, with some memory. -/
def Gives (c : Context) (form : Multipart) : Prop :=
  ∃ maxMemory, Multipart.parse c.request.contentType c.body maxMemory = .ok form

/-- The form of the context, if it has one, was read from its body. -/
def IsRead (c : Context) : Prop := ∀ form, c.form = some form → c.Gives form

/-- All forms that a body gives agree. -/
theorem Gives.agrees {m m' : Multipart} (hm : c.Gives m) (hm' : c.Gives m') : m.Agrees m' := by
  obtain ⟨maxMemory, hparse⟩ := hm
  obtain ⟨maxMemory', hparse'⟩ := hm'
  exact Multipart.parse_agrees hparse hparse'

/-- What the body gives does not depend on what has been read of it. -/
theorem gives_holding (c : Context) (form : Option Multipart) :
    (c.holding form).Gives = c.Gives := by
  cases form <;> rfl

theorem form_holding (hc : c.form = none) (form : Option Multipart) :
    (c.holding form).form = form := by
  cases form with
  | none => exact hc
  | some form => rfl

theorem values_holding (c : Context) (form : Option Multipart) :
    (c.holding form).values = (form.map (·.values)).getD c.values := by
  cases form <;> rfl

theorem gives_of_formWith? {maxMemory : Nat} {form : Multipart}
    (hform : c.formWith? maxMemory = some form) : c.Gives form := by
  unfold formWith? at hform
  cases hparse : Multipart.parse c.request.contentType c.body maxMemory with
  | error f =>
    rw [hparse] at hform
    cases hform
  | ok m =>
    rw [hparse] at hform
    cases hform
    exact ⟨maxMemory, hparse⟩

/-- The body is read as a form that the context then holds, or it cannot be read. -/
theorem parseForm_cases (c : Context) (maxMemory : Nat) :
    (∃ form, c.formWith? maxMemory = some form ∧
        c.parseForm maxMemory = .ok (c.holding (some form))) ∨
      ∃ f, c.formWith? maxMemory = none ∧ c.parseForm maxMemory = .error f := by
  unfold parseForm formWith?
  cases Multipart.parse c.request.contentType c.body maxMemory with
  | error f => exact .inr ⟨f, rfl, rfl⟩
  | ok form => exact .inl ⟨form, rfl, rfl⟩

theorem withForm_eq (c : Context) (maxMemory : Nat) :
    c.withForm maxMemory =
      c.holding (if c.form = none then c.formWith? maxMemory else none) := by
  unfold withForm
  cases hform : c.form with
  | some form => rfl
  | none =>
    dsimp only
    rcases parseForm_cases c maxMemory with ⟨form, hf, hp⟩ | ⟨f, hf, hp⟩
    · rw [hp, if_pos rfl, hf]
    · rw [hp, if_pos rfl, hf]
      rfl

/-- An urlencoded form is not read as a multipart form. -/
theorem not_gives_of_urlencoded (hc : c.request.postsUrlencoded) (form : Multipart) :
    ¬ c.Gives form := by
  have htype : (Form.mediaType c.request.contentType == "application/x-www-form-urlencoded") =
      true := (Bool.and_eq_true_iff.1 hc).2
  have hmedia : Form.mediaType c.request.contentType = "application/x-www-form-urlencoded" :=
    eq_of_beq htype
  have hboundary : Form.boundary c.request.contentType = .error .notMultipart := by
    unfold Form.boundary
    dsimp only
    rw [hmedia, if_pos (by decide)]
  rintro ⟨maxMemory, hparse⟩
  rw [Multipart.parse, hboundary] at hparse
  cases hparse

theorem IsRead.holding (hc : c.IsRead) {form : Option Multipart}
    (hform : ∀ m, form = some m → c.Gives m) : (c.holding form).IsRead := by
  unfold IsRead
  rw [gives_holding]
  cases form with
  | none => exact hc
  | some m =>
    intro m' hm'
    cases hm'
    exact hform m rfl

/-- A form that is read in the place of another has the same files. -/
theorem IsRead.file?_holding (hc : c.IsRead) (hform : c.form ≠ none) {form : Multipart}
    (hread : c.Gives form) (field : String) :
    (c.holding (some form)).file? field = c.file? field := by
  obtain ⟨held, hheld⟩ := Option.ne_none_iff_exists'.1 hform
  have hagrees : held.Agrees form := (hc held hheld).agrees hread
  have hleft : (c.holding (some form)).file? field = form.file? field := rfl
  have hright : c.file? field = held.file? field := by
    rw [file?, hheld]
    rfl
  rw [hleft, hright]
  exact hagrees.file?_eq field

/-- Who may ask for the values of the form gets some if the request posts, and nil otherwise. -/
theorem field_postValues (ht : c.tier ≠ .widget) :
    c.field "postValues" = .nil ↔ c.request.method ≠ "POST" := by
  rw [field, if_neg ht]
  by_cases hpost : c.request.method = "POST"
  · simp [postValues?, hpost]
  · simp [postValues?, hpost]

end Context

namespace Run

variable {h : Host} {s : Run}

/-! ## One call -/

/-- The form that an operation reads, if it reads one. -/
def formOf? (h : Host) (s : Run) (op : Operation) : Option Multipart :=
  (s.context.memory? h op).bind s.context.formWith?

theorem context_parseForm (h : Host) (s : Run) (requested : Int) :
    (s.parseForm h requested).2.context =
      s.context.holding (s.context.formWith? (h.memoryFor requested)) := by
  unfold parseForm
  rcases Context.parseForm_cases s.context (h.memoryFor requested) with ⟨form, hf, hp⟩ |
    ⟨f, hf, hp⟩
  · rw [hp, hf]
  · rw [hp, hf]
    rfl

/-- An operation that reads no form leaves the context as it is. -/
theorem context_perform_of_memory?_eq_none {op : Operation} (hop : s.context.memory? h op = none) :
    (s.perform h op).2.context = s.context := by
  cases op <;> rw [perform]
  case parseForm => cases hop
  case getFile field =>
    have hform : s.context.form ≠ none := by
      intro hform
      rw [Context.memory?, if_pos hform] at hop
      cases hop
    rw [context_getFile, Context.withForm_eq, if_neg hform]
    rfl
  case setCookie => exact context_setCookie ..
  case write => exact context_writeBody ..
  case render => exact context_render ..
  case serveFile => exact context_serveFile ..
  case get | postForm | request => exact context_sendIf ..
  case setHeader | redirect => rfl

/-- **An operation that reads a form** leaves the context with it, and any other leaves the context
as it is. -/
theorem context_perform (h : Host) (s : Run) (op : Operation) :
    (s.perform h op).2.context = s.context.holding (s.formOf? h op) := by
  cases hmemory : s.context.memory? h op with
  | none =>
    rw [formOf?, hmemory, context_perform_of_memory?_eq_none hmemory]
    rfl
  | some maxMemory =>
    -- only two operations have memory to read a form with
    rw [formOf?, hmemory, Option.bind_some]
    cases op with
    | parseForm requested =>
      cases hmemory
      rw [perform]
      exact context_parseForm h s requested
    | getFile field =>
      have hform : s.context.form = none := by
        by_contra hform
        rw [Context.memory?, if_neg hform] at hmemory
        cases hmemory
      rw [Context.memory?, if_pos hform] at hmemory
      cases hmemory
      rw [perform, context_getFile, Context.withForm_eq, if_pos hform]
    | _ => cases hmemory

/-- The form that a call reads, if it reads one. -/
def read? (h : Host) (s : Run) (c : Call) : Option Multipart :=
  (s.operation? c).bind (s.formOf? h)

/-- **A call that reads a form** leaves the context with it, and any other leaves the context as it
is. -/
theorem context_call (h : Host) (s : Run) (c : Call) :
    (s.call h c.target c.method c.args).2.context = s.context.holding (s.read? h c) := by
  unfold read?
  rcases call_cases h s c with ⟨op, hop, hcall⟩ | ⟨hop, hcontext, -⟩
  · rw [hcall, hop, Option.bind_some]
    exact context_perform h s op
  · rw [hcontext, hop, Option.bind_none]
    rfl

theorem gives_of_read? {c : Call} {form : Multipart} (hr : s.read? h c = some form) :
    s.context.Gives form := by
  obtain ⟨op, -, hop⟩ := Option.bind_eq_some_iff.1 hr
  obtain ⟨maxMemory, -, hform⟩ := Option.bind_eq_some_iff.1 hop
  exact Context.gives_of_formWith? hform

/-- Only two methods read forms. -/
theorem read?_of_other {c : Call}
    (hc : ¬ (c.target = "http" ∧ c.method ∈ ["parseMultiPartForm", "getFormFile"])) :
    s.read? h c = none := by
  unfold read?
  cases hop : s.operation? c with
  | none => rfl
  | some op =>
    obtain ⟨htarget, hmethod⟩ := call_of_operation? hop
    have hother : op.method ∉ ["parseMultiPartForm", "getFormFile"] := by
      rw [hmethod]
      exact fun hmem => hc ⟨htarget, hmem⟩
    have hmemory : s.context.memory? h op = none := by
      cases op with
      | parseForm _ => simp [Operation.method] at hother
      | getFile _ => simp [Operation.method] at hother
      | _ => rfl
    rw [Option.bind_some, formOf?, hmemory]
    rfl

/-! ## Runs -/

/-- The forms that calls made in order read. -/
def forms (h : Host) (s : Run) : List Call → List Multipart
  | [] => []
  | c :: calls => (s.read? h c).toList ++ (s.call h c.target c.method c.args).2.forms h calls

/-- **After any calls the context holds the last form that was read**, and is else as it was. -/
theorem context_after (h : Host) (s : Run) (calls : List Call) :
    (s.after h calls).context = s.context.holding (s.forms h calls).getLast? := by
  induction calls generalizing s with
  | nil => rfl
  | cons c calls ih =>
    rw [after_cons, ih, context_call, forms]
    cases s.read? h c with
    | none => rfl
    | some form =>
      -- the form of the first call stays unless a later one is read
      cases hforms : (s.call h c.target c.method c.args).2.forms h calls with
      | nil => rfl
      | cons form' forms =>
        rw [Option.toList_some, List.getLast?_append]
        rfl

/-- Every form is read from the one body. -/
theorem gives_of_mem_forms {calls : List Call} {form : Multipart} (hm : form ∈ s.forms h calls) :
    s.context.Gives form := by
  induction calls generalizing s with
  | nil => cases hm
  | cons c calls ih =>
    rw [forms, List.mem_append, Option.mem_toList] at hm
    rcases hm with hfirst | hlater
    · exact gives_of_read? hfirst
    · have hgives := ih hlater
      rw [context_call, Context.gives_holding] at hgives
      exact hgives

theorem isRead_after (hs : s.context.IsRead) (calls : List Call) :
    (s.after h calls).context.IsRead := by
  have hlast : ∀ form, (s.forms h calls).getLast? = some form → s.context.Gives form := by
    intro form hform
    exact gives_of_mem_forms (List.mem_of_getLast? hform)
  rw [context_after]
  exact hs.holding hlast

/-- **The files stay the same** once a form has been read, whatever is read after it. -/
theorem file?_after (hs : s.context.IsRead) (hform : s.context.form ≠ none) (calls : List Call)
    (field : String) :
    (s.after h calls).context.file? field = s.context.file? field := by
  rw [context_after]
  cases hlast : (s.forms h calls).getLast? with
  | none => rfl
  | some form =>
    have hgives : s.context.Gives form := gives_of_mem_forms (List.mem_of_getLast? hlast)
    exact hs.file?_holding hform hgives field

theorem form_after_ne_none (hform : s.context.form ≠ none) (calls : List Call) :
    (s.after h calls).context.form ≠ none := by
  rw [context_after]
  cases (s.forms h calls).getLast? with
  | none => exact hform
  | some form => exact Option.some_ne_none form

/-- Where an urlencoded form is posted, no other is ever read. -/
theorem forms_of_urlencoded (hs : s.context.request.postsUrlencoded) (calls : List Call) :
    s.forms h calls = [] := by
  rw [List.eq_nil_iff_forall_not_mem]
  intro form hm
  exact Context.not_gives_of_urlencoded hs form (gives_of_mem_forms hm)

/-! ## The calls that read a form -/

/-- An operation that is to read the form fails if it cannot. -/
theorem formOf?_parseForm (h : Host) (s : Run) (maxMemory : Int) :
    s.formOf? h (.parseForm maxMemory) = none ↔
      ∃ f, (s.perform h (.parseForm maxMemory)).1 = .error f := by
  rw [formOf?, Context.memory?, Option.bind_some, perform]
  unfold parseForm
  rcases Context.parseForm_cases s.context (h.memoryFor maxMemory) with ⟨form, hf, hp⟩ |
    ⟨f, hf, hp⟩
  · rw [hp, hf]
    simp
  · rw [hp, hf]
    simp

/-- A script that asks for its form to be read is told if it could not be. -/
theorem read?_parseMultiPartForm (ht : s.context.tier ≠ .widget) (args : List Value) :
    s.read? h ⟨"http", "parseMultiPartForm", args⟩ = none ↔
      ∃ f, (s.call h "http" "parseMultiPartForm" args).1 = .error f := by
  have hread : (Operation.methods s.context.tier).read s.context.tier "parseMultiPartForm" args =
      (fun n => .parseForm (n.getD 0)) <$>
        Arguments.integer? args 1 "Invalid form size. Expected number" :=
    Operation.read_shared ht "parseMultiPartForm" rfl args
  rw [call_http]
  cases hargs : Arguments.integer? args 1 "Invalid form size. Expected number" with
  | error f =>
    have hfault : (Operation.methods s.context.tier).read s.context.tier "parseMultiPartForm"
        args = .error f := by
      rw [hread, hargs]
      rfl
    rw [read?, operation?_of_error hfault, callHttp_of_error ht hfault]
    simp
  | ok requested =>
    have hop : (Operation.methods s.context.tier).read s.context.tier "parseMultiPartForm" args =
        .ok (.parseForm (requested.getD 0)) := by
      rw [hread, hargs]
      rfl
    rw [read?, operation?_of_ok hop, callHttp_of_ok ht hop, Option.bind_some]
    exact formOf?_parseForm h s (requested.getD 0)

/-- A request for a file is read as such. -/
theorem read_getFormFile (ht : s.context.tier ≠ .widget) (field : String) (rest : List Value) :
    (Operation.methods s.context.tier).read s.context.tier "getFormFile" (.string field :: rest) =
      .ok (.getFile field) :=
  Operation.read_shared ht "getFormFile" rfl _

/-- For a file, a form that has not been read is read with the memory of the host. -/
theorem read?_getFormFile (ht : s.context.tier ≠ .widget) (field : String) (rest : List Value) :
    s.read? h ⟨"http", "getFormFile", .string field :: rest⟩ =
      if s.context.form = none then s.context.formWith? h.settings.maxMemory else none := by
  rw [read?, operation?_of_ok (read_getFormFile ht field rest), Option.bind_some, formOf?,
    Context.memory?]
  by_cases hform : s.context.form = none
  · rw [if_pos hform, if_pos hform, Option.bind_some]
  · rw [if_neg hform, if_neg hform, Option.bind_none]

theorem call_getFormFile (ht : s.context.tier ≠ .widget) (field : String) (rest : List Value) :
    s.call h "http" "getFormFile" (.string field :: rest) = s.getFile h field := by
  rw [call_http, callHttp_of_ok ht (read_getFormFile ht field rest)]
  rfl

/-- What is answered for a field is its file in the form that is there then. -/
theorem getFile_eq_file {field : String} {f : Upload} :
    (s.getFile h field).1 = .ok [.handle (.file f)] ↔
      (s.getFile h field).2.context.file? field = some f := by
  rw [context_getFile, getFile]
  dsimp only
  cases (s.context.withForm h.settings.maxMemory).file? field with
  | none => simp
  | some f' => simp

/-- Where none has been read, a file is looked for in the form that can be. -/
theorem file?_getFile_of_none (hform : s.context.form = none) (field : String) :
    (s.getFile h field).2.context.file? field =
      (s.context.formWith? h.settings.maxMemory).bind (·.file? field) := by
  rw [context_getFile, Context.withForm_eq, if_pos hform, Context.file?,
    Context.form_holding hform]

/-- Where a form has been read, it is not read again for a file. -/
theorem context_getFile_of_form (hform : s.context.form ≠ none) (field : String) :
    (s.getFile h field).2.context = s.context := by
  rw [context_getFile, Context.withForm_eq, if_neg hform]
  rfl

theorem isRead_getFile (hs : s.context.IsRead) (field : String) :
    (s.getFile h field).2.context.IsRead := by
  rw [context_getFile, Context.withForm_eq]
  refine hs.holding fun m hm => ?_
  split at hm
  · exact Context.gives_of_formWith? hm
  · cases hm

/-- **A file that has been got** is got again, whatever is called in between. -/
theorem getFile_after {field : String} {f : Upload} (hs : s.context.IsRead)
    (hf : (s.getFile h field).1 = .ok [.handle (.file f)]) (calls : List Call) :
    (((s.getFile h field).2.after h calls).getFile h field).1 = .ok [.handle (.file f)] := by
  have hfile := getFile_eq_file.1 hf
  have hform : (s.getFile h field).2.context.form ≠ none := by
    intro hnone
    rw [Context.file?, hnone] at hfile
    cases hfile
  rw [getFile_eq_file, context_getFile_of_form (form_after_ne_none hform calls),
    file?_after (isRead_getFile hs field) hform]
  exact hfile

theorem call_getFormFile_after (ht : s.context.tier ≠ .widget) (hs : s.context.IsRead)
    {field : String} {f : Upload} {rest : List Value}
    (hf : (s.call h "http" "getFormFile" (.string field :: rest)).1 = .ok [.handle (.file f)])
    (calls : List Call) (rest' : List Value) :
    (((s.call h "http" "getFormFile" (.string field :: rest)).2.after h calls).call h "http"
      "getFormFile" (.string field :: rest')).1 = .ok [.handle (.file f)] := by
  rw [call_getFormFile ht] at hf ⊢
  have ht' : ((s.getFile h field).2.after h calls).context.tier ≠ .widget := by
    rw [Context.tier_eq_of_binding (after_binding h _ calls), context_getFile,
      Context.tier_eq_of_binding (Context.binding_withForm s.context _)]
    exact ht
  rw [call_getFormFile ht']
  exact getFile_after hs hf calls

end Run

/-- **Values and form stay in step.** Whatever a page or an event hook calls, it is left with the
last form that a call has read, and with its values; where none has been read, with the values of
the urlencoded form that was posted, or none at all. A call that reads no form changes nothing of
what the script is bound to: so does `parseMultiPartForm` just if it fails, `getFormFile` if there
is a form already or none can be read with the memory of the host, and every other call. An
urlencoded form stays for good, and the values are there to be asked for just if the request posts.
A file that has been got is got again at any later time, whatever memory forms are read with in
between. -/
theorem form_state_machine (h : Host) (x : Exchange) {tier : Tier} (ht : tier ≠ .widget)
    (r : Request) (session : Session) (calls : List Call) :
    let start := x.bind tier r session
    let s := start.after h calls
    (s.context.form = (start.forms h calls).getLast? ∧
      s.context.values =
        match s.context.form with
        | some form => form.values
        | none => if r.postsUrlencoded then .ofUrlencoded r.body.toText else .empty) ∧
    (∀ c : Call, s.read? h c = none →
      (s.call h c.target c.method c.args).2.context = s.context) ∧
    (∀ args, s.read? h ⟨"http", "parseMultiPartForm", args⟩ = none ↔
      ∃ f, (s.call h "http" "parseMultiPartForm" args).1 = .error f) ∧
    (∀ field rest, s.read? h ⟨"http", "getFormFile", .string field :: rest⟩ =
      if s.context.form = none then
        (Multipart.parse r.contentType r.body h.settings.maxMemory).toOption
      else none) ∧
    (∀ c : Call, ¬ (c.target = "http" ∧ c.method ∈ ["parseMultiPartForm", "getFormFile"]) →
      s.read? h c = none) ∧
    (r.postsUrlencoded → s.context.values = .ofUrlencoded r.body.toText) ∧
    (s.context.field "postValues" = .nil ↔ r.method ≠ "POST") ∧
    ∀ field rest f,
      (s.call h "http" "getFormFile" (.string field :: rest)).1 = .ok [.handle (.file f)] →
      ∀ later rest',
        (((s.call h "http" "getFormFile" (.string field :: rest)).2.after h later).call h "http"
          "getFormFile" (.string field :: rest')).1 = .ok [.handle (.file f)] := by
  intro start s
  have hbinding : s.context.binding = start.context.binding := Run.after_binding h start calls
  have hrequest : s.context.request = r.withoutBody := congrArg Context.request hbinding
  have hbody : s.context.body = r.body := congrArg Context.body hbinding
  have htier : s.context.tier ≠ .widget := by
    rw [Context.tier_eq_of_binding hbinding]
    exact ht
  have hcontext : s.context = start.context.holding (start.forms h calls).getLast? :=
    Run.context_after h start calls
  have hform : s.context.form = (start.forms h calls).getLast? := by
    rw [hcontext]
    exact Context.form_holding rfl _
  have hvalues : s.context.values = (s.context.form.map (·.values)).getD start.context.values := by
    rw [hform, hcontext]
    exact Context.values_holding _ _
  have hread : s.context.IsRead := Run.isRead_after (by intro form hnone; cases hnone) calls
  refine ⟨⟨hform, ?_⟩, ?_, Run.read?_parseMultiPartForm htier, ?_, ?_, ?_, ?_, ?_⟩
  · rw [hvalues]
    cases s.context.form <;> rfl
  · intro c hc
    rw [Run.context_call, hc]
    rfl
  · intro field rest
    rw [Run.read?_getFormFile htier, Context.formWith?, hrequest, hbody]
    rfl
  · intro c hother
    exact Run.read?_of_other hother
  · intro hpost
    have hnone : s.context.form = none := by
      rw [hform, Run.forms_of_urlencoded hpost calls]
      rfl
    rw [hvalues, hnone]
    exact if_pos hpost
  · rw [Context.field_postValues htier, hrequest]
    rfl
  · intro field rest f hf
    exact Run.call_getFormFile_after htier hread hf

/-- Where the form could not be read for want of a number, a file is got, and got again after the
form has been read with too little memory to keep it in. The values of an urlencoded form that was
posted outlast all attempts to read another. -/
theorem form_state_machine_of_upload :
    let body := Bytes.ofText
      "--b\r\nContent-Disposition: form-data; name=\"up\"; filename=\"a\"\r\n\r\nxy\r\n--b--"
    let r : Request := ⟨"1", "POST", "/",
      Headers.empty.set "Content-Type" "multipart/form-data; boundary=b", "", body⟩
    let s := ((Exchange.start none).bind .full r .anonymous).after .plain
      [⟨"http", "parseMultiPartForm", [.string "all"]⟩]
    let file : Value := .handle (.file ⟨"a", "application/octet-stream", [120, 121]⟩)
    let got := s.call .plain "http" "getFormFile" [.string "up"]
    let posted : Request := ⟨"2", "POST", "/",
      Headers.empty.set "Content-Type" "application/x-www-form-urlencoded", "",
      Bytes.ofText "a=1+2&b=%C3%A9&a="⟩
    let attempts : List Call :=
      [⟨"http", "parseMultiPartForm", [.number 1]⟩, ⟨"http", "getFormFile", [.string "a"]⟩]
    let p := ((Exchange.start none).bind .regular posted .anonymous).after .plain attempts
    Tier.full ≠ .widget ∧ s.context.form = none ∧ got.1 = .ok [file] ∧
      ((got.2.after .plain [⟨"http", "parseMultiPartForm", [.number 1]⟩]).call .plain "http"
        "getFormFile" [.string "up"]).1 = .ok [file] ∧
      Tier.regular ≠ .widget ∧ posted.postsUrlencoded ∧
      p.context.values.toPairs = [("a", "1 2"), ("a", ""), ("b", "\u00e9")] ∧
      p.context.field "postValues" ≠ .nil := by
  intro body r s file got posted attempts p
  have hfull : Tier.full ≠ .widget := by decide
  have htier : s.context.tier ≠ .widget := by decide
  have hnone : s.context.form = none := rfl
  have hparse : (s.context.formWith? Host.plain.settings.maxMemory).bind (·.file? "up") =
      some ⟨"a", "application/octet-stream", [120, 121]⟩ := by decide +kernel
  have hgot : got.1 = .ok [file] := by
    change (s.call .plain "http" "getFormFile" [.string "up"]).1 = .ok [file]
    rw [Run.call_getFormFile htier, Run.getFile_eq_file, Run.file?_getFile_of_none hnone]
    exact hparse
  obtain ⟨-, -, -, -, -, -, -, hagain⟩ :=
    form_state_machine .plain (.start none) hfull r .anonymous
      [⟨"http", "parseMultiPartForm", [.string "all"]⟩]
  have hregular : Tier.regular ≠ .widget := by decide
  have hposted : posted.postsUrlencoded := by decide +kernel
  have hmethod : posted.method = "POST" := rfl
  have hpairs : (Fields.ofUrlencoded posted.body.toText).toPairs =
      [("a", "1 2"), ("a", ""), ("b", "\u00e9")] := by decide +kernel
  -- Nothing else of the posted request matters, and nothing of the calls: they are not to be run.
  clear_value posted attempts
  obtain ⟨-, -, -, -, -, hvalues, hpost, -⟩ :=
    form_state_machine .plain (.start none) hregular posted .anonymous attempts
  refine ⟨hfull, hnone, hgot, hagain "up" [] _ hgot _ [], hregular, hposted, ?_, ?_⟩
  · exact (congrArg Fields.toPairs (hvalues hposted)).trans hpairs
  · exact fun h => hpost.1 h hmethod

end WebScript
