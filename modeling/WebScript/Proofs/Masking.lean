import WebScript.Proofs.Observation

/-!
# Session handles cannot be looked into

Scripts hold sessions by handles, which they may pass on, nested in tables as they like.

* `Value.masked`: a value with the same session in all its handles.
* `Value.toJson_masked`, `Table.toFields_masked`, `ClientConfig.ofTable_masked`: a table is read
  alike, whatever sessions are in it.
* `Operation.read_masked`: so are the arguments of a call.
* `Run.call_masked`: **a call does the same whatever sessions are in its arguments.**
-/

namespace WebScript

open Result

/-! ## Values -/

/-- The handle with a session that is always the same. -/
def Handle.masked : Handle → Handle
  | .session _ => .session .anonymous
  | h => h

theorem Handle.kind_masked (h : Handle) : h.masked.kind = h.kind := by
  cases h <;> rfl

namespace Value

mutual

/-- **The value with the same session in all its handles**, at any depth. -/
def masked : Value → Value
  | .nil => .nil
  | .bool b => .bool b
  | .number x => .number x
  | .string s => .string s
  | .table ⟨es⟩ => .table ⟨maskedEntries es⟩
  | .handle h => .handle h.masked

/-- The entries of a table, with the same session in all handles. -/
def maskedEntries : List (Key × Value) → List (Key × Value)
  | [] => []
  | (k, v) :: r => (k, v.masked) :: maskedEntries r

end

theorem maskedEntries_eq (es : List (Key × Value)) :
    maskedEntries es = es.map fun e => (e.1, e.2.masked) := by
  induction es with
  | nil => rw [maskedEntries, List.map_nil]
  | cons e es ih =>
    obtain ⟨k, v⟩ := e
    rw [maskedEntries, ih, List.map_cons]

end Value

/-- The table with the same session in all handles. -/
def Table.masked (t : Table) : Table := ⟨Value.maskedEntries t.entries⟩

theorem Table.masked_eq (t : Table) : t.masked = t.mapValues Value.masked :=
  congrArg OrderedMap.mk (Value.maskedEntries_eq t.entries)

namespace Value

theorem masked_table (t : Table) : (Value.table t).masked = .table t.masked := rfl

/-! ### Loose conversions -/

theorem isNil_masked (v : Value) : v.masked.isNil = v.isNil := by
  cases v <;> rfl

theorem truthy_masked (v : Value) : v.masked.truthy = v.truthy := by
  cases v <;> rfl

theorem display_masked (v : Value) : v.masked.display = v.display := by
  cases v with
  | handle h => rw [masked, display, display, Handle.kind_masked]
  | nil | bool _ | number _ | string _ | table _ => rfl

theorem looseText_masked (v : Value) : v.masked.looseText = v.looseText := by
  cases v <;> rfl

theorem table?_masked (v : Value) : v.masked.table? = v.table?.map Table.masked := by
  cases v <;> rfl

/-! ### JSON -/

mutual

/-- **A value is the same as JSON**, whatever sessions are in it: handles have no reading. -/
theorem toJson_masked : ∀ v : Value, v.masked.toJson = v.toJson
  | .nil | .bool _ | .number _ | .string _ => by rw [masked]
  | .table ⟨es⟩ => by rw [masked, toJson, toJson, entriesToJson_masked es]
  | .handle h => by rw [masked, toJson, toJson, Handle.kind_masked]

theorem entriesToJson_masked : ∀ es : List (Key × Value),
    entriesToJson (maskedEntries es) = entriesToJson es
  | [] => by rw [maskedEntries]
  | (k, v) :: es => by
    rw [maskedEntries, entriesToJson, entriesToJson, toJson_masked v, entriesToJson_masked es]

end

end Value

namespace Table

theorem field_masked (t : Table) (name : String) : t.masked.field name = (t.field name).masked := by
  unfold field get
  rw [masked_eq, OrderedMap.get?_mapValues]
  cases t.get? (.name name) with
  | none => rfl
  | some v => rfl

theorem toJsonMembers_masked (t : Table) : t.masked.toJsonMembers = t.toJsonMembers := by
  rw [toJsonMembers, masked, Value.entriesToJson_masked, toJsonMembers]

/-! ### Forms -/

theorem scalarText_masked (name : String) (v : Value) :
    scalarText name v.masked = scalarText name v := by
  cases v <;> rfl

theorem entryTexts_masked (name : String) (v : Value) :
    entryTexts name v.masked = entryTexts name v := by
  cases v with
  | table t =>
    have hscalar : scalarText name ∘ Value.masked = scalarText name :=
      funext (scalarText_masked name)
    rw [Value.masked_table, entryTexts, entryTexts, masked_eq, OrderedMap.sequence?_mapValues]
    cases t.sequence? with
    | none => rfl
    | some vs =>
      dsimp only [Option.map_some]
      rw [List.mapM_map, hscalar]
  | nil | bool _ | number _ | string _ | handle _ => rfl

/-- **A table has the same reading as fields**, whatever sessions are in it. -/
theorem toFields_masked (t : Table) : t.masked.toFields = t.toFields := by
  have hadd (f : Fields) (e : Key × Value) : addEntry f (e.1, e.2.masked) = addEntry f e := by
    obtain ⟨k, v⟩ := e
    unfold addEntry
    cases k with
    | index i => rfl
    | name name =>
      dsimp only
      rw [entryTexts_masked]
  rw [toFields, masked, Value.maskedEntries_eq, List.foldlM_map, toFields]
  simp only [hadd]

end Table

/-! ## Requests to other hosts -/

namespace ClientConfig

theorem readTimeout_masked (v : Value) : readTimeout v.masked = readTimeout v := by
  cases v <;> rfl

theorem readString_masked (v : Value) (what : String) :
    readString v.masked what = readString v what := by
  cases v <;> rfl

theorem readBody_masked (v : Value) : readBody v.masked = readBody v := by
  cases v with
  | table t =>
    rw [Value.masked_table, readBody, readBody, Table.masked, Value.maskedEntries_eq, List.foldl_map]
    simp only [Value.display_masked]
  | nil | bool _ | number _ | string _ | handle _ => rfl

theorem readHeaders_masked (v : Value) : readHeaders v.masked = readHeaders v := by
  cases v with
  | table t =>
    rw [Value.masked_table, readHeaders, readHeaders, Table.masked, Value.maskedEntries_eq,
      List.filterMap_map]
    congr 1
    funext ⟨k, v⟩
    cases k <;> cases v <;> rfl
  | nil | bool _ | number _ | string _ | handle _ => rfl

theorem readAuth_masked (v : Value) : readAuth v.masked = readAuth v := by
  unfold readAuth
  rw [Value.table?_masked, Option.map_map]
  simp only [Function.comp_def, Table.field_masked, Value.looseText_masked]

/-- **Settings are read alike**, whatever sessions are among them. -/
theorem ofTable_masked (t : Table) : ofTable t.masked = ofTable t := by
  unfold ofTable
  simp only [Table.field_masked, readTimeout_masked, readString_masked, readBody_masked,
    readHeaders_masked, readAuth_masked]

end ClientConfig

namespace OutboundRequest

theorem ofForm_masked (url : String) (data : Option Table) :
    ofForm url (data.map Table.masked) = ofForm url data := by
  cases data with
  | none => rfl
  | some t =>
    unfold ofForm
    simp only [Option.map_some, Option.getD_some, Table.toFields_masked]

theorem ofConfig_masked (t : Table) : ofConfig t.masked = ofConfig t := by
  rw [ofConfig, ClientConfig.ofTable_masked, ofConfig]

end OutboundRequest

/-! ## Calls -/

namespace Arguments

variable (args : List Value) (position : Nat) (message : String)

theorem nth_masked : nth (args.map Value.masked) position = (nth args position).masked := by
  cases position with
  | zero => rfl
  | succ i =>
    simp only [nth, List.getElem?_map]
    cases args[i]? with
    | none => rfl
    | some v => rfl

theorem string_masked : string (args.map Value.masked) position message =
    string args position message := by
  unfold string
  rw [nth_masked]
  cases nth args position <;> rfl

theorem table_masked : table (args.map Value.masked) position message =
    Table.masked <$> table args position message := by
  unfold table
  rw [nth_masked]
  cases nth args position <;> rfl

theorem integer_masked : integer (args.map Value.masked) position message =
    integer args position message := by
  unfold integer
  rw [nth_masked]
  cases nth args position <;> rfl

theorem integer?_masked : integer? (args.map Value.masked) position message =
    integer? args position message := by
  rw [integer?, nth_masked, Value.isNil_masked, integer_masked, integer?]

theorem string?_masked : string? (args.map Value.masked) position message =
    string? args position message := by
  rw [string?, nth_masked, Value.isNil_masked, string_masked, string?]

theorem table?_masked : table? (args.map Value.masked) position message =
    Option.map Table.masked <$> table? args position message := by
  rw [table?, nth_masked, Value.isNil_masked, table_masked, table?]
  split
  · rfl
  · cases table args position message <;> rfl

end Arguments

/-- A call of a method is read alike if every method reads alike. -/
theorem Methods.read_map {α : Type} {ms : Methods α} {f : List Value → List Value} {g : α → α}
    (hms : ∀ e ∈ ms, ∀ args, e.2 (f args) = g <$> e.2 args) (tier : Tier) (method : String)
    (args : List Value) : ms.read tier method (f args) = g <$> ms.read tier method args := by
  by_cases hm : method ∈ ms.names
  · obtain ⟨reader, hl⟩ := exists_lookup hm
    obtain ⟨front, back, rfl, -⟩ := List.lookup_eq_some_iff.1 hl
    rw [read, read, hl]
    exact hms (method, reader) (List.mem_append_right _ List.mem_cons_self) args
  · rw [read_of_not_mem hm, read_of_not_mem hm]
    rfl

namespace Operation

/-- The operation with the same session in all handles among its arguments. -/
def masked : Operation → Operation
  | .render template args => .render template (args.map Table.masked)
  | .postForm url data => .postForm url (data.map Table.masked)
  | .request config => .request config.masked
  | op => op

theorem statusArgument_masked (args : List Value) :
    statusArgument (args.map Value.masked) = statusArgument args := by
  unfold statusArgument
  simp only [Arguments.integer?_masked]

/-- **A call is read as the same operation**, but for the sessions in its tables. -/
theorem read_masked (tier t : Tier) (method : String) (args : List Value) :
    (methods tier).read t method (args.map Value.masked) =
      masked <$> (methods tier).read t method args := by
  refine Methods.read_map (fun e he args => ?_) t method args
  have hfull : e ∈ methods .full := by
    cases tier with
    | full => exact he
    | regular => exact List.mem_append_left _ he
    | widget => cases he
  simp only [methods, sharedMethods, outboundMethods, List.mem_append, List.mem_cons,
    List.not_mem_nil, or_false] at hfull
  rcases hfull with (rfl | rfl | rfl | rfl | rfl | rfl | rfl | rfl | rfl | rfl | rfl | rfl) |
    rfl | rfl | rfl
  -- whatever a method reads, it reads alike, and tables are the only arguments that may differ
  all_goals simp only [Arguments.string_masked, Arguments.integer_masked,
    Arguments.integer?_masked, Arguments.string?_masked, Arguments.table_masked,
    Arguments.table?_masked, statusArgument_masked, map_bind, map_pure, Functor.map_map,
    bind_map_left, masked]
  all_goals rfl

end Operation

theorem Question.recordKey_masked (args : List Value) (what : String) :
    recordKey (args.map Value.masked) what = recordKey args what := by
  unfold recordKey
  rw [Arguments.nth_masked]
  cases Arguments.nth args 1 <;> rfl

/-- A question is read the same. -/
theorem Question.read_masked (tier : Tier) (method : String) (args : List Value) :
    methods.read tier method (args.map Value.masked) = methods.read tier method args := by
  have hmethods : ∀ e ∈ methods, ∀ args, e.2 (args.map Value.masked) = id <$> e.2 args := by
    intro e he args
    simp only [methods, List.mem_cons, List.not_mem_nil, or_false] at he
    rcases he with rfl | rfl | rfl | rfl | rfl | rfl | rfl | rfl | rfl | rfl
    all_goals simp only [subject, Arguments.string_masked, Arguments.integer_masked,
      Arguments.nth_masked, Value.truthy_masked, recordKey_masked, id_map]
  rw [Methods.read_map hmethods, id_map]

namespace Run

variable {h : Host} {s : Run}

/-- **An operation does the same whatever sessions are in its tables.** -/
theorem perform_masked (h : Host) (s : Run) (op : Operation) :
    s.perform h op.masked = s.perform h op := by
  cases op with
  | render template args =>
    cases args with
    | none => rfl
    | some t =>
      rw [Operation.masked, perform, perform, render, render]
      dsimp only [Option.map_some, Option.getD_some]
      rw [Table.toJsonMembers_masked]
  | postForm url data =>
    rw [Operation.masked, perform, perform, OutboundRequest.ofForm_masked]
  | request config =>
    rw [Operation.masked, perform, perform, OutboundRequest.ofConfig_masked]
  | _ => rfl

theorem callHttp_masked (h : Host) (s : Run) (method : String) (args : List Value) :
    s.callHttp h method (args.map Value.masked) = s.callHttp h method args := by
  by_cases hw : s.context.tier = .widget
  · rw [callHttp_widget hw, callHttp_widget hw]
  · rw [callHttp_eq hw, callHttp_eq hw, Operation.read_masked]
    cases (Operation.methods s.context.tier).read s.context.tier method args with
    | ok op => exact perform_masked h s op
    | error f => rfl

/-- **A call does the same whatever sessions are in its arguments.** -/
theorem call_masked (h : Host) (s : Run) (target method : String) (args : List Value) :
    s.call h target method (args.map Value.masked) = s.call h target method args := by
  unfold call Validator.call
  rw [callHttp_masked]
  simp only [Question.read_masked]

end Run

end WebScript
