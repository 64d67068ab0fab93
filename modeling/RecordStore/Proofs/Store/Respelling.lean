import RecordStore.Proofs.Store.SameRecords

/-!
# Other spellings of names

A name counts in its canonical form only. Whoever writes a type, the keys of a payload, or the field
of a comparison in another way gives the same command: it leaves the same store, and its result is the
same text, or it is refused for the same reason (`same_of_respelled`).

In a filter this is true of some of the names only. A name is the field of its comparison if the type
has such a field and if it stands on the left, or on the right where no field stands on the left. All
other names are literals and are compared as texts, letter by letter, or are refused, so
`Filter.Respelled` goes by the fields of the type and leaves all that is no field alone. The reason of a
refusal may have the name in it as it was written, and this is all that the results may differ in
(`Fault.Alike`).
-/

namespace RecordStore

open RecordStore.Text

/-! ### Results that are the same but for names -/

/-- The reasons are one reason, but it may tell the name that does not exist in two spellings. -/
inductive Fault.Alike : Fault → Fault → Prop where
  /-- Nothing differs. -/
  | refl (fault : Fault) : Alike fault fault
  /-- There is no such type. -/
  | typeNotFound {name name' : String} (h : canonical name = canonical name') :
    Alike (.typeNotFound name) (.typeNotFound name')
  /-- There is no such field. -/
  | fieldNotFound {name name' : String} (h : canonical name = canonical name') :
    Alike (.fieldNotFound name) (.fieldNotFound name')

variable {α β : Type}

/-- Both succeed with one result, or both are refused for one reason. -/
inductive SameResult : Except Fault α → Except Fault α → Prop where
  /-- There is one result. -/
  | ok (a : α) : SameResult (.ok a) (.ok a)
  /-- There is one reason. -/
  | error {fault fault' : Fault} (h : fault.Alike fault') : SameResult (.error fault) (.error fault')

namespace SameResult

variable {first second : Except Fault α}

theorem refl (result : Except Fault α) : SameResult result result := by
  cases result with
  | ok a => exact .ok a
  | error fault => exact .error (.refl fault)

theorem eq_ok {a : α} (h : SameResult (.ok a) second) : second = .ok a := by
  cases h
  rfl

/-- Results stay the same if what is done with them gives the same. -/
theorem bind (h : SameResult first second) {rest rest' : α → Except Fault β}
    (hrest : ∀ a, first = .ok a → SameResult (rest a) (rest' a)) :
    SameResult (first >>= rest) (second >>= rest') := by
  cases h with
  | ok a => exact hrest a rfl
  | error hfault => exact .error hfault

theorem map (h : SameResult first second) (f : α → β) : SameResult (first.map f) (second.map f) := by
  cases h with
  | ok a => exact .ok (f a)
  | error hfault => exact .error hfault

end SameResult

/-- Done in this state, both actions lead to one state, and with the same result. -/
structure Action.SameAt {σ : Type} (state : σ) (action action' : Action σ α) : Prop where
  /-- The state is the same afterwards. -/
  state_eq : (action.perform state).1 = (action'.perform state).1
  /-- The result is the same. -/
  result : SameResult (action.perform state).2 (action'.perform state).2

namespace Action.SameAt

variable {σ : Type} {state : σ} {action action' : Action σ α}

theorem of_run_eq (h : action.run state = action'.run state) : SameAt state action action' := by
  constructor <;> rw [Action.perform, Action.perform, h]
  case result => exact .refl _

theorem refl (state : σ) (action : Action σ α) : SameAt state action action := of_run_eq rfl

theorem check_bind {check check' : Except Fault α} (hcheck : SameResult check check')
    {rest rest' : α → Action σ β} (h : ∀ a, check = .ok a → SameAt state (rest a) (rest' a)) :
    SameAt state (liftExcept check >>= rest) (liftExcept check' >>= rest') := by
  constructor <;> rw [perform_check_bind, perform_check_bind] <;> cases hcheck
  case state_eq.ok a => exact (h a rfl).state_eq
  case state_eq.error => rfl
  case result.ok a => exact (h a rfl).result
  case result.error hfault => exact .error hfault

theorem get_bind {rest rest' : σ → Action σ α} (h : SameAt state (rest state) (rest' state)) :
    SameAt state (get >>= rest) (get >>= rest') :=
  ⟨h.state_eq, h.result⟩

theorem map (h : SameAt state action action') (f : α → β) :
    SameAt state (action >>= fun a ↦ pure (f a)) (action' >>= fun a ↦ pure (f a)) := by
  constructor <;> rw [perform_map, perform_map]
  case state_eq => exact h.state_eq
  case result => exact h.result.map f

end Action.SameAt

open RecordStore.Action (SameAt)

/-! ### Filters -/

theorem Schema.field?_congr (schema : Schema) {name name' : String}
    (h : canonical name = canonical name') : schema.field? name = schema.field? name' := by
  rw [field?, field?, h]

namespace Filter

/-- The filters differ at most in how the fields of their comparisons are spelled. -/
inductive Respelled (schema : Schema) : Filter → Filter → Prop where
  /-- Nothing differs. -/
  | same (left : Operand) (op : Operator) (right : Operand) :
    Respelled schema (.comparison left op right) (.comparison left op right)
  /-- The field on the left differs. -/
  | left {name name' : String} (hfield : (schema.field? name).isSome)
    (hname : canonical name = canonical name') (op : Operator) (right : Operand) :
    Respelled schema (.comparison (.name name) op right) (.comparison (.name name') op right)
  /-- The field on the right differs, and there is none on the left. -/
  | right {left : Operand} (hleft : left.field? schema = none) (op : Operator) {name name' : String}
    (hfield : (schema.field? name).isSome) (hname : canonical name = canonical name') :
    Respelled schema (.comparison left op (.name name)) (.comparison left op (.name name'))
  /-- Both filters differ like this. -/
  | and {left left' right right' : Filter} (hleft : Respelled schema left left')
    (hright : Respelled schema right right') : Respelled schema (.and left right) (.and left' right')
  /-- Both filters differ like this. -/
  | or {left left' right right' : Filter} (hleft : Respelled schema left left')
    (hright : Respelled schema right right') : Respelled schema (.or left right) (.or left' right')

variable {schema : Schema} {filter filter' : Filter}

theorem check_respelled (h : Respelled schema filter filter') :
    filter.check schema = filter'.check schema := by
  induction h with
  | same left op right => rfl
  | left hfield hname op right =>
    have hfield' := schema.field?_congr hname ▸ hfield
    simp only [check, unknownName?, Operand.field?, hfield, hfield', Bool.true_or, if_true]
  | right hleft op hfield hname =>
    have hfield' := schema.field?_congr hname ▸ hfield
    simp only [check, unknownName?, Operand.field?, hfield, hfield', Bool.or_true, if_true]
  | and _ _ hleft hright => rw [check, check, hleft, hright]
  | or _ _ hleft hright => rw [check, check, hleft, hright]

theorem evaluate_respelled (h : Respelled schema filter filter') (record : Record) :
    filter.evaluate schema record = filter'.evaluate schema record := by
  induction h with
  | same left op right => rfl
  | @left name name' hfield hname op right =>
    obtain ⟨field, hfound⟩ := Option.isSome_iff_exists.1 hfield
    have hfound' : schema.field? name' = some field := schema.field?_congr hname ▸ hfound
    have hleft : (Operand.name name).field? schema = some field := hfound
    have hleft' : (Operand.name name').field? schema = some field := hfound'
    rw [evaluate, evaluate, compare, compare, hleft, hleft']
  | @right left hleft op name name' hfield hname =>
    obtain ⟨field, hfound⟩ := Option.isSome_iff_exists.1 hfield
    have hfound' : schema.field? name' = some field := schema.field?_congr hname ▸ hfound
    have hright : (Operand.name name).field? schema = some field := hfound
    have hright' : (Operand.name name').field? schema = some field := hfound'
    rw [evaluate, evaluate, compare, compare, hleft, hright, hright']
  | and _ _ hleft hright => rw [evaluate, evaluate, hleft, hright]
  | or _ _ hleft hright => rw [evaluate, evaluate, hleft, hright]

end Filter

open RecordStore.Filter (Respelled)

section Selecting

variable {schema : Schema} {filter filter' : Option Filter}

theorem admitFilter_respelled (h : Option.Rel (Respelled schema) filter filter') :
    schema.admitFilter filter = schema.admitFilter filter' := by
  cases h with
  | none => rfl
  | some h => rw [Schema.admitFilter, Schema.admitFilter, Filter.check_respelled h]

theorem ofFilter_respelled (h : Option.Rel (Respelled schema) filter filter') (record : Record) :
    Condition.ofFilter filter schema record = Condition.ofFilter filter' schema record := by
  cases h with
  | none => rfl
  | some h => rw [Condition.ofFilter, Condition.ofFilter, Filter.evaluate_respelled h]

theorem matchRecords_congr {condition condition' : Condition}
    (h : ∀ record, condition schema record = condition' schema record) (records : List Record) :
    Table.matchRecords condition schema records = Table.matchRecords condition' schema records := by
  induction records with
  | nil => rfl
  | cons record rest ih => rw [Table.matchRecords, Table.matchRecords, h record, ih]

/-- Filters that differ in the spelling of fields select the same records. -/
theorem matching_respelled {table : Table}
    (h : Option.Rel (Respelled table.schema) filter filter') :
    table.matching (.ofFilter filter) = table.matching (.ofFilter filter') :=
  matchRecords_congr (ofFilter_respelled h) table.records

end Selecting

/-! ### Payloads -/

/-- One payload under two spellings of one key. -/
def SameEntry (entry entry' : String × Payload) : Prop :=
  canonical entry.1 = canonical entry'.1 ∧ entry.2 = entry'.2

theorem sameResult_coerce (schema : Schema) {values values' : List (String × Payload)}
    (h : List.Forall₂ SameEntry values values') :
    SameResult (schema.coerce values) (schema.coerce values') := by
  induction h with
  | nil => exact .refl _
  | @cons entry entry' rest rest' hentry _ ih =>
    obtain ⟨name, payload⟩ := entry
    obtain ⟨name', payload'⟩ := entry'
    obtain ⟨hname, rfl⟩ : canonical name = canonical name' ∧ payload = payload' := hentry
    rw [Schema.coerce, Schema.coerce, schema.field?_congr hname]
    cases schema.field? name' with
    | none => exact .error (.fieldNotFound hname)
    | some field =>
      -- one entry gives the field what the other gives it, so they can only differ in the rest
      have hrest (value : Option Value) : SameResult
          (schema.coerce rest >>= fun values ↦ .ok ((field.key, value) :: values))
          (schema.coerce rest' >>= fun values ↦ .ok ((field.key, value) :: values)) :=
        ih.bind fun values _ ↦ .refl _
      cases payload with
      | null => exact hrest none
      | bool | number | text | array | object =>
        dsimp only
        generalize field.kind.ofPayload _ = given
        cases given with
        | ok value => exact hrest (some value)
        | error cause => exact .refl _

/-! ### Commands -/

namespace Store

variable {store : Store} {type type' : String}

theorem table?_congr (store : Store) (h : canonical type = canonical type') :
    store.table? type = store.table? type' := by
  rw [table?, table?, h]

theorem set_congr (store : Store) (h : canonical type = canonical type') (table : Table) :
    store.set type table = store.set type' table := by
  rw [set, set, h]

theorem sameResult_table (store : Store) (h : canonical type = canonical type') :
    SameResult (store.table type) (store.table type') := by
  rw [Store.table, Store.table, store.table?_congr h]
  cases store.table? type' with
  | none => exact .error (.typeNotFound h)
  | some table => exact .ok table

theorem sameAt_within (htype : canonical type = canonical type') {action action' : Action Table α}
    (h : ∀ table, store.table? type = some table → SameAt table action action') :
    SameAt store (within type action) (within type' action') := by
  constructor <;> rw [perform_within, perform_within, ← store.table?_congr htype] <;>
    cases hfound : store.table? type
  case state_eq.none => rfl
  case state_eq.some table =>
    exact (store.set_congr htype _).trans (congrArg (store.set type') (h table hfound).state_eq)
  case result.none => exact .error (.typeNotFound htype)
  case result.some table => exact (h table hfound).result

/-- The fields of a type; there are none if there is no such type. -/
def schema (store : Store) (type : String) : Schema :=
  ((store.table? type).map (·.schema)).getD .empty

theorem schema_eq {table : Table} (h : store.table? type = some table) :
    store.schema type = table.schema := by
  rw [schema, h]
  rfl

/-- The statements differ at most in how they spell their type, the keys of their payload, and the
fields of the comparisons in their filter. -/
inductive Respelled (store : Store) : Statement → Statement → Prop where
  /-- Two insertions. -/
  | insert {type type' : String} (htype : canonical type = canonical type')
    {values values' : Entries String Payload} (hvalues : List.Forall₂ SameEntry values values') :
    Respelled store (.insert type values) (.insert type' values')
  /-- Two updates. -/
  | update {type type' : String} (htype : canonical type = canonical type')
    {filter filter' : Option Filter}
    (hfilter : Option.Rel (Filter.Respelled (store.schema type)) filter filter')
    {values values' : Entries String Payload} (hvalues : List.Forall₂ SameEntry values values') :
    Respelled store (.update type filter values) (.update type' filter' values')
  /-- Two deletions. -/
  | delete {type type' : String} (htype : canonical type = canonical type')
    {filter filter' : Option Filter}
    (hfilter : Option.Rel (Filter.Respelled (store.schema type)) filter filter') :
    Respelled store (.delete type filter) (.delete type' filter')
  /-- Two searches. -/
  | search {type type' : String} (htype : canonical type = canonical type')
    {filter filter' : Option Filter}
    (hfilter : Option.Rel (Filter.Respelled (store.schema type)) filter filter') :
    Respelled store (.search type filter) (.search type' filter')

theorem sameResult_select (htype : canonical type = canonical type')
    {filter filter' : Option Filter}
    (hfilter : Option.Rel (Filter.Respelled (store.schema type)) filter filter') :
    SameResult (store.select type filter) (store.select type' filter') := by
  refine (store.sameResult_table htype).bind fun table htable ↦ ?_
  -- the fields that the filters go by are those of the table that was found
  rw [schema_eq (table?_of_table htable)] at hfilter
  rw [admitFilter_respelled hfilter, Table.find, Table.find, matching_respelled hfilter]
  exact .refl _

theorem sameAt_updateWhere {table : Table} {filter filter' : Option Filter}
    (h : Option.Rel (Filter.Respelled table.schema) filter filter')
    (assignments : List (String × Option Value)) :
    SameAt table (Table.updateWhere (.ofFilter filter) assignments)
      (Table.updateWhere (.ofFilter filter') assignments) := by
  refine .of_run_eq ?_
  rw [Table.run_updateWhere, Table.run_updateWhere, matching_respelled h]

theorem sameAt_deleteWhere {table : Table} {filter filter' : Option Filter}
    (h : Option.Rel (Filter.Respelled table.schema) filter filter') :
    SameAt table (Table.deleteWhere (.ofFilter filter)) (Table.deleteWhere (.ofFilter filter')) := by
  refine .of_run_eq ?_
  rw [Table.run_deleteWhere, Table.run_deleteWhere, matching_respelled h]

/-- **Names count in their canonical form only.** Statements that differ in the spelling of names
leave the same store, and give the same text or are refused for the same reason. -/
theorem same_of_respelled {store : Store} {statement statement' : Statement}
    (h : Respelled store statement statement') :
    SameAt store (apply statement) (apply statement') := by
  cases h with
  | insert htype hvalues =>
    refine sameAt_within htype fun table _ ↦ SameAt.get_bind ?_
    exact SameAt.check_bind (sameResult_coerce table.schema hvalues) fun given _ ↦ SameAt.refl _ _
  | update htype hfilter hvalues =>
    refine sameAt_within htype fun table hfound ↦ SameAt.get_bind ?_
    rw [schema_eq hfound] at hfilter
    refine SameAt.check_bind (sameResult_coerce table.schema hvalues) fun given _ ↦ ?_
    rw [admitFilter_respelled hfilter]
    refine SameAt.check_bind (.refl _) fun _ _ ↦ ?_
    exact (sameAt_updateWhere hfilter given).map _
  | delete htype hfilter =>
    refine sameAt_within htype fun table hfound ↦ SameAt.get_bind ?_
    rw [schema_eq hfound] at hfilter
    rw [admitFilter_respelled hfilter]
    refine SameAt.check_bind (.refl _) fun _ _ ↦ ?_
    exact (sameAt_deleteWhere hfilter).map _
  | search htype hfilter =>
    constructor <;> rw [perform_search, perform_search]
    case result => exact (sameResult_select htype hfilter).map _

/-- Streets, under a name that ends in a capital sigma. -/
def streets : List Call :=
  [.createType "ΟΔΟΣ" [⟨"k", .int, false, false⟩], .change "ΟΔΟΣ" (.insert [("k", .int 1)])]

/-- Numbers a street anew, with the type and the field spelled as given. -/
def renumber (type field : String) : Statement :=
  .update type (some (.comparison (.name field) .equal (.number "1"))) [(field, .number "2")]

/-- The lower case of a capital sigma depends on where it stands, and that of the Kelvin sign is a
Latin letter. -/
theorem same_renumber :
    ((apply (renumber "ΟΔΟΣ" "k")).perform (after streets)).1 =
        ((apply (renumber " οδος" "\u212a")).perform (after streets)).1 ∧
      ((apply (renumber " οδος" "\u212a")).perform (after streets)).2 =
        .ok "1 instances updated." := by
  have htype : canonical "ΟΔΟΣ" = canonical " οδος" := by decide +kernel
  have hname : canonical "k" = canonical "\u212a" := by decide +kernel
  have hfield : (((after streets).schema "ΟΔΟΣ").field? "k").isSome := by decide +kernel
  have hrespelled : Respelled (after streets) (renumber "ΟΔΟΣ" "k") (renumber " οδος" "\u212a") :=
    .update htype (.some (.left hfield hname .equal (.number "1"))) (.cons ⟨hname, rfl⟩ .nil)
  have hupdated : ((apply (renumber "ΟΔΟΣ" "k")).perform (after streets)).2 =
      .ok "1 instances updated." := by decide +kernel
  obtain ⟨hstate, hresult⟩ := same_of_respelled hrespelled
  rw [hupdated] at hresult
  exact ⟨hstate, hresult.eq_ok⟩

end Store

end RecordStore
