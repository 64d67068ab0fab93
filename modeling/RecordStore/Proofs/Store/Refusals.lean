import RecordStore.Proofs.Store.Coercion
import RecordStore.Proofs.Store.SameRecords

/-!
# What refusals tell

The category of a fault tells where a command failed. A line that cannot be read is refused in the
same way by every store, and a line that can be read is never refused for its wording. Of these,
only insertions and updates are refused for a value or for a constraint, and only statements that
have a filter are refused for it (`category_of_refused`).

A statement is put together from checks and from actions on its table. Each of them has its own
categories (`FailsWith`, `RefusedWith`), and the statement has those of its parts
(`Statement.categories`).
-/

namespace RecordStore

open Fault (Category)

variable {σ α β : Type} {allowed more : List Category} {fault : Fault}

/-! ### The categories of checks -/

/-- The check fails with faults of the given categories only. -/
def FailsWith (allowed : List Category) (check : Except Fault α) : Prop :=
  ∀ fault, check = .error fault → fault.category ∈ allowed

namespace FailsWith

variable {check : Except Fault α}

theorem mono (h : FailsWith allowed check) (hmore : allowed ⊆ more) : FailsWith more check :=
  fun fault hfault ↦ hmore (h fault hfault)

theorem ok (a : α) : FailsWith allowed (.ok a) := fun _ h ↦ nomatch h

theorem error (h : fault.category ∈ allowed) : FailsWith allowed (.error fault : Except _ α) := by
  intro other heq
  cases heq
  exact h

theorem bind (h : FailsWith allowed check) {rest : α → Except Fault β}
    (hrest : ∀ a, FailsWith allowed (rest a)) : FailsWith allowed (check >>= rest) := by
  cases check with
  | error fault => exact error (h fault rfl)
  | ok a => exact hrest a

theorem map (h : FailsWith allowed check) (f : α → β) : FailsWith allowed (check.map f) := by
  cases check with
  | error fault => exact error (h fault rfl)
  | ok a => exact ok (f a)

end FailsWith

/-- The category of the faults of an optional filter: none, if there is no filter. -/
def categoriesOf (filter : Option Filter) : List Category := filter.toList.map fun _ ↦ .filter

theorem Field.failsWith_admit (field : Field) (value : Value) :
    FailsWith [.value] <| field.admit value := by
  unfold Field.admit
  split
  · exact .ok ()
  · exact .error (by simp [Fault.category])

namespace Schema

variable (schema : Schema)

/-- An entry of a payload may be for no field, or have no value of the field's kind. -/
theorem category_of_refusal? {entry : String × Payload} (h : schema.refusal? entry = some fault) :
    fault.category ∈ [.schema, .value] := by
  rw [refusal?] at h
  split at h
  · cases h
    simp [Fault.category]
  split at h
  · cases h
  split at h
  · cases h
  · cases h
    simp [Fault.category]

theorem failsWith_coerce (values : List (String × Payload)) :
    FailsWith [.schema, .value] (schema.coerce values) := by
  cases hfirst : values.findSome? schema.refusal? with
  | none =>
    obtain ⟨assignments, hcoerce, -⟩ := (accepts_iff.2 hfirst).exists_coerce
    rw [hcoerce]
    exact .ok assignments
  | some fault =>
    obtain ⟨entry, -, hrefusal⟩ := List.exists_of_findSome?_eq_some hfirst
    rw [coerce_of_refusal hfirst]
    exact .error (schema.category_of_refusal? hrefusal)

theorem failsWith_admitFilter (filter : Option Filter) :
    FailsWith (categoriesOf filter) (schema.admitFilter filter) := by
  cases filter with
  | none => exact .ok ()
  | some filter =>
    rw [admitFilter]
    cases filter.check schema with
    | ok u => exact .ok u
    | error cause => exact .error (by simp [Fault.category, categoriesOf])

end Schema

namespace Table

/-! ### The categories of actions on tables -/

theorem failsWith_ofFilter (filter : Option Filter) (schema : Schema) (record : Record) :
    FailsWith (categoriesOf filter) (Condition.ofFilter filter schema record) := by
  cases filter with
  | none => exact .ok true
  | some filter =>
    rw [Condition.ofFilter]
    cases filter.evaluate schema record with
    | ok met => exact .ok met
    | error cause => exact .error (by simp [Fault.category, categoriesOf])

theorem failsWith_matchRecords {condition : Condition} {schema : Schema}
    (h : ∀ record, FailsWith allowed (condition schema record)) (records : List Record) :
    FailsWith allowed (matchRecords condition schema records) := by
  induction records with
  | nil => exact .ok []
  | cons record records ih => exact .bind (h record) fun met ↦ .bind ih fun rest ↦ .ok _

theorem failsWith_matching (table : Table) (filter : Option Filter) :
    FailsWith (categoriesOf filter) (table.matching (.ofFilter filter)) :=
  failsWith_matchRecords (failsWith_ofFilter filter table.schema) table.records

theorem failsWith_admitAll (schema : Schema) (given : List (String × Value)) :
    FailsWith [.schema, .value] (admitAll schema given) := by
  induction given with
  | nil => exact .ok ()
  | cons first rest ih =>
    rw [admitAll]
    split
    · exact .error (by simp [Fault.category])
    · next field _ =>
      exact .bind ((field.failsWith_admit first.2).mono (by simp)) fun _ ↦ ih

theorem failsWith_changes (schema : Schema) (before : Entries String (Field × Option Value))
    (assignments : List (String × Option Value)) :
    FailsWith [.schema, .value] (changes schema before assignments) := by
  induction assignments generalizing before with
  | nil => exact .ok before
  | cons first rest ih =>
    obtain ⟨name, value⟩ := first
    rw [changes]
    split
    · exact .error (by simp [Fault.category])
    · next field _ =>
      cases value with
      | none => exact ih _
      | some value => exact .bind ((field.failsWith_admit value).mono (by simp)) fun _ ↦ ih _

theorem failsWith_writes (indexes : Indexes) (targets : List Nat)
    (changes : List (String × Field × Option Value)) :
    FailsWith [.constraint] (writes indexes targets changes) := by
  rw [writes_eq_findSome?]
  split
  · next fault hfault =>
    obtain ⟨change, -, hbroken⟩ := List.exists_of_findSome?_eq_some hfault
    exact .error (by simp [category_of_broken? hbroken])
  · exact .ok _

end Table

/-- The action is refused with faults of the given categories only, whatever the state is. -/
def Action.RefusedWith (allowed : List Category) (action : Action σ α) : Prop :=
  ∀ state fault after, action.run state = .error fault after → fault.category ∈ allowed

namespace Action.RefusedWith

variable {action : Action σ α}

theorem mono (h : RefusedWith allowed action) (hmore : allowed ⊆ more) :
    RefusedWith more action :=
  fun state fault after hrun ↦ hmore (h state fault after hrun)

theorem bind (h : RefusedWith allowed action) {rest : α → Action σ β}
    (hrest : ∀ a, RefusedWith allowed (rest a)) : RefusedWith allowed (action >>= rest) := by
  intro state fault after hrun
  rw [EStateM.run_bind] at hrun
  cases hfirst : action.run state with
  | ok a between =>
    rw [hfirst] at hrun
    exact hrest a between fault after hrun
  | error fault' between =>
    rw [hfirst] at hrun
    cases hrun
    exact h state fault after hfirst

theorem pure (a : α) : RefusedWith allowed (pure a : Action σ α) := fun _ _ _ hrun ↦ nomatch hrun

theorem get : RefusedWith allowed (get : Action σ σ) := fun _ _ _ hrun ↦ nomatch hrun

theorem check {check : Except Fault α} (h : FailsWith allowed check) :
    RefusedWith allowed (liftExcept check : Action σ α) := by
  intro state fault after hrun
  rw [run_liftExcept] at hrun
  cases check <;> cases hrun
  exact h fault rfl

theorem forM {actions : List α} {body : α → Action σ PUnit}
    (h : ∀ a, RefusedWith allowed (body a)) : RefusedWith allowed (actions.forM body) := by
  induction actions with
  | nil => exact pure ()
  | cons first rest ih => exact (h first).bind fun _ ↦ ih

/-- What an action is refused with is the result of performing it. -/
theorem of_perform (h : RefusedWith allowed action) {state : σ}
    (hrefused : (action.perform state).2 = .error fault) : fault.category ∈ allowed := by
  rw [perform] at hrefused
  cases hrun : action.run state with
  | ok a after =>
    rw [hrun] at hrefused
    cases hrefused
  | error fault' after =>
    rw [hrun] at hrefused
    cases hrefused
    exact h state fault after hrun

end Action.RefusedWith

open RecordStore.Action (RefusedWith)

namespace Table

theorem refusedWith_addField (field : Field) : RefusedWith [.schema] (addField field) := by
  intro table fault after hrun
  rw [run_addField] at hrun
  split_ifs at hrun
  all_goals
    cases hrun
    simp [Fault.category]

theorem refusedWith_insert (given : List (String × Value)) :
    RefusedWith [.schema, .value, .constraint] (insert given) := by
  intro table fault after hrun
  rw [run_insert] at hrun
  split at hrun
  · next hgiven =>
    cases hrun
    exact (failsWith_admitAll _ _).mono (by simp) fault hgiven
  split at hrun
  · cases hrun
    simp [Fault.category]
  split at hrun
  · cases hrun
    simp [Fault.category]
  · cases hrun

theorem refusedWith_deleteWhere (filter : Option Filter) :
    RefusedWith (categoriesOf filter) (deleteWhere (.ofFilter filter)) := by
  intro table fault after hrun
  rw [run_deleteWhere] at hrun
  split at hrun
  · next hmatching =>
    cases hrun
    exact table.failsWith_matching filter fault hmatching
  · cases hrun

theorem refusedWith_updateWhere (filter : Option Filter)
    (assignments : List (String × Option Value)) :
    RefusedWith ([.schema, .value, .constraint] ++ categoriesOf filter)
      (updateWhere (.ofFilter filter) assignments) := by
  intro table fault after hrun
  rw [run_updateWhere] at hrun
  split at hrun
  · next hchanges =>
    cases hrun
    exact (failsWith_changes _ _ _).mono (by simp) fault hchanges
  split at hrun
  · next hmatching =>
    cases hrun
    exact (table.failsWith_matching filter).mono (List.subset_append_right _ _) fault hmatching
  split at hrun
  · cases hrun
  split at hrun
  · next hwrites =>
    cases hrun
    exact (failsWith_writes _ _ _).mono (by simp) fault hwrites
  · cases hrun

end Table

/-! ### The categories of statements -/

namespace Statement

/-- The filter that a statement has. -/
def filter? : Statement → Option Filter
  | create _ _ | insert _ _ => none
  | update _ filter _ | delete _ filter | search _ filter => filter

/-- The statement puts values into records. -/
def GivesValues : Statement → Prop
  | insert _ _ | update _ _ _ => True
  | create _ _ | delete _ _ | search _ _ => False

/-- The categories of the faults that a statement may be refused with. -/
def categories : Statement → List Category
  | create _ _ => [.schema]
  | insert _ _ => [.schema, .value, .constraint]
  | update _ filter _ => [.schema, .value, .constraint] ++ categoriesOf filter
  | delete _ filter | search _ filter => .schema :: categoriesOf filter

/-- A statement has no category that does not fit it. -/
theorem of_mem_categories {statement : Statement} {category : Category}
    (h : category ∈ statement.categories) :
    category ≠ .wording ∧ (category = .constraint → statement.GivesValues) ∧
      (category = .value → statement.GivesValues) ∧
      (category = .filter → statement.filter?.isSome) := by
  rcases statement with _ | _ | ⟨_, _ | filter, _⟩ | ⟨_, _ | filter⟩ | ⟨_, _ | filter⟩
  all_goals
    simp only [categories, categoriesOf, Option.toList_none, Option.toList_some, List.map_nil,
      List.map_cons, List.cons_append, List.nil_append, List.mem_cons, List.not_mem_nil,
      or_false] at h
    rcases h with rfl | rfl | rfl | rfl <;> simp [GivesValues, filter?]

end Statement

namespace Store

theorem failsWith_table (store : Store) (name : String) :
    FailsWith [.schema] (store.table name) := by
  rw [table]
  split
  · exact .ok _
  · exact .error (by simp [Fault.category])

/-- An action on the table of a type is refused if there is no such type, or as it is itself. -/
theorem refusedWith_within {type : String} {action : Action Table α} (hschema : .schema ∈ allowed)
    (h : RefusedWith allowed action) : RefusedWith allowed (within type action) := by
  intro store fault after hrun
  rw [run_within] at hrun
  split at hrun
  · cases hrun
    exact hschema
  next table _ =>
  split at hrun
  · cases hrun
  · next hinner =>
    cases hrun
    exact h table fault _ hinner

theorem refusedWith_createType (name : String) (fields : List Field) :
    RefusedWith [.schema] (createType name fields) := by
  intro store fault after hrun
  rw [run_createType] at hrun
  split_ifs at hrun
  · cases hrun
    simp [Fault.category]
  · cases hrun
    simp [Fault.category]
  · split at hrun
    · next hinner =>
      cases hrun
      exact RefusedWith.forM Table.refusedWith_addField _ fault _ hinner
    · cases hrun

theorem failsWith_select (store : Store) (type : String) (filter : Option Filter) :
    FailsWith (.schema :: categoriesOf filter) (store.select type filter) := by
  have hschema := List.subset_cons_self Category.schema (categoriesOf filter)
  refine .bind ((failsWith_table store type).mono (by simp)) fun table ↦ ?_
  refine .bind ((table.schema.failsWith_admitFilter filter).mono hschema) fun _ ↦ ?_
  exact .bind (((table.failsWith_matching filter).mono hschema).map _) fun found ↦ .ok _

/-- **A statement is refused with faults of its own categories**, whatever the store. -/
theorem refusedWith_apply (statement : Statement) :
    RefusedWith statement.categories (apply statement) := by
  cases statement with
  | create type fields => exact (refusedWith_createType type fields).bind fun _ ↦ .pure _
  | insert type values =>
    refine refusedWith_within (by simp [Statement.categories]) (RefusedWith.get.bind fun table ↦ ?_)
    refine .bind (.check ((table.schema.failsWith_coerce values).mono ?_)) fun assignments ↦ ?_
    · simp [Statement.categories]
    · exact (Table.refusedWith_insert _).bind fun _ ↦ .pure _
  | update type filter values =>
    refine refusedWith_within (by simp [Statement.categories]) (RefusedWith.get.bind fun table ↦ ?_)
    refine .bind (.check ((table.schema.failsWith_coerce values).mono ?_)) fun assignments ↦ ?_
    · simp [Statement.categories]
    refine .bind (.check ((table.schema.failsWith_admitFilter filter).mono ?_)) fun _ ↦ ?_
    · exact List.subset_append_right _ _
    · exact (Table.refusedWith_updateWhere filter _).bind fun _ ↦ .pure _
  | delete type filter =>
    have hschema := List.subset_cons_self Category.schema (categoriesOf filter)
    refine refusedWith_within List.mem_cons_self (RefusedWith.get.bind fun table ↦ ?_)
    refine .bind (.check ((table.schema.failsWith_admitFilter filter).mono hschema)) fun _ ↦ ?_
    exact ((Table.refusedWith_deleteWhere filter).mono hschema).bind fun _ ↦ .pure _
  | search type filter =>
    exact RefusedWith.get.bind fun store ↦
      (RefusedWith.check (failsWith_select store type filter)).bind fun _ ↦ .pure _

/-- **The category of a fault tells where a command failed.** A line either cannot be read, and then
every store refuses it for that, or is never refused for its wording. Of the lines that can be read,
only those that put values into records are refused for a constraint or for a value, and only those
with a filter for a filter. -/
theorem category_of_refused (line : String) :
    (∃ fault, Statement.ofText line = .error fault ∧
        ∀ store, step store line = (store, .error fault)) ∨
      ∃ statement, Statement.ofText line = .ok statement ∧
        ∀ store fault, (step store line).2 = .error fault →
          fault.category ≠ .wording ∧
          (fault.category = .constraint → statement.GivesValues) ∧
          (fault.category = .value → statement.GivesValues) ∧
          (fault.category = .filter → statement.filter?.isSome) := by
  cases hread : Statement.ofText line with
  | error fault => exact .inl ⟨fault, rfl, fun _ ↦ step_of_unreadable hread⟩
  | ok statement =>
    refine .inr ⟨statement, rfl, fun store fault hrefused ↦ ?_⟩
    rw [step_eq_perform hread] at hrefused
    exact Statement.of_mem_categories ((refusedWith_apply statement).of_perform hrefused)

end Store

end RecordStore
