import RecordStore.Proofs.Action
import RecordStore.Table.Change

/-!
# What the actions on a table come to

Each action on a table checks first and changes afterwards. Here each of them is brought to that
form: which check decides, with which fault, and what the table is afterwards. The state after a
refusal is read off the action, which works in place, and turns out to be the table as it was.

Nothing later on opens the actions themselves.
-/

namespace RecordStore.Table

open RecordStore.Action (run_liftExcept)

/-! ### The tables after a change -/

/-- The table with a further field. -/
def declare (table : Table) (field : Field) : Table :=
  { table with
    schema := ⟨table.schema.fields ++ [field]⟩
    indexes := if field.unique then Entries.put field.key [] table.indexes else table.indexes }

/-- The table with a further record. -/
def append (table : Table) (values : Entries String Value) : Table :=
  { table with
    records := table.records ++ [⟨table.nextId, values⟩]
    indexes := table.indexes.add ⟨table.nextId, values⟩
    nextId := table.nextId + 1 }

/-- The table without the records that a mask picks. -/
def drop (table : Table) (mask : List Bool) : Table :=
  { table with
    records := spared table.records mask
    indexes := (picked table.records mask).foldl Indexes.remove table.indexes }

/-- The table with values written into the records that a mask picks. -/
def rewrite (table : Table) (writes : List (String × Value)) (mask : List Bool) : Table :=
  { table with
    records := (overwrite writes table.records mask table.indexes).1
    indexes := (overwrite writes table.records mask table.indexes).2 }

/-! ### Checks, then changes -/

theorem run_addField (field : Field) (table : Table) :
    (addField field).run table =
      if field.key = "" then .error (.badField field.name) table
      else if (table.schema.field? field.key).isSome then .error (.duplicateField field.name) table
      else if !table.records.isEmpty then .error (.lateField field.name table.name) table
      else .ok () (table.declare field) := by
  rw [addField, EStateM.run_bind, EStateM.run_get]
  by_cases hblank : field.key = ""
  · simp only [if_pos hblank]
    rfl
  by_cases hknown : (table.schema.field? field.key).isSome
  · simp only [if_neg hblank, if_pos hknown]
    rfl
  by_cases hlate : !table.records.isEmpty
  · simp only [if_neg hblank, if_neg hknown, if_pos hlate]
    rfl
  simp only [if_neg hblank, if_neg hknown, if_neg hlate, declare]
  by_cases hunique : field.unique
  · simp only [if_pos hunique]
    rfl
  · simp only [if_neg hunique]
    rfl

theorem run_insert (given : List (String × Value)) (table : Table) :
    (insert given).run table =
      match admitAll table.schema (byKey given) with
      | .error fault => .error fault table
      | .ok _ =>
        match firstMissing? table.schema (byKey given) with
        | some field => .error (.missingRequired field.name) table
        | none =>
          match table.firstTaken? (completed table.schema (byKey given)) with
          | some field => .error (.duplicateValue field.name) table
          | none => .ok table.nextId (table.append (completed table.schema (byKey given))) := by
  simp only [insert, EStateM.run_bind, EStateM.run_get, run_liftExcept]
  cases admitAll table.schema (byKey given) with
  | error fault => rfl
  | ok =>
    cases firstMissing? table.schema (byKey given) with
    | some field => rfl
    | none => cases table.firstTaken? (completed table.schema (byKey given)) <;> rfl

theorem run_deleteWhere (condition : Condition) (table : Table) :
    (deleteWhere condition).run table =
      match table.matching condition with
      | .error fault => .error fault table
      | .ok mask => .ok (picked table.records mask).length (table.drop mask) := by
  simp only [deleteWhere, EStateM.run_bind, EStateM.run_get, run_liftExcept]
  cases table.matching condition <;> rfl

theorem run_updateWhere (condition : Condition) (assignments : List (String × Option Value))
    (table : Table) :
    (updateWhere condition assignments).run table =
      match changes table.schema [] assignments with
      | .error fault => .error fault table
      | .ok changes =>
        match table.matching condition with
        | .error fault => .error fault table
        | .ok mask =>
          if (picked table.records mask).isEmpty then .ok 0 table
          else
            match writes table.indexes ((picked table.records mask).map (·.id)) changes with
            | .error fault => .error fault table
            | .ok writes => .ok (picked table.records mask).length (table.rewrite writes mask) := by
  simp only [updateWhere, EStateM.run_bind, EStateM.run_get, run_liftExcept]
  cases changes table.schema [] assignments with
  | error fault => rfl
  | ok changes =>
    cases table.matching condition with
    | error fault => rfl
    | ok mask =>
      by_cases hnone : (picked table.records mask).isEmpty
      · simp only [if_pos hnone]
        rfl
      · simp only [if_neg hnone, EStateM.run_bind, run_liftExcept]
        cases writes table.indexes ((picked table.records mask).map (·.id)) changes <;> rfl

/-! ### Actions that are done -/

variable {table after : Table}

theorem eq_declare_of_addField {field : Field} {u : Unit}
    (h : (addField field).run table = .ok u after) :
    field.key ≠ "" ∧ table.schema.field? field.key = none ∧ table.records = [] ∧
      after = table.declare field := by
  rw [run_addField] at h
  split at h
  · cases h
  next hblank =>
  split at h
  · cases h
  next hknown =>
  split at h
  · cases h
  next hlate =>
  cases h
  exact ⟨hblank, by simpa using hknown, by simpa using hlate, rfl⟩

theorem eq_append_of_insert {given : List (String × Value)} {number : Nat}
    (h : (insert given).run table = .ok number after) :
    admitAll table.schema (byKey given) = .ok () ∧
      firstMissing? table.schema (byKey given) = none ∧
      table.firstTaken? (completed table.schema (byKey given)) = none ∧
      number = table.nextId ∧ after = table.append (completed table.schema (byKey given)) := by
  rw [run_insert] at h
  split at h
  · cases h
  next hgiven =>
  split at h
  · cases h
  next hmissing =>
  split at h
  · cases h
  next hfree =>
  cases h
  exact ⟨hgiven, hmissing, hfree, rfl, rfl⟩

theorem exists_drop_of_deleteWhere {condition : Condition} {count : Nat}
    (h : (deleteWhere condition).run table = .ok count after) :
    ∃ mask, table.matching condition = .ok mask ∧
      count = (picked table.records mask).length ∧ after = table.drop mask := by
  rw [run_deleteWhere] at h
  split at h
  · cases h
  · next mask hmatching =>
    cases h
    exact ⟨mask, hmatching, rfl, rfl⟩

end RecordStore.Table
