import RecordStore.Action
import RecordStore.Table.Index

/-!
# Tables

A table is a type with its records: a schema, the records in the order of their insertion, the
index of each unique field, and the number that the next record will have. Numbers are never used
twice. Fields can only be added while there are no records.
-/

namespace RecordStore

/-- A type with its records. -/
structure Table where
  /-- The name of the type as it was created. -/
  name : String
  /-- The fields of the type. -/
  schema : Schema
  /-- The records in the order of their insertion. -/
  records : List Record
  /-- The indexes of the unique fields. -/
  indexes : Indexes
  /-- The number of the next record. -/
  nextId : Nat
  deriving DecidableEq

/-- A condition on records, which may turn out to be without meaning. -/
abbrev Condition : Type := Schema → Record → Except Fault Bool

/-- The condition that a filter expresses; no filter is a condition that every record meets. -/
def Condition.ofFilter (filter : Option Filter) : Condition := fun schema record ↦
  match filter with
  | none => .ok true
  | some filter => (filter.evaluate schema record).mapError .filter

namespace Table

/-- The table of a type without fields and records. -/
def empty (name : String) : Table := ⟨name, .empty, [], [], 0⟩

/-- Declares a further field. -/
def addField (field : Field) : Action Table Unit := do
  let table ← get
  if field.key = "" then
    throw (.badField field.name)
  if (table.schema.field? field.key).isSome then
    throw (.duplicateField field.name)
  if !table.records.isEmpty then
    throw (.lateField field.name table.name)
  if field.unique then
    modify fun table ↦ { table with indexes := Entries.put field.key [] table.indexes }
  modify fun table ↦ { table with schema := ⟨table.schema.fields ++ [field]⟩ }

/-! ### Selecting records -/

/-- Which of the records meet a condition. The first record of which it has no meaning decides. -/
def matchRecords (condition : Condition) (schema : Schema) :
    List Record → Except Fault (List Bool)
  | [] => .ok []
  | record :: records => do
    let met ← condition schema record
    let rest ← matchRecords condition schema records
    return met :: rest

/-- Which of the table's records meet a condition, in order. -/
def matching (table : Table) (condition : Condition) : Except Fault (List Bool) :=
  matchRecords condition table.schema table.records

/-- The records that a mask picks. -/
def picked : List Record → List Bool → List Record
  | record :: records, true :: mask => record :: picked records mask
  | _ :: records, false :: mask => picked records mask
  | _, _ => []

/-- The records that meet a condition, in order. -/
def find (table : Table) (condition : Condition) : Except Fault (List Record) :=
  (table.matching condition).map (picked table.records)

end Table

end RecordStore
