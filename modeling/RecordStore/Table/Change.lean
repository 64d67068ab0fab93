import RecordStore.Table.Basic

/-!
# Changing the records of a table

Records are inserted, updated and deleted. Each change is checked as a whole before any of it is
made, and the checks come in a fixed order: names and kinds of what is given, the condition on
every record, then required and unique fields.

The indexes are not computed anew but follow each change record by record. All three actions work
on the table in place, so the order of what they do shows: a table is touched only once nothing can
be refused any more.
-/

namespace RecordStore

open RecordStore.Text

/-- Refuses a value of another kind than the field's. -/
def Field.admit (field : Field) (value : Value) : Except Fault Unit :=
  if value.kind = field.kind then .ok ()
  else .error (.badValue field.name (.wrongKind value.kind field.kind))

namespace Table

/-! ### Insertion -/

/-- What is given, by canonical name. Of two values for one field the last counts. -/
def byKey (given : List (String × Value)) : Entries String Value :=
  Entries.ofList (given.map fun (name, value) ↦ (canonical name, value))

/-- Refuses values for fields that do not exist, or of the wrong kind. -/
def admitAll (schema : Schema) : List (String × Value) → Except Fault Unit
  | [] => .ok ()
  | (key, value) :: given =>
    match schema.field? key with
    | none => .error (.fieldNotFound key)
    | some field => do
      field.admit value
      admitAll schema given

/-- The first required field that is given no value. -/
def firstMissing? (schema : Schema) (given : Entries String Value) : Option Field :=
  schema.fields.find? fun field ↦ field.required && (given.lookup field.key).isNone

/-- A value for each field: the one given, or else the default of the field's kind. -/
def completed (schema : Schema) (given : Entries String Value) : Entries String Value :=
  schema.fields.map fun field ↦ (field.key, (given.lookup field.key).getD field.kind.default)

/-- The first unique field whose value is held by a record. -/
def firstTaken? (table : Table) (values : Entries String Value) : Option Field :=
  table.schema.fields.find? fun field ↦
    field.unique &&
      ((values.lookup field.key).bind (table.indexes.holder? field.key)).isSome

/-- Inserts a record with the given values, and returns its number. Names may be given in any
spelling. -/
def insert (given : List (String × Value)) : Action Table Nat := do
  let table ← get
  let given := byKey given
  liftExcept (admitAll table.schema given)
  if let some field := firstMissing? table.schema given then
    throw (.missingRequired field.name)
  let values := completed table.schema given
  if let some field := table.firstTaken? values then
    throw (.duplicateValue field.name)
  -- nothing is refused from here on
  modify fun table ↦ { table with nextId := table.nextId + 1 }
  let record : Record := ⟨table.nextId, values⟩
  modify fun table ↦ { table with indexes := table.indexes.add record }
  modify fun table ↦ { table with records := table.records ++ [record] }
  return record.id

/-! ### Deletion -/

/-- The records that a mask does not pick. -/
def spared : List Record → List Bool → List Record
  | _ :: records, true :: mask => spared records mask
  | record :: records, false :: mask => record :: spared records mask
  | records, _ => records

/-- Removes the records that meet a condition, and returns how many they were. -/
def deleteWhere (condition : Condition) : Action Table Nat := do
  let table ← get
  let mask ← liftExcept (table.matching condition)
  let removed := picked table.records mask
  modify fun table ↦ { table with indexes := removed.foldl Indexes.remove table.indexes }
  modify fun table ↦ { table with records := spared table.records mask }
  return removed.length

/-! ### Update -/

/-- The fields to change, each with the value assigned to it last, in the order of first mention.
No value stands for the default. -/
def changes (schema : Schema) (before : Entries String (Field × Option Value)) :
    List (String × Option Value) → Except Fault (Entries String (Field × Option Value))
  | [] => .ok before
  | (name, value) :: assignments =>
    match schema.field? name with
    | none => .error (.fieldNotFound name)
    | some field => do
      if let some value := value then
        field.admit value
      changes schema (Entries.put field.key (field, value) before) assignments

/-- The values to write, if required fields keep a value and no unique field gets one that is held
by a record outside the targets, or that several targets would share. -/
def writes (indexes : Indexes) (targets : List Nat) :
    List (String × Field × Option Value) → Except Fault (List (String × Value))
  | [] => .ok []
  | (key, field, value) :: rest => do
    if field.required && value.isNone then
      throw (.missingRequired field.name)
    let value := value.getD field.kind.default
    let heldElsewhere := (indexes.holder? key value).any (!targets.contains ·)
    if field.unique && (1 < targets.length || heldElsewhere) then
      throw (.duplicateValue field.name)
    let rest ← writes indexes targets rest
    return (key, value) :: rest

/-- Writes values into the records that a mask picks, and lets the indexes follow. -/
def overwrite (writes : List (String × Value)) :
    List Record → List Bool → Indexes → List Record × Indexes
  | record :: records, true :: mask, indexes =>
    let written := record.write writes
    let (records, indexes) :=
      overwrite writes records mask ((indexes.remove record).add written)
    (written :: records, indexes)
  | record :: records, false :: mask, indexes =>
    let (records, indexes) := overwrite writes records mask indexes
    (record :: records, indexes)
  | records, _, indexes => (records, indexes)

/-- Assigns values to fields of the records that meet a condition, and returns how many they were.
An assignment of no value resets the field to its default. -/
def updateWhere (condition : Condition) (assignments : List (String × Option Value)) :
    Action Table Nat := do
  let table ← get
  let changes ← liftExcept (changes table.schema [] assignments)
  let mask ← liftExcept (table.matching condition)
  let targets := picked table.records mask
  if targets.isEmpty then
    return 0
  let writes ← liftExcept (writes table.indexes (targets.map (·.id)) changes)
  -- nothing is refused from here on
  modify fun table ↦
    let (records, indexes) := overwrite writes table.records mask table.indexes
    { table with records, indexes }
  return targets.length

end Table

end RecordStore
