import RecordStore.Command.Statement
import RecordStore.Store.Basic
import RecordStore.Table.Grid

/-!
# Executing commands

A command is read and then applied to the store in place, and gives a text to show. Searches can
also return their records as rows of values (`query`).
-/

namespace RecordStore

open RecordStore.Text

/-- The values that the entries of a payload give to fields, in order. A null gives none. -/
def Schema.coerce (schema : Schema) :
    List (String × Payload) → Except Fault (List (String × Option Value))
  | [] => .ok []
  | (name, payload) :: rest =>
    match schema.field? name with
    | none => .error (.fieldNotFound name)
    | some field => do
      let value ← match payload with
        | .null => .ok none
        | payload =>
          match field.kind.ofPayload payload with
          | .ok value => .ok (some value)
          | .error cause => .error (.badValue field.name (.coercion cause))
      let values ← coerce schema rest
      return (field.key, value) :: values

/-- Refuses a filter that names an unknown field. No filter names any. -/
def Schema.admitFilter (schema : Schema) : Option Filter → Except Fault Unit
  | none => .ok ()
  | some filter => (filter.check schema).mapError .filter

/-- The records that a search returns, as values. -/
structure Rows where
  /-- The names of the fields. -/
  columns : List String
  /-- The values of each record, in the order of the columns. -/
  rows : List (List Value)
  deriving DecidableEq

namespace Store

/-- The values that a payload gives to a new record. -/
def givenValues (assignments : List (String × Option Value)) : List (String × Value) :=
  assignments.filterMap fun (key, value) ↦ value.map fun value ↦ (key, value)

/-- The table of a type and those of its records that a filter selects. -/
def select (store : Store) (type : String) (filter : Option Filter) :
    Except Fault (Table × List Record) := do
  let table ← store.table type
  table.schema.admitFilter filter
  let found ← table.find (.ofFilter filter)
  return (table, found)

/-- The text that shows the result of a search. -/
def resultText (table : Table) (found : List Record) : String :=
  if found.isEmpty then "No results found."
  else
    "Search results (" ++ toString found.length ++ "):\n" ++ trimEnd (table.grid found)

/-- Does what a statement says, and returns a text to show. -/
def apply : Statement → Action Store String
  | .create type fields => do
    let table ← createType type fields
    return "Type '" ++ table.name ++ "' created (" ++ toString table.schema.fields.length ++
      " fields)."
  | .insert type values => within type do
    let table ← get
    let assignments ← liftExcept (table.schema.coerce values)
    let _ ← Table.insert (givenValues assignments)
    return "Instance inserted into '" ++ table.name ++ "'."
  | .update type filter values => within type do
    let table ← get
    let assignments ← liftExcept (table.schema.coerce values)
    liftExcept (table.schema.admitFilter filter)
    let count ← Table.updateWhere (.ofFilter filter) assignments
    return toString count ++ " instances updated."
  | .delete type filter => within type do
    let table ← get
    liftExcept (table.schema.admitFilter filter)
    let count ← Table.deleteWhere (.ofFilter filter)
    return toString count ++ " instances deleted."
  | .search type filter => do
    let store ← get
    let (table, found) ← liftExcept (store.select type filter)
    return resultText table found

/-- Does what a line of text says, and returns a text to show. -/
def execute (line : String) : Action Store String := do
  let statement ← liftExcept (Statement.ofText line)
  apply statement

/-- The store after a line of text, whether the command was refused or not, and its result. -/
def step (store : Store) (line : String) : Store × Except Fault String :=
  (execute line).perform store

/-- The values of a record in all fields of a schema. -/
def rowOf (schema : Schema) (record : Record) : List Value :=
  schema.fields.map fun field ↦ (record.get? field.name).getD field.kind.default

/-- The records that a search selects, as rows of values. -/
def query (store : Store) (line : String) : Except Fault Rows := do
  match ← Statement.ofText line with
  | .search type filter =>
    let (table, found) ← store.select type filter
    return ⟨table.schema.fields.map (·.name), found.map (rowOf table.schema)⟩
  | _ => throw (.badCommand .search .noRows)

end Store

end RecordStore
