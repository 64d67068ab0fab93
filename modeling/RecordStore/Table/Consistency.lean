import RecordStore.Table.Basic

/-!
# Consistency of the indexes

A check that every index says exactly what the records do. It looks at all records of any table,
whatever has been done to it, and uses no knowledge of how the indexes are kept.
-/

namespace RecordStore.Table

/-- The value of each record under a key with the record's number, if all records have one. -/
def column? (key : String) : List Record → Option (List (Value × Nat))
  | [] => some []
  | record :: records =>
    match record.value? key, column? key records with
    | some value, some rest => some ((value, record.id) :: rest)
    | _, _ => none

/-- Are no two of the values the same? -/
def allDistinct : List (Value × Nat) → Bool
  | [] => true
  | (value, _) :: rest => rest.all (!value.same ·.1) && allDistinct rest

/-- Does an index say exactly what a column does, and does the column hold no value twice? -/
def agrees (index : Index) (column : List (Value × Nat)) : Bool :=
  allDistinct column && column.length == index.length &&
    column.all fun (value, id) ↦ index.holder? value == some id

/-- Does every index say exactly what the records do? -/
def consistent (table : Table) : Bool :=
  table.indexes.all fun (key, index) ↦
    match column? key table.records with
    | some column => agrees index column
    | none => false

end RecordStore.Table
