import RecordStore.Table.Basic

/-!
# Grids

Records are shown as a grid: a line with the names of the fields, a line of dashes, and a line for
each record. All columns have one width, that of the longest name but at least ten characters;
longer values are cut off.
-/

namespace RecordStore.Table

/-- The least width of a column. -/
def leastWidth : Nat := 10

/-- The width of the columns under the given names. -/
def columnWidth (names : List String) : Nat :=
  (names.map String.length).foldl max leastWidth

/-- The text cut off at a width, or filled up to it with spaces. -/
def cell (width : Nat) (s : String) : String :=
  let shown := s.toList.take width
  String.ofList (shown ++ List.replicate (width - shown.length) ' ')

/-- A cell fills its column. -/
theorem length_cell (width : Nat) (s : String) : (cell width s).length = width := by
  simp only [cell, String.length_ofList, List.length_append, List.length_take,
    List.length_replicate]
  omega

/-- A line of cells. -/
def cellLine (width : Nat) (cells : List String) : String :=
  "| " ++ String.join (cells.map fun s ↦ cell width s ++ " | ") ++ "\n"

/-- The line below the names. -/
def dashLine (width columns : Nat) : String :=
  "|" ++ String.join (List.replicate columns
    (String.ofList (List.replicate (width + 2) '-') ++ "|")) ++ "\n"

/-- The grid of the given rows of texts under the given names. -/
def layout (names : List String) (rows : List (List String)) : String :=
  let width := columnWidth names
  cellLine width names ++ dashLine width names.length ++
    String.join (rows.map (cellLine width))

/-- The text that shows what a record holds in a field: nothing, if it holds nothing. -/
def shown (record : Record) (field : Field) : String :=
  match record.value? field.key with
  | some value => value.display
  | none => ""

/-- The grid of the given records of a table. -/
def grid (table : Table) (records : List Record) : String :=
  layout (table.schema.fields.map (·.name))
    (records.map fun record ↦ table.schema.fields.map (shown record))

end RecordStore.Table
