import RecordStore.Proofs.Table.Lines

/-!
# The columns of a grid

All columns of a grid have one width, and it is counted in characters. So where a cell stands can be
computed: behind the bar at the front of its line come the cells, each as wide as the columns and
with a bar behind it, and the cell of column `j` is found `2 + j * (width + 3)` characters into the
line (`ShowsAt`). A name is shown in full, since no name is longer than the columns are wide. A
value may be cut off.

A record of a table that calls lead to holds a value for each field, so none of its cells is blank
for want of one (`laidOut_grid`).
-/

namespace RecordStore.Table

variable {table : Table} {records : List Record} {record : Record} {names cells : List String}
  {line s : String} {text : List Char} {width j : Nat}

/-! ### Blocks of one size -/

section

variable {α β : Type} {f : α → List β} {x : α} {xs : List α} {size : Nat}

theorem length_flatMap_of_size (hsize : ∀ x, (f x).length = size) (xs : List α) :
    (xs.flatMap f).length = xs.length * size := by
  simp only [List.length_flatMap, hsize, List.map_const', List.sum_replicate_nat]

/-- Dropping the first blocks is dropping what they are made of. -/
theorem drop_flatMap_of_size (hsize : ∀ x, (f x).length = size) (xs : List α) (j : Nat) :
    (xs.flatMap f).drop (j * size) = (xs.drop j).flatMap f := by
  induction xs generalizing j with
  | nil => rw [List.flatMap_nil, List.drop_nil, List.drop_nil, List.flatMap_nil]
  | cons x xs ih =>
    cases j with
    | zero => rw [Nat.zero_mul, List.drop_zero, List.drop_zero]
    | succ j =>
      have hskip : (j + 1) * size = (f x).length + j * size := by
        rw [hsize, Nat.succ_mul, Nat.add_comm]
      rw [List.flatMap_cons, hskip, List.drop_length_add_append, ih, List.drop_succ_cons]

/-- A block is found behind those before it, and the others come behind it. -/
theorem drop_flatMap_of_getElem? (hsize : ∀ x, (f x).length = size) (h : xs[j]? = some x) :
    (xs.flatMap f).drop (j * size) = f x ++ (xs.drop (j + 1)).flatMap f := by
  obtain ⟨hj, rfl⟩ := List.getElem?_eq_some_iff.1 h
  rw [drop_flatMap_of_size hsize, List.drop_eq_getElem_cons hj, List.flatMap_cons]

end

/-! ### Widths -/

/-- The width is the larger of ten and the length of the longest name. -/
structure IsWidth (names : List String) (width : Nat) : Prop where
  ten_le : 10 ≤ width
  length_le : ∀ name ∈ names, name.length ≤ width
  attained : width = 10 ∨ ∃ name ∈ names, name.length = width

theorem isWidth_columnWidth (names : List String) : IsWidth names (columnWidth names) := by
  have hmax : columnWidth names = max 10 ((names.map String.length).max?.getD 10) := by
    rw [columnWidth, List.foldl_max]
    rfl
  refine ⟨hmax ▸ Nat.le_max_left _ _, fun _ ↦ length_le_columnWidth, ?_⟩
  cases hlengths : (names.map String.length).max? with
  | none =>
    rw [hlengths] at hmax
    exact .inl hmax
  | some length =>
    rw [hlengths, Option.getD_some] at hmax
    rcases Nat.le_total length 10 with hle | hle
    · exact .inl (hmax.trans (Nat.max_eq_left hle))
    · obtain ⟨name, hname, hlength⟩ := List.mem_map.1 (List.max?_mem hlengths)
      exact .inr ⟨name, hname, hlength.trans (hmax.trans (Nat.max_eq_right hle)).symm⟩

/-! ### Lines of cells -/

/-- Column `j` of the line shows the text: its cell holds the text and then spaces, and a bar stands
behind it. -/
structure ShowsAt (line : String) (width j : Nat) (text : List Char) : Prop where
  length_le : text.length ≤ width
  cell_eq : (line.toList.drop (2 + j * (width + 3))).take width =
    text ++ List.replicate (width - text.length) ' '
  bar_eq : (line.toList.drop (2 + j * (width + 3) + width)).take 3 = [' ', '|', ' ']

/-- A cell, with the bar behind it. -/
def barred (width : Nat) (s : String) : List Char :=
  (cell width s).toList ++ [' ', '|', ' ']

theorem length_barred (width : Nat) (s : String) : (barred width s).length = width + 3 := by
  rw [barred, List.length_append, String.length_toList, length_cell]
  rfl

theorem toList_cellText (width : Nat) (cells : List String) :
    (cellText width cells).toList = ['|', ' '] ++ cells.flatMap (barred width) := by
  have hfront : "| ".toList = ['|', ' '] := rfl
  have hbehind : " | ".toList = [' ', '|', ' '] := rfl
  simp only [cellText, String.toList_append, String.toList_join, List.flatMap_map, hfront, hbehind,
    List.append_cancel_left_eq]
  rfl

theorem length_cellText (width : Nat) (cells : List String) :
    (cellText width cells).length = 2 + cells.length * (width + 3) := by
  rw [← String.length_toList, toList_cellText, List.length_append,
    length_flatMap_of_size (length_barred width)]
  rfl

theorem length_dashText (width columns : Nat) :
    (dashText width columns).length = 1 + columns * (width + 3) := by
  have hbar : "|".toList = ['|'] := rfl
  simp only [dashText, ← String.length_toList, String.toList_append, String.toList_join,
    String.toList_ofList, List.length_append, List.length_flatMap, List.map_replicate,
    List.sum_replicate_nat, List.length_replicate, hbar, List.length_singleton]

/-- The cells of a line show their texts, as far as the width goes. -/
theorem showsAt_cellText (h : cells[j]? = some s) :
    ShowsAt (cellText width cells) width j (s.toList.take width) := by
  have hskip (count : Nat) : (cellText width cells).toList.drop (2 + count) =
      (cells.flatMap (barred width)).drop count := by
    have hfront : 2 + count = ['|', ' '].length + count := rfl
    rw [toList_cellText, hfront, List.drop_length_add_append]
  have hblock := drop_flatMap_of_getElem? (length_barred width) h
  have hcell : (cell width s).toList.length = width := length_cell width s
  refine ⟨List.length_take_le _ _, ?_, ?_⟩
  · rw [hskip, hblock, barred, List.append_assoc, List.take_left' hcell, cell, String.toList_ofList]
  · rw [Nat.add_assoc, hskip, ← List.drop_drop, hblock, barred, List.append_assoc,
      List.drop_left' hcell]
    rfl

/-! ### The grid -/

/-- The lines are those of a grid of the records: one with the names of the fields, one between, and
one for each record, with a value for each field. -/
structure LaidOut (table : Table) (records : List Record) (width : Nat) (header dashes : String)
    (rows : List String) : Prop where
  length_header : header.length = 2 + table.schema.fields.length * (width + 3)
  length_dashes : dashes.length = 1 + table.schema.fields.length * (width + 3)
  length_row : ∀ row ∈ rows, row.length = 2 + table.schema.fields.length * (width + 3)
  /-- The names are shown in full. -/
  showsAt_header : ∀ j field, table.schema.fields[j]? = some field →
    ShowsAt header width j field.name.toList
  /-- The texts of the values are shown as far as the width goes. -/
  showsAt_row : List.Forall₂ (fun record row ↦ ∀ j field, table.schema.fields[j]? = some field →
    ∃ value, record.value? field.key = some value ∧
      ShowsAt row width j (value.display.toList.take width)) records rows

/-- The line of the names shows them in full. -/
theorem showsAt_names {fields : List Field} {field : Field} (hfield : fields[j]? = some field) :
    ShowsAt (cellText (columnWidth (fields.map (·.name))) (fields.map (·.name)))
      (columnWidth (fields.map (·.name))) j field.name.toList := by
  have hname : (fields.map (·.name))[j]? = some field.name := by
    rw [List.getElem?_map, hfield, Option.map_some]
  have hfits : field.name.toList.length ≤ columnWidth (fields.map (·.name)) :=
    length_le_columnWidth (List.mem_of_getElem? hname)
  rw [← List.take_of_length_le hfits]
  exact showsAt_cellText hname

/-- The line of a record shows what it holds. -/
theorem showsAt_shown {fields : List Field} {field : Field} {value : Value}
    (hfield : fields[j]? = some field) (hvalue : record.value? field.key = some value) :
    ShowsAt (cellText width (fields.map (shown record))) width j
      (value.display.toList.take width) := by
  have hshown : shown record field = value.display := by rw [shown, hvalue]
  rw [← hshown]
  refine showsAt_cellText ?_
  rw [List.getElem?_map, hfield, Option.map_some]

/-- **A grid is laid out in columns of one width**, that of the longest name but at least ten
characters. The lines of the names and of the records have a cell for each field, and column `j`
begins `2 + j * (width + 3)` characters into the line. It shows the name of the field in full, and
of each record the value that it holds there, as far as the width goes. No record lacks one. -/
theorem laidOut_grid (h : table.Reachable) (hrecords : records ⊆ table.records) :
    ∃ width header dashes rows, IsWidth (table.schema.fields.map (·.name)) width ∧
      LaidOut table records width header dashes rows ∧
      (grid table records).toList =
        (header :: dashes :: rows).flatMap (·.toList ++ ['\n']) := by
  have hgrid : (grid table records).toList =
      (gridLines table records).flatMap (·.toList ++ ['\n']) := by
    rw [toList_grid, List.flatMap_map]
  refine ⟨_, _, _, _, isWidth_columnWidth _, ?_, hgrid⟩
  refine ⟨?_, ?_, ?_, fun j field ↦ showsAt_names, ?_⟩
  · rw [length_cellText, List.length_map]
  · rw [length_dashText, List.length_map]
  · rw [List.forall_mem_map]
    intro record _
    rw [length_cellText, List.length_map]
  · rw [List.forall₂_map_right_iff, List.forall₂_same]
    intro record hrecord j field hfield
    have hfits := h.sound.fits record (hrecords hrecord)
    obtain ⟨value, hvalue, -⟩ := hfits.exists_value (List.mem_of_getElem? hfield)
    exact ⟨value, hvalue, showsAt_shown hfield hvalue⟩

/-- A table with a name that is longer than ten characters, and with longer texts. -/
def stations : Table :=
  afterCalls (.empty "Station") [.addField ⟨"Où", .text, true, true⟩,
    .addField ⟨"Température", .int, false, false⟩,
    .insert [("où", .text "à l’étang de la forêt"), ("température", .int 17)],
    .insert [("Où", .text "")]]

/-- The columns are eleven characters wide, as the longest name is. -/
theorem laidOut_grid_stations :
    grid stations stations.records.reverse =
        "| Où          | Température | \n" ++
        "|-------------|-------------|\n" ++
        "|             | 0           | \n" ++
        "| à l’étang d | 17          | \n" ∧
      ∃ width header dashes rows, IsWidth (stations.schema.fields.map (·.name)) width ∧
        LaidOut stations stations.records.reverse width header dashes rows ∧
        (grid stations stations.records.reverse).toList =
          (header :: dashes :: rows).flatMap (·.toList ++ ['\n']) :=
  ⟨by decide +kernel, laidOut_grid ⟨_, _, rfl⟩ fun _ h ↦ List.mem_reverse.1 h⟩

end RecordStore.Table
