import RecordStore.Proofs.Table.Numbering
import RecordStore.Proofs.Value.ReadBack
import RecordStore.Table.Grid

/-!
# The lines of a grid

A grid is made of lines: one for the names of the fields, one of dashes, and one for each record
(`gridLines`). Each is ended by a line feed, so one may want to have them back by splitting the grid
at its line feeds.

But cells show texts as they are, and a line feed in a text is a line feed in the grid. It breaks the
line of its record in two, though it moves nothing to the line of another. So what splitting gives is,
line by line, what splitting the lines gives, and these are the lines themselves exactly if no cell
shows a line feed (`splitOn_grid`). Only names, texts and lists of texts can do that
(`splitOn_grid_of_kinds`).
-/

namespace RecordStore

open RecordStore.Text RecordStore.Number RecordStore.Time

/-! ### Values without blanks -/

/-- No character of the text is a blank. -/
def Unbroken (s : String) : Prop := ∀ c ∈ s.toList, isBlank c = false

instance (s : String) : Decidable (Unbroken s) :=
  List.decidableBAll (isBlank · = false) s.toList

theorem Unbroken.append {s t : String} (hs : Unbroken s) (ht : Unbroken t) : Unbroken (s ++ t) := by
  rw [Unbroken, String.toList_append, List.forall_mem_append]
  exact ⟨hs, ht⟩

theorem unbroken_ofList {cs : List Char} (h : ∀ c ∈ cs, isBlank c = false) :
    Unbroken (String.ofList cs) := by
  rwa [Unbroken, String.toList_ofList]

theorem unbroken_zeros (count : Nat) : Unbroken (String.ofList (List.replicate count '0')) :=
  unbroken_ofList fun c hc ↦ by
    rw [List.eq_of_mem_replicate hc]
    decide

theorem unbroken_toString (n : Int) : Unbroken (toString n) := fun _ ↦
  isBlank_of_denotes (denotes_toString n)

namespace Number.Double

variable {digits : String}

theorem unbroken_positionalText (h : Unbroken digits) (exponent : Int) :
    Unbroken (positionalText digits exponent) := by
  have hwhole (count : Nat) : Unbroken (String.ofList (digits.toList.take count)) :=
    unbroken_ofList fun c hc ↦ h c (List.mem_of_mem_take hc)
  have hfraction (count : Nat) : Unbroken (String.ofList (digits.toList.drop count)) :=
    unbroken_ofList fun c hc ↦ h c (List.mem_of_mem_drop hc)
  rw [positionalText]
  split_ifs
  · exact (h.append (unbroken_zeros _)).append (by decide)
  · exact ((hwhole _).append (by decide)).append (hfraction _)
  · exact (Unbroken.append (by decide) (unbroken_zeros _)).append h

theorem unbroken_exponentText (h : Unbroken digits) (lead : Int) :
    Unbroken (exponentText digits lead) := by
  rw [exponentText]
  split
  · decide
  · next first more hdigits =>
    rw [Unbroken, hdigits, List.forall_mem_cons] at h
    have hfirst : Unbroken (String.ofList [first]) :=
      unbroken_ofList (List.forall_mem_singleton.2 h.1)
    have hfraction : Unbroken (if more.isEmpty then "" else "." ++ String.ofList more) := by
      split_ifs
      · decide
      · exact Unbroken.append (by decide) (unbroken_ofList h.2)
    exact ((hfirst.append hfraction).append (by decide)).append (unbroken_toString lead)

theorem unbroken_decimalText (d : Decimal) : Unbroken (decimalText d) := by
  have hdigits : Unbroken (toString d.digits) := unbroken_toString d.digits
  rw [decimalText]
  split_ifs
  · exact unbroken_positionalText hdigits _
  · exact unbroken_exponentText hdigits _

theorem unbroken_text (d : Double) : Unbroken d.text := by
  have hsign : Unbroken (if d.isNegative then "-" else "") := by
    split <;> decide
  rw [text]
  split
  · decide
  dsimp only
  split
  · exact hsign.append (by decide)
  split
  · exact hsign.append (by decide)
  · exact hsign.append (unbroken_decimalText _)

end Number.Double

/-- Only texts are shown with blanks in them. -/
theorem Value.unbroken_display {value : Value} (htext : value.kind ≠ .text)
    (htexts : value.kind ≠ .texts) : Unbroken value.display := by
  cases value with
  | text s => exact absurd rfl htext
  | int n => exact unbroken_toString n.toInt
  | double d => exact d.unbroken_text
  | bool b => cases b <;> decide
  | time m => exact fun _ ↦ Moment.isBlank_of_mem_text
  | texts items => exact absurd rfl htexts

namespace Table

variable {table : Table} {records : List Record}

/-! ### Splitting what is ended -/

section

variable {α : Type} [DecidableEq α] {x : α} {part xs : List α} {lines : List (List α)}

/-- No part of a list that is split holds what it is split at. -/
theorem not_mem_of_mem_splitOn (h : part ∈ xs.splitOn x) : x ∉ part := by
  induction xs generalizing part with
  | nil =>
    rw [List.splitOn_nil, List.mem_singleton] at h
    rw [h]
    exact List.not_mem_nil
  | cons y ys ih =>
    rw [List.splitOn_cons_eq_if_modifyHead] at h
    split_ifs at h with heq
    · rcases List.mem_cons.1 h with rfl | h
      · exact List.not_mem_nil
      · exact ih h
    · obtain ⟨first, rest, hsplit⟩ := List.exists_cons_of_ne_nil (List.splitOn_ne_nil x ys)
      rw [hsplit] at h ih
      rcases List.mem_cons.1 h with rfl | h
      · rw [List.mem_cons, not_or]
        exact ⟨fun hx ↦ heq (beq_iff_eq.2 hx.symm), ih List.mem_cons_self⟩
      · exact ih (List.mem_cons_of_mem first h)

/-- What is split at the ends of its lines is split line by line. -/
theorem splitOn_ended (x : α) (lines : List (List α)) :
    (lines.flatMap (· ++ [x])).splitOn x = lines.flatMap (·.splitOn x) ++ [[]] := by
  induction lines with
  | nil => exact List.splitOn_nil x
  | cons line lines ih =>
    rw [List.flatMap_cons, List.append_assoc, List.singleton_append, List.splitOn_append_cons_self, ih,
      List.flatMap_cons, List.append_assoc]

/-- Lines are their own parts exactly if none holds what they are split at. -/
theorem flatMap_splitOn_eq_iff : lines.flatMap (·.splitOn x) = lines ↔ ∀ line ∈ lines, x ∉ line := by
  constructor
  · intro h line hline
    rw [← h] at hline
    obtain ⟨_, -, hpart⟩ := List.mem_flatMap.1 hline
    exact not_mem_of_mem_splitOn hpart
  · intro h
    rw [List.flatMap_congr fun line hline ↦ List.splitOn_eq_singleton (h line hline),
      List.flatMap_singleton']

end

/-! ### The lines -/

/-- What stands on a line of cells. -/
def cellText (width : Nat) (cells : List String) : String :=
  "| " ++ String.join (cells.map fun s ↦ cell width s ++ " | ")

/-- What stands on the line below the names. -/
def dashText (width columns : Nat) : String :=
  "|" ++ String.join (List.replicate columns
    (String.ofList (List.replicate (width + 2) '-') ++ "|"))

/-- The lines of a grid: one for the names, one of dashes, and one for each record. -/
def gridLines (table : Table) (records : List Record) : List String :=
  let names := table.schema.fields.map (·.name)
  let width := columnWidth names
  cellText width names :: dashText width names.length ::
    records.map fun record ↦ cellText width (table.schema.fields.map (shown record))

/-- A cell of the grid shows a line feed. -/
inductive ShowsLineFeed (table : Table) (records : List Record) : Prop where
  /-- The name of a field holds one. Names are shown in full. -/
  | name {field : Field} (hfield : field ∈ table.schema.fields) (h : '\n' ∈ field.name.toList)
  /-- The text of a value holds one, and not behind the end of its cell. -/
  | value {record : Record} {field : Field} {value : Value} (hrecord : record ∈ records)
      (hfield : field ∈ table.schema.fields) (hvalue : record.value? field.key = some value)
      (h : '\n' ∈ value.display.toList.take (columnWidth (table.schema.fields.map (·.name))))

/-- **A grid is its lines**, with a line feed behind each. -/
theorem toList_grid (table : Table) (records : List Record) :
    (grid table records).toList =
      ((gridLines table records).map String.toList).flatMap (· ++ ['\n']) := by
  have hend : "\n".toList = ['\n'] := rfl
  simp only [grid, layout, gridLines, cellLine, cellText, dashLine, dashText, String.toList_append,
    String.toList_join, List.map_cons, List.flatMap_cons, List.map_map, List.flatMap_map, hend,
    List.append_assoc, Function.comp_apply]

theorem length_le_columnWidth {names : List String} {name : String} (h : name ∈ names) :
    name.length ≤ columnWidth names := by
  have hmax := List.le_max_of_mem (List.mem_map_of_mem (f := String.length) h)
  rw [columnWidth, List.foldl_max, List.max?_eq_some_max (List.ne_nil_of_mem (List.mem_map_of_mem h))]
  exact hmax.trans (Nat.le_max_right _ _)

theorem lineFeed_mem_cellText {width : Nat} {cells : List String} :
    '\n' ∈ (cellText width cells).toList ↔ ∃ s ∈ cells, '\n' ∈ s.toList.take width := by
  have hfront : '\n' ∉ "| ".toList := by decide
  have hbehind : '\n' ∉ " | ".toList := by decide
  have hspaces (count : Nat) : '\n' ∉ List.replicate count ' ' := fun h ↦
    absurd (List.eq_of_mem_replicate h) (by decide)
  simp only [cellText, cell, String.toList_append, String.toList_join, String.toList_ofList,
    List.mem_append, List.mem_flatMap, List.mem_map, exists_exists_and_eq_and, hfront, hbehind,
    hspaces, false_or, or_false]

theorem lineFeed_not_mem_dashText (width columns : Nat) :
    '\n' ∉ (dashText width columns).toList := by
  simp [dashText, String.toList_join]

theorem lineFeed_mem_shown {record : Record} {field : Field} {width : Nat} :
    '\n' ∈ (shown record field).toList.take width ↔
      ∃ value, record.value? field.key = some value ∧ '\n' ∈ value.display.toList.take width := by
  rw [shown]
  cases record.value? field.key <;> simp

/-- No line holds a line feed exactly if no cell shows one. -/
theorem lineFeed_not_mem_gridLines :
    (∀ line ∈ (gridLines table records).map String.toList, '\n' ∉ line) ↔
      ¬ShowsLineFeed table records := by
  simp only [gridLines, List.map_cons, List.forall_mem_cons, List.forall_mem_map,
    lineFeed_not_mem_dashText, not_false_eq_true, true_and]
  constructor
  · rintro ⟨hnames, hrecords⟩ (⟨hfield, h⟩ | ⟨hrecord, hfield, hvalue, h⟩)
    · refine hnames (lineFeed_mem_cellText.2 ⟨_, List.mem_map_of_mem hfield, ?_⟩)
      rwa [List.take_of_length_le (length_le_columnWidth (List.mem_map_of_mem hfield))]
    · exact hrecords _ hrecord (lineFeed_mem_cellText.2
        ⟨_, List.mem_map_of_mem hfield, lineFeed_mem_shown.2 ⟨_, hvalue, h⟩⟩)
  · intro h
    refine ⟨fun hmem ↦ ?_, fun record hrecord hmem ↦ ?_⟩
    all_goals
      obtain ⟨_, hcell, hshown⟩ := lineFeed_mem_cellText.1 hmem
      obtain ⟨field, hfield, rfl⟩ := List.mem_map.1 hcell
    · exact h (.name hfield (List.mem_of_mem_take hshown))
    · obtain ⟨value, hvalue, hshown⟩ := lineFeed_mem_shown.1 hshown
      exact h (.value hrecord hfield hvalue hshown)

/-- A grid is split into its lines exactly if no cell shows a line feed. -/
theorem splitOn_grid_eq_lines_iff :
    (grid table records).toList.splitOn '\n' =
        (gridLines table records).map String.toList ++ [[]] ↔
      ¬ShowsLineFeed table records := by
  rw [toList_grid, splitOn_ended, List.append_left_inj, flatMap_splitOn_eq_iff,
    lineFeed_not_mem_gridLines]

/-- **A grid is split where its cells are broken.** Splitting a grid at its line feeds gives, line by
line, what splitting its lines gives, and nothing behind the last line feed. So it gives the line of
the names, the line of dashes and a line for each record as long as no cell shows a line feed, and
only then. -/
theorem splitOn_grid (table : Table) (records : List Record) :
    (grid table records).toList.splitOn '\n' =
        (gridLines table records).flatMap (·.toList.splitOn '\n') ++ [[]] ∧
      ((grid table records).toList.splitOn '\n' =
          (gridLines table records).map String.toList ++ [[]] ↔
        ¬ShowsLineFeed table records) := by
  refine ⟨?_, splitOn_grid_eq_lines_iff⟩
  rw [toList_grid, splitOn_ended, List.flatMap_map]

/-- A table with one note, which has two lines. -/
def notes : Table :=
  afterCalls (.empty "Note") [.addField ⟨"Body", .text, false, false⟩,
    .insert [("body", .text "one\ntwo")]]

/-- A text with two lines breaks the line of its record. -/
theorem not_forall_splitOn_grid :
    ¬∀ table records, Reachable table → records ⊆ table.records →
      (grid table records).toList.splitOn '\n' =
        (gridLines table records).map String.toList ++ [[]] := by
  intro h
  have hsplit := h notes notes.records ⟨_, _, rfl⟩ (List.Subset.refl _)
  have hshows : ShowsLineFeed notes notes.records :=
    @ShowsLineFeed.value notes notes.records ⟨0, [("body", .text "one\ntwo")]⟩
      ⟨"Body", .text, false, false⟩ (.text "one\ntwo") (by decide +kernel) (by decide +kernel) rfl
      (by decide +kernel)
  exact splitOn_grid_eq_lines_iff.1 hsplit hshows

/-- **Without texts, a grid is its lines.** The records of a table that calls lead to, of which no
field takes texts and no name holds a line feed, are split into one line each. -/
theorem splitOn_grid_of_kinds (h : table.Reachable) (hrecords : records ⊆ table.records)
    (hnames : ∀ field ∈ table.schema.fields, '\n' ∉ field.name.toList)
    (hkinds : ∀ field ∈ table.schema.fields, field.kind ≠ .text ∧ field.kind ≠ .texts) :
    (grid table records).toList.splitOn '\n' =
      (gridLines table records).map String.toList ++ [[]] := by
  refine splitOn_grid_eq_lines_iff.2 ?_
  rintro (⟨hfield, hshown⟩ | ⟨hrecord, hfield, hvalue, hshown⟩)
  · exact hnames _ hfield hshown
  · have hkind := (h.sound.fits _ (hrecords hrecord)).kind _ hfield _ hvalue
    obtain ⟨htext, htexts⟩ := hkinds _ hfield
    rw [← hkind] at htext htexts
    have hblank := Value.unbroken_display htext htexts _ (List.mem_of_mem_take hshown)
    exact absurd hblank (by decide)

end Table

end RecordStore
