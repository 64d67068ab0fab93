import Mathlib.Data.List.Forall2
import RecordStore.Proofs.Store.Reachable
import RecordStore.Proofs.Store.SameRecords

/-!
# Searches that are shown and searches that return rows

A search can be executed, and then it gives a text, or asked for its rows. The two look values up in
different ways: the text goes by the canonical name of a field and has nothing to show where a record
holds nothing, while the rows go by the name as it was declared and fall back on the default of the
field's kind. Neither case arises, since the records of a sound table fit its schema. So the text is
made of the rows and of nothing else (`shows_query`), and a row holds what its record holds
(`Record.Keeps`).
-/

namespace RecordStore

open RecordStore.Text
open Record (Fits)
open RecordStore.Filter (comparisonText)
open Statement (CanNameType selectionText)
open Token (CanName)

/-- The record keeps the value in the field, where it has the field's kind. -/
def Record.Keeps (record : Record) (field : Field) (value : Value) : Prop :=
  record.value? field.key = some value ∧ value.kind = field.kind

/-- The text that shows rows: how many there are, and the grid of what their values show, without
the blanks at its end. -/
def Rows.text (rows : Rows) : String :=
  if rows.rows = [] then "No results found."
  else
    "Search results (" ++ toString rows.rows.length ++ "):\n" ++
      trimEnd (Table.layout rows.columns (rows.rows.map (List.map Value.display)))

namespace Store

variable {store : Store} {table : Table} {record : Record} {field : Field} {value : Value}
  {line type : String} {filter : Option Filter}

/-! ### Rows of records that fit -/

/-- The row of a record that fits has a value for each field, and it is the record's own. -/
theorem keeps_rowOf {schema : Schema} (h : Fits schema record) :
    List.Forall₂ record.Keeps schema.fields (rowOf schema record) := by
  rw [rowOf, List.forall₂_map_right_iff, List.forall₂_same]
  intro field hfield
  obtain ⟨value, hvalue, hkind⟩ := h.exists_value hfield
  -- the name as it was declared leads to the key, so the default is not asked for
  have hget : record.get? field.name = some value := hvalue
  rw [hget]
  exact ⟨hvalue, hkind⟩

theorem shown_of_keeps (h : record.Keeps field value) : Table.shown record field = value.display := by
  rw [Table.shown, h.1]

/-- What is shown of a record that fits is what is shown of its row. -/
theorem map_shown {schema : Schema} (h : Fits schema record) :
    schema.fields.map (Table.shown record) = (rowOf schema record).map Value.display := by
  rw [← List.forall₂_eq_eq_eq, List.forall₂_map_left_iff, List.forall₂_map_right_iff]
  exact (keeps_rowOf h).imp fun _ _ ↦ shown_of_keeps

theorem resultText_eq_text {found : List Record} (h : ∀ record ∈ found, Fits table.schema record) :
    resultText table found =
      Rows.text ⟨table.schema.fields.map (·.name), found.map (rowOf table.schema)⟩ := by
  have hshown : found.map (fun record ↦ table.schema.fields.map (Table.shown record)) =
      (found.map (rowOf table.schema)).map (List.map Value.display) := by
    rw [List.map_map]
    exact List.map_congr_left fun record hrecord ↦ map_shown (h record hrecord)
  rw [resultText, Rows.text, Table.grid, hshown, List.length_map]
  simp only [List.isEmpty_iff, List.map_eq_nil_iff]

/-! ### Both ways to search -/

theorem Selects.fits (hstore : Sound store) {met : Record → Bool}
    (h : Selects store type filter table met) : ∀ record ∈ table.records, Fits table.schema record :=
  (hstore.sound _ table (hstore.table?_eq_some_iff.1 h.found)).fits

/-- An executed search shows the rows that it would return. -/
theorem step_eq_text (hstore : Sound store)
    (hread : Statement.ofText line = .ok (.search type filter)) :
    step store line = (store, (query store line).map Rows.text) := by
  rw [step_search hread, query_eq hread]
  cases hselect : store.select type filter with
  | error fault => rfl
  | ok found =>
    obtain ⟨met, hselects⟩ := exists_selects hselect
    have hfound := Except.ok.inj (hselect.symm.trans (select_of_selects hselects))
    have hfits : ∀ record ∈ found.2, Fits found.1.schema record := fun record hrecord ↦ by
      rw [hfound] at hrecord
      exact hselects.fits hstore record (List.mem_filter.1 hrecord).1
    show (store, Except.ok (resultText found.1 found.2)) = _
    rw [resultText_eq_text hfits]
    rfl

/-- **A search is shown as the rows that it returns.** In any store that calls lead to, a line that is
read as a search leaves the store as it is, and is refused when it is executed just as it is when it
is asked for rows. If it is not, the text that it gives shows the rows that it returns, and nothing
else. There is one row for each record that is selected, and it has one value for each field: the one
that the record keeps there, and never a default in place of it. A line that cannot be read is
refused alike in both ways. -/
theorem shows_query (calls : List Call) (line : String) :
    (∀ type filter, Statement.ofText line = .ok (.search type filter) →
      step (after calls) line = (after calls, (query (after calls) line).map Rows.text) ∧
      ∀ rows, query (after calls) line = .ok rows →
        ∃ table met, Selects (after calls) type filter table met ∧
          rows.columns = table.schema.fields.map (·.name) ∧
          List.Forall₂ (fun record row ↦ List.Forall₂ record.Keeps table.schema.fields row)
            (table.records.filter met) rows.rows) ∧
    ∀ fault, Statement.ofText line = .error fault →
      step (after calls) line = (after calls, .error fault) ∧
        query (after calls) line = .error fault := by
  refine ⟨fun type filter hread ↦ ⟨step_eq_text (sound_after calls) hread, fun rows hrows ↦ ?_⟩,
    fun fault hread ↦ ⟨step_of_unreadable hread, query_of_unreadable hread⟩⟩
  obtain ⟨table, met, hselects⟩ := exists_selects_of_query hread hrows
  rw [query_of_selects hselects hread] at hrows
  cases hrows
  refine ⟨table, met, hselects, rfl, ?_⟩
  rw [List.forall₂_map_right_iff, List.forall₂_same]
  intro record hrecord
  exact keeps_rowOf (hselects.fits (sound_after calls) record (List.mem_filter.1 hrecord).1)

/-- The second of the two users, in other spellings of the type and the field. -/
def searchBob : String := selectionText .search "USER" (comparisonText "Name" .equal "Bob")

theorem shows_bob :
    query (after twoUsers) searchBob =
        .ok ⟨["name", "email"], [[.text "Bob", .text "bob@host"]]⟩ ∧
      step (after twoUsers) searchBob = (after twoUsers, .ok ("Search results (1):\n" ++
        "| name       | email      | \n" ++ "|------------|------------|\n" ++
        "| Bob        | bob@host   |")) := by
  have hrows : query (after twoUsers) searchBob =
      .ok ⟨["name", "email"], [[.text "Bob", .text "bob@host"]]⟩ := by decide +kernel
  have hname : CanNameType "USER" := by decide +kernel
  have hcan : CanName "Name" := ⟨by decide +kernel, by decide +kernel⟩
  have hread := Statement.ofText_search hname (Statement.enclosed_comparison hcan .equal "Bob")
    (Filter.ofText_comparison hcan (.inl rfl) "Bob")
  have htext : Rows.text ⟨["name", "email"], [[.text "Bob", .text "bob@host"]]⟩ =
      "Search results (1):\n" ++
        "| name       | email      | \n" ++ "|------------|------------|\n" ++
        "| Bob        | bob@host   |" := by decide +kernel
  obtain ⟨hstep, -⟩ := (shows_query twoUsers searchBob).1 _ _ hread
  refine ⟨hrows, ?_⟩
  rw [hstep, hrows, Except.map, htext]

end Store

end RecordStore
