import RecordStore.Proofs.Command.Selection
import RecordStore.Proofs.Store.Soundness
import RecordStore.Proofs.Table.Mask

/-!
# Selecting records by a text

A command that compares a field with a text between quotes selects the records that hold the text,
and no others, whatever the text is (`selects_quoted`). Four readers pass the text on: the one that
looks for the end of the filter, the one that cuts the filter into tokens, the one that reads the
tokens, and the one that makes a value of the literal. That they agree on where the text begins and
ends is `Statement.ofText_search`; what the comparison then says of each record rests on the table
being sound, since only then the record is sure to hold a value of the field's kind.
-/

namespace RecordStore

open RecordStore.Text
open RecordStore.Filter (comparisonText)
open Statement (CanNameType selectionText)
open Token (CanName)

namespace Record

/-- The record holds the text under the key. -/
def HasText (key text : String) (record : Record) : Prop := record.value? key = some (.text text)

instance (key text : String) : DecidablePred (HasText key text) :=
  fun record ↦ inferInstanceAs (Decidable (record.value? key = some (.text text)))

/-- The record holds a list under the key, and the text is one of its items. -/
def HasItem (key text : String) (record : Record) : Prop :=
  ∃ items, record.value? key = some (.texts items) ∧ text ∈ items

instance (key text : String) : DecidablePred (HasItem key text) := fun record ↦
  match h : record.value? key with
  | some (.texts items) =>
    decidable_of_iff (text ∈ items) ⟨fun hmem ↦ ⟨items, h, hmem⟩, fun ⟨others, hothers, hmem⟩ ↦ by
      rw [h, Option.some.injEq, Value.texts.injEq] at hothers
      exact hothers ▸ hmem⟩
  | some (.text _) | some (.int _) | some (.double _) | some (.bool _) | some (.time _) | none =>
    isFalse fun ⟨items, hitems, _⟩ ↦ by rw [h] at hitems; cases hitems

end Record

namespace Table

/-! ### Conditions with a meaning -/

variable {table : Table} {field : Field}

/-- A comparison with a text has a meaning for every record of a sound table. -/
theorem condition_equal (h : Sound table) (hfield : field ∈ table.schema.fields)
    (hkind : field.kind = .text) (text : String) {record : Record} (hrecord : record ∈ table.records) :
    Condition.ofFilter (some (.comparison (.name field.name) .equal (.quoted text))) table.schema
      record = .ok (decide (record.HasText field.key text)) := by
  have hfound : table.schema.field? field.name = some field :=
    (Schema.field?_eq_some_iff h.nodup).2 ⟨hfield, rfl⟩
  obtain ⟨value, hvalue, hvaluekind⟩ := (h.fits record hrecord).exists_value hfield
  rw [hkind] at hvaluekind
  cases value <;> cases hvaluekind
  case text held =>
    rw [Condition.ofFilter, Filter.evaluate_equal hfound hkind hvalue]
    simp [Record.HasText, hvalue, Except.mapError]

/-- A comparison with an item has a meaning for every record of a sound table. -/
theorem condition_includes (h : Sound table) (hfield : field ∈ table.schema.fields)
    (hkind : field.kind = .texts) (text : String) {record : Record}
    (hrecord : record ∈ table.records) :
    Condition.ofFilter (some (.comparison (.name field.name) .includes (.quoted text))) table.schema
      record = .ok (decide (record.HasItem field.key text)) := by
  have hfound : table.schema.field? field.name = some field :=
    (Schema.field?_eq_some_iff h.nodup).2 ⟨hfield, rfl⟩
  obtain ⟨value, hvalue, hvaluekind⟩ := (h.fits record hrecord).exists_value hfield
  rw [hkind] at hvaluekind
  cases value <;> cases hvaluekind
  case texts items =>
    rw [Condition.ofFilter, Filter.evaluate_includes hfound hkind hvalue]
    simp [Record.HasItem, hvalue, Except.mapError]

end Table

namespace Store

variable {store : Store} {table : Table} {line type : String} {filter : Option Filter}
  {met : Record → Bool}

/-! ### Searching and deleting -/

/-- The command's type and filter make sense, and the filter has a meaning for every record. -/
structure Selects (store : Store) (type : String) (filter : Option Filter) (table : Table)
    (met : Record → Bool) : Prop where
  /-- There is such a type. -/
  found : store.table? type = some table
  /-- The filter names fields that the type has. -/
  admitted : table.schema.admitFilter filter = .ok ()
  /-- The filter says of every record whether it is selected. -/
  meets : ∀ record ∈ table.records,
    Condition.ofFilter filter table.schema record = .ok (met record)

theorem Selects.matching (h : Selects store type filter table met) :
    table.matching (.ofFilter filter) = .ok (table.records.map met) :=
  Table.matchRecords_eq_map h.meets

theorem select_of_selects (h : Selects store type filter table met) :
    store.select type filter = .ok (table, table.records.filter met) := by
  have htable : store.table type = .ok table := by rw [Store.table, h.found]
  have hfind : table.find (.ofFilter filter) = .ok (table.records.filter met) := by
    rw [Table.find, h.matching, ← Table.picked_map]
    rfl
  rw [select, htable]
  show (table.schema.admitFilter filter >>= _) = _
  rw [h.admitted]
  show (table.find (.ofFilter filter) >>= _) = _
  rw [hfind]
  rfl

/-- A search returns the selected records. -/
theorem query_of_selects (h : Selects store type filter table met)
    (hread : Statement.ofText line = .ok (.search type filter)) :
    query store line = .ok ⟨table.schema.fields.map (·.name),
      (table.records.filter met).map (rowOf table.schema)⟩ := by
  rw [query, hread]
  show (store.select type filter >>= _) = _
  rw [select_of_selects h]
  rfl

/-- A line that is read is executed as the statement it makes. -/
theorem run_execute {statement : Statement} (hread : Statement.ofText line = .ok statement) :
    (execute line).run store = (apply statement).run store := by
  rw [execute, EStateM.run_bind, Action.run_liftExcept, hread]

theorem step_eq_perform {statement : Statement} (hread : Statement.ofText line = .ok statement)
    (store : Store) : step store line = (apply statement).perform store := by
  rw [step, Action.perform, run_execute hread, Action.perform]

/-- A deletion removes the selected records, and does nothing else. -/
theorem step_of_selects (h : Selects store type filter table met)
    (hread : Statement.ofText line = .ok (.delete type filter)) :
    step store line = (store.set type (table.drop (table.records.map met)),
      .ok (toString (table.records.filter met).length ++ " instances deleted.")) := by
  rw [step, Action.perform, run_execute hread, apply, run_within, h.found]
  simp only [EStateM.run_bind, EStateM.run_get, Action.run_liftExcept, h.admitted,
    Table.run_deleteWhere, h.matching, Table.picked_map]
  rfl

/-! ### Quoted texts -/

theorem admitFilter_comparison {schema : Schema} {name : String} {field : Field}
    (h : schema.field? name = some field) (op : Operator) (right : Operand) :
    schema.admitFilter (some (.comparison (.name name) op right)) = .ok () := by
  rw [Schema.admitFilter, Filter.check_comparison h]
  rfl

/-- A comparison of a field of the table makes sense, and it selects the records it says. -/
theorem selects_comparison (hstore : Sound store) {key : String}
    (htable : (key, table) ∈ store.tables) {field : Field} (hfield : field ∈ table.schema.fields)
    {op : Operator} {right : Operand}
    (hmeets : ∀ record ∈ table.records,
      Condition.ofFilter (some (.comparison (.name field.name) op right)) table.schema record =
        .ok (met record)) :
    Selects store table.name (some (.comparison (.name field.name) op right)) table met where
  found := by
    rw [hstore.table?_eq_some_iff, ← hstore.named key table htable]
    exact htable
  admitted := by
    have hnodup := (hstore.sound key table htable).nodup
    exact admitFilter_comparison ((Schema.field?_eq_some_iff hnodup).2 ⟨hfield, rfl⟩) op right
  meets := hmeets

/-- **A quoted text selects what holds it.** In any store that calls lead to, the search for a text
in a field of texts returns the records that hold the text there, the deletion removes them and
nothing else, and the search for an item in a field of lists returns the records whose list has the
item. -/
theorem selects_quoted (calls : List Call) {key : String} {table : Table}
    (htable : (key, table) ∈ (after calls).tables) (hname : CanNameType table.name) {field : Field}
    (hfield : field ∈ table.schema.fields) (hcan : CanName field.name) (text : String) :
    (field.kind = .text →
      query (after calls)
          (selectionText .search table.name (comparisonText field.name .equal text)) =
        .ok ⟨table.schema.fields.map (·.name),
          (table.records.filter fun record ↦ record.HasText field.key text).map
            (rowOf table.schema)⟩ ∧
      ∃ left,
        step (after calls)
            (selectionText .delete table.name (comparisonText field.name .equal text)) =
          (left, .ok (toString (table.records.filter
            fun record ↦ record.HasText field.key text).length ++ " instances deleted.")) ∧
        (∃ remaining, left.table? table.name = some remaining ∧
          remaining.records = table.records.filter (fun record ↦ ¬ record.HasText field.key text) ∧
          remaining.name = table.name ∧ remaining.schema = table.schema ∧
          remaining.nextId = table.nextId) ∧
        ∀ other, canonical other ≠ canonical table.name →
          left.table? other = (after calls).table? other) ∧
    (field.kind = .texts →
      query (after calls)
          (selectionText .search table.name (comparisonText field.name .includes text)) =
        .ok ⟨table.schema.fields.map (·.name),
          (table.records.filter fun record ↦ record.HasItem field.key text).map
            (rowOf table.schema)⟩) := by
  have hstore := sound_after calls
  have hsound := hstore.sound key table htable
  refine ⟨fun hkind ↦ ?_, fun hkind ↦ ?_⟩
  · have hread := Filter.ofText_comparison hcan (.inl rfl) text
    have henclosed := Statement.enclosed_comparison hcan .equal text
    have hselects := selects_comparison hstore htable hfield fun record hrecord ↦
      Table.condition_equal hsound hfield hkind text hrecord
    have hstep := step_of_selects hselects (Statement.ofText_delete hname henclosed hread)
    refine ⟨query_of_selects hselects (Statement.ofText_search hname henclosed hread), _, hstep,
      ⟨_, table?_set_self (after calls) rfl _, ?_, rfl, rfl, rfl⟩, ?_⟩
    · show Table.spared table.records _ = _
      rw [Table.spared_map]
      simp
    · exact fun other hother ↦ table?_set_of_ne (after calls) hother _
  · have hread := Filter.ofText_comparison hcan (.inr rfl) text
    have henclosed := Statement.enclosed_comparison hcan .includes text
    have hselects := selects_comparison hstore htable hfield fun record hrecord ↦
      Table.condition_includes hsound hfield hkind text hrecord
    exact query_of_selects hselects (Statement.ofText_search hname henclosed hread)

/-- A text that would end the quotation, the comparison and the filter, if it could. -/
def hostile : String := "\\\") or (title != \"\n"

/-- Two notes, of which one has the hostile title. -/
def notes : List Call :=
  [.createType "Note" [⟨"title", .text, false, false⟩, ⟨"tags", .texts, false, false⟩],
   .change "note" (.insert [("title", .text "plain"), ("tags", .texts [hostile])]),
   .change "note" (.insert [("title", .text hostile), ("tags", .texts ["plain"])])]

/-- The table of the notes. -/
def noteTable : Table := ((after notes).table? "Note").getD (.empty "Note")

theorem selects_hostile :
    query (after notes) (selectionText .search noteTable.name
        (comparisonText "title" .equal hostile)) =
      .ok ⟨["title", "tags"], [[.text hostile, .texts ["plain"]]]⟩ := by
  have htable : ("note", noteTable) ∈ (after notes).tables := by decide +kernel
  have hall : noteTable.name.toList.all (!Statement.endsName ·) = true := by decide +kernel
  have hname : CanNameType noteTable.name :=
    ⟨by decide +kernel, fun c hc ↦ by simpa using List.all_eq_true.1 hall c hc⟩
  have hfield : (⟨"title", .text, false, false⟩ : Field) ∈ noteTable.schema.fields := by
    decide +kernel
  have hcan : CanName "title" := ⟨by decide +kernel, by decide +kernel⟩
  obtain ⟨hquery, -⟩ := (selects_quoted notes htable hname hfield hcan hostile).1 rfl
  rw [hquery]
  decide +kernel

end Store

end RecordStore
