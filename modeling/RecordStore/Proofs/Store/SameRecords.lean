import RecordStore.Proofs.Command.Extent
import RecordStore.Proofs.Store.Selection

/-!
# One selection for all commands

A search, a deletion and an update with one text select the same records (`same_records`). All three
read the text alike, as the filter that is said in parentheses, and all three ask the table for the
mask of the records that meet it. They use the mask in different ways: a search takes the records that
it picks, a deletion keeps those that it spares, and an update goes through both together and writes.
Said of the records instead of the mask, this is one condition that is decided before anything is
changed (`Selects`), and what is left of the records is a filter or a map of them (`Leaves`).
-/

namespace RecordStore

open RecordStore.Text
open Statement (CanNameType selectingLine updateLine braced readWhole)

/-- What an update with a payload writes, whatever records it writes into. -/
def Schema.writesOf (schema : Schema) (values : List (String × Payload)) :
    Except Fault (List (String × Value)) := do
  let assignments ← schema.coerce values
  let changes ← Table.changes schema [] assignments
  return changes.map Table.toWrite

namespace Store

variable {store left : Store} {table : Table} {line type message : String} {filter : Option Filter}
  {met : Record → Bool} {values : Entries String Payload} {records : List Record}

/-! ### What is left -/

/-- The store is left with these records of a type, and with everything else as it was. -/
structure Leaves (store : Store) (type : String) (table : Table) (records : List Record)
    (left : Store) : Prop where
  /-- The table has the records, and the name, the fields and the next number that it had. -/
  found : ∃ indexes, left.table? type =
    some { table with records := records, indexes := indexes }
  /-- The tables of other types are what they were. -/
  others : ∀ other, canonical other ≠ canonical type → left.table? other = store.table? other

theorem leaves_set (store : Store) (type : String) (table : Table) (records : List Record)
    (indexes : Indexes) :
    Leaves store type table records
      (store.set type { table with records := records, indexes := indexes }) where
  found := ⟨indexes, table?_set_self store rfl _⟩
  others _ hother := table?_set_of_ne store hother _

/-! ### Selecting -/

theorem table?_of_table (h : store.table type = .ok table) : store.table? type = some table := by
  unfold Store.table at h
  split at h
  · next hfound => rw [hfound, Except.ok.inj h]
  · cases h

/-- What was decided for all records is a selection of them. -/
theorem exists_selects_of_matching (hfound : store.table? type = some table)
    (hadmitted : table.schema.admitFilter filter = .ok ()) {mask : List Bool}
    (h : table.matching (.ofFilter filter) = .ok mask) :
    ∃ met, Selects store type filter table met := by
  exact ⟨_, hfound, hadmitted, Table.meets_of_matchRecords h⟩

/-- A type and a filter that make sense select some of the records. -/
theorem exists_selects {found : Table × List Record} (h : store.select type filter = .ok found) :
    ∃ met, Selects store type filter found.1 met := by
  obtain ⟨table, htable, h⟩ := bind_eq_ok.1 h
  obtain ⟨_, hadmitted, h⟩ := bind_eq_ok.1 h
  obtain ⟨selected, hselected, h⟩ := bind_eq_ok.1 h
  cases h
  cases hmatching : table.matching (.ofFilter filter) with
  | error fault =>
    rw [Table.find, hmatching] at hselected
    cases hselected
  | ok mask => exact exists_selects_of_matching (table?_of_table htable) hadmitted hmatching

theorem query_eq (hread : Statement.ofText line = .ok (.search type filter)) :
    query store line = (store.select type filter).map fun found ↦
      ⟨found.1.schema.fields.map (·.name), found.2.map (rowOf found.1.schema)⟩ := by
  rw [query, hread]
  show (store.select type filter >>= _) = _
  cases store.select type filter <;> rfl

theorem perform_search (type : String) (filter : Option Filter) (store : Store) :
    (apply (.search type filter)).perform store =
      (store, (store.select type filter).map fun found ↦ resultText found.1 found.2) := by
  rw [apply, Action.perform, EStateM.run_bind, EStateM.run_get]
  dsimp only
  rw [EStateM.run_bind, Action.run_liftExcept]
  cases store.select type filter <;> rfl

/-- A search in a text shows what is selected. -/
theorem step_search (hread : Statement.ofText line = .ok (.search type filter)) :
    step store line =
      (store, (store.select type filter).map fun found ↦ resultText found.1 found.2) := by
  rw [step_eq_perform hread, perform_search]

/-- A deletion is refused like a search, and it counts what a search finds. -/
theorem result_delete (hread : Statement.ofText line = .ok (.delete type filter)) :
    (step store line).2 = (store.select type filter).map fun found ↦
      toString found.2.length ++ " instances deleted." := by
  rw [step, Action.perform, run_execute hread, apply, run_within, select, Store.table]
  cases store.table? type with
  | none => rfl
  | some table =>
    simp only [EStateM.run_bind, EStateM.run_get, Action.run_liftExcept]
    show _ = Except.map _ (table.schema.admitFilter filter >>= _)
    cases table.schema.admitFilter filter with
    | error fault => rfl
    | ok =>
      show _ = Except.map _ (table.find (.ofFilter filter) >>= _)
      simp only [Table.run_deleteWhere, Table.find]
      cases table.matching (.ofFilter filter) <;> rfl

/-! ### Updates -/

/-- What an update does that is not refused. -/
theorem exists_mask_of_update (hread : Statement.ofText line = .ok (.update type filter values))
    (h : step store line = (left, .ok message)) :
    ∃ table mask writes, store.table? type = some table ∧
      table.schema.admitFilter filter = .ok () ∧ table.matching (.ofFilter filter) = .ok mask ∧
      table.schema.writesOf values = .ok writes ∧
      message = toString (Table.picked table.records mask).length ++ " instances updated." ∧
      ∃ indexes, left = store.set type { table with
        records := Table.written writes table.records mask, indexes := indexes } := by
  rw [step, Action.perform, run_execute hread, apply, run_within] at h
  cases hfound : store.table? type with
  | none =>
    rw [hfound] at h
    cases h
  | some table =>
    simp only [hfound, EStateM.run_bind, EStateM.run_get, Action.run_liftExcept] at h
    cases hcoerced : table.schema.coerce values with
    | error fault =>
      rw [hcoerced] at h
      cases h
    | ok assignments =>
      cases hadmitted : table.schema.admitFilter filter with
      | error fault =>
        simp only [hcoerced, hadmitted] at h
        cases h
      | ok =>
        cases hrun : (Table.updateWhere (.ofFilter filter) assignments).run table with
        | error fault after =>
          simp only [hcoerced, hadmitted, hrun] at h
          cases h
        | ok count after =>
          simp only [hcoerced, hadmitted, hrun] at h
          cases h
          obtain ⟨mask, changes, hmatching, hchanges, rfl, indexes, rfl⟩ :=
            Table.exists_mask_of_updateWhere hrun
          have hwrites : table.schema.writesOf values = .ok (changes.map Table.toWrite) :=
            bind_eq_ok.2 ⟨assignments, hcoerced, bind_eq_ok.2 ⟨changes, hchanges, rfl⟩⟩
          exact ⟨table, mask, _, rfl, hadmitted, hmatching, hwrites, rfl, indexes, rfl⟩

/-- An update that is not refused has a type and a filter that make sense. -/
theorem exists_selects_of_update (hread : Statement.ofText line = .ok (.update type filter values))
    (h : step store line = (left, .ok message)) :
    ∃ table met, Selects store type filter table met := by
  obtain ⟨table, mask, _, hfound, hadmitted, hmatching, -⟩ := exists_mask_of_update hread h
  exact ⟨table, exists_selects_of_matching hfound hadmitted hmatching⟩

/-- An update writes into the selected records. -/
theorem leaves_of_update (hselects : Selects store type filter table met)
    (hread : Statement.ofText line = .ok (.update type filter values))
    (h : step store line = (left, .ok message)) :
    message = toString (table.records.filter met).length ++ " instances updated." ∧
      ∃ writes, Leaves store type table
        (table.records.map fun record ↦ if met record then record.write writes else record) left := by
  obtain ⟨found, mask, writes, hfound, -, hmatching, -, hmessage, indexes, rfl⟩ :=
    exists_mask_of_update hread h
  cases hselects.found.symm.trans hfound
  cases hselects.matching.symm.trans hmatching
  rw [Table.picked_map] at hmessage
  rw [Table.written_map]
  exact ⟨hmessage, writes, leaves_set _ _ _ _ _⟩

/-- What a query returns has been selected. -/
theorem exists_selects_of_query {rows : Rows}
    (hread : Statement.ofText line = .ok (.search type filter)) (h : query store line = .ok rows) :
    ∃ table met, Selects store type filter table met := by
  rw [query_eq hread] at h
  cases hselect : store.select type filter with
  | error fault =>
    rw [hselect] at h
    cases h
  | ok found => exact ⟨found.1, exists_selects hselect⟩

/-! ### Lines that are not read, and commands that are refused -/

theorem step_of_unreadable {fault : Fault} (hread : Statement.ofText line = .error fault) :
    step store line = (store, .error fault) := by
  rw [step, Action.perform, execute, EStateM.run_bind, Action.run_liftExcept, hread]

theorem query_of_unreadable {fault : Fault} (hread : Statement.ofText line = .error fault) :
    query store line = .error fault := by
  rw [query, hread]
  rfl

/-- An update that is not refused, with a text that is read, takes the filter of the text. -/
theorem exists_ofText_updateLine {text : Option String} {verb : Verb} {payload : String}
    (hname : CanNameType type) (hwhole : readWhole verb text = .ok filter)
    (h : step store (updateLine type text payload) = (left, .ok message)) :
    ∃ values, Statement.ofText (updateLine type text payload) = .ok (.update type filter values) := by
  have hread := Statement.ofText_updateLine hname hwhole payload
  cases hpayload : Statement.readPayload .update (braced payload) with
  | error fault =>
    rw [hpayload] at hread
    rw [step_of_unreadable hread] at h
    cases h
  | ok values =>
    rw [hpayload] at hread
    exact ⟨values, hread⟩

/-! ### The same records -/

/-- A query that returns rows has a text that is read. -/
theorem exists_readWhole_of_query {text : Option String} {rows : Rows} (hname : CanNameType type)
    (h : query store (selectingLine .search type text) = .ok rows) :
    ∃ filter, ∀ verb, readWhole verb text = .ok filter := by
  obtain hread | ⟨fault, _, hfault, -⟩ := Statement.readWhole_ok_or_error text
  · exact hread
  · have hsearch := @Statement.ofText_searchLine type text hname
    rw [hfault] at hsearch
    cases (query_of_unreadable hsearch).symm.trans h

/-- An update that is not refused, with the text of a payload, has a text that is read. -/
theorem exists_readWhole_of_step {text : Option String} {payload : String} {p : Payload}
    (hname : CanNameType type) (hpayload : Payload.ofChars? (braced payload) = some p)
    (h : step store (updateLine type text payload) = (left, .ok message)) :
    ∃ filter, ∀ verb, readWhole verb text = .ok filter := by
  cases hupdate : Statement.ofText (updateLine type text payload) with
  | error fault =>
    rw [step_of_unreadable hupdate] at h
    cases h
  | ok statement => exact Statement.exists_readWhole_of_update hname hpayload hupdate

/-- Where a query is refused, the search and the deletion are refused too. -/
theorem refused_of_query (hstore : Sound store) {text : Option String} (hname : CanNameType type)
    {fault : Fault} (h : query store (selectingLine .search type text) = .error fault) :
    step store (selectingLine .search type text) = (store, .error fault) ∧
    ∃ refusal, step store (selectingLine .delete type text) = (store, .error refusal) ∧
      (fault.category = .filter → refusal = fault) := by
  have hsearch := @Statement.ofText_searchLine type text hname
  have hdelete := @Statement.ofText_deleteLine type text hname
  obtain ⟨filter, hwhole⟩ | ⟨cause, refusal, hcause, hrefusal, hcategory⟩ :=
    Statement.readWhole_ok_or_error text
  · rw [hwhole] at hsearch hdelete
    rw [query_eq hsearch] at h
    cases hselect : store.select type filter with
    | ok found =>
      rw [hselect] at h
      cases h
    | error cause =>
      rw [hselect] at h
      cases h
      have hrefused : (step store (selectingLine .delete type text)).2 = .error fault := by
        rw [result_delete hdelete, hselect]
        rfl
      refine ⟨?_, fault, step_of_refused hstore hrefused, fun _ ↦ rfl⟩
      rw [step_search hsearch, hselect]
      rfl
  · rw [hcause] at hsearch
    rw [hrefusal] at hdelete
    cases (query_of_unreadable hsearch).symm.trans h
    exact ⟨step_of_unreadable hsearch, refusal, step_of_unreadable hdelete,
      fun hfilter ↦ absurd hfilter hcategory⟩

/-- A deletion leaves the records that are not selected. -/
theorem leaves_of_delete (hselects : Selects store type filter table met)
    (hread : Statement.ofText line = .ok (.delete type filter)) :
    ∃ left, step store line =
        (left, .ok (toString (table.records.filter met).length ++ " instances deleted.")) ∧
      Leaves store type table (table.records.filter fun record ↦ !met record) left := by
  have hleaves : Leaves store type table (Table.spared table.records (table.records.map met))
      (store.set type (table.drop (table.records.map met))) := leaves_set _ _ _ _ _
  rw [Table.spared_map] at hleaves
  exact ⟨_, step_of_selects hselects hread, hleaves⟩

/-- **Searches, deletions and updates select the same records.** In any store that calls lead to, and
for any text in parentheses or none: a deletion is refused if the query is, and for the same reason if
the filter is at fault. Where the query returns rows, these are the rows of the records that the filter
selects; the search shows these records, the deletion counts them and leaves the others, and an
update that is not refused counts them and writes into them alone, each record staying in its place.
An update with a payload is refused if the query is. -/
theorem same_records (calls : List Call) {type : String} (hname : CanNameType type)
    (text : Option String) :
    (∀ fault, query (after calls) (selectingLine .search type text) = .error fault →
      step (after calls) (selectingLine .search type text) = (after calls, .error fault) ∧
      ∃ refusal,
        step (after calls) (selectingLine .delete type text) = (after calls, .error refusal) ∧
        (fault.category = .filter → refusal = fault)) ∧
    (∀ rows, query (after calls) (selectingLine .search type text) = .ok rows →
      ∃ filter table met,
        Statement.ofText (selectingLine .search type text) = .ok (.search type filter) ∧
        Selects (after calls) type filter table met ∧
        rows = ⟨table.schema.fields.map (·.name),
          (table.records.filter met).map (rowOf table.schema)⟩ ∧
        step (after calls) (selectingLine .search type text) =
          (after calls, .ok (resultText table (table.records.filter met))) ∧
        (∃ left,
          step (after calls) (selectingLine .delete type text) =
            (left, .ok (toString (table.records.filter met).length ++ " instances deleted.")) ∧
          Leaves (after calls) type table (table.records.filter fun record ↦ !met record) left) ∧
        ∀ payload left message,
          step (after calls) (updateLine type text payload) = (left, .ok message) →
          message = toString (table.records.filter met).length ++ " instances updated." ∧
          ∃ updated, Leaves (after calls) type table updated left ∧
            updated.map (·.id) = table.records.map (·.id) ∧
            ∃ writes, updated =
              table.records.map fun record ↦ if met record then record.write writes else record) ∧
    ∀ payload values left message,
      Payload.ofChars? (braced payload) = some (.object values) →
      step (after calls) (updateLine type text payload) = (left, .ok message) →
      ∃ rows, query (after calls) (selectingLine .search type text) = .ok rows := by
  refine ⟨fun fault ↦ refused_of_query (sound_after calls) hname, fun rows h ↦ ?_,
    fun payload values left message hpayload h ↦ ?_⟩
  · obtain ⟨filter, hwhole⟩ := exists_readWhole_of_query hname h
    have hsearch := @Statement.ofText_searchLine type text hname
    have hdelete := @Statement.ofText_deleteLine type text hname
    rw [hwhole] at hsearch hdelete
    obtain ⟨table, met, hselects⟩ := exists_selects_of_query hsearch h
    rw [query_of_selects hselects hsearch] at h
    refine ⟨filter, table, met, hsearch, hselects, (Except.ok.inj h).symm, ?_,
      leaves_of_delete hselects hdelete, fun payload left message hstep ↦ ?_⟩
    · rw [step_search hsearch, select_of_selects hselects]
      rfl
    · obtain ⟨values, hupdate⟩ := exists_ofText_updateLine hname (hwhole .search) hstep
      obtain ⟨hmessage, writes, hleaves⟩ := leaves_of_update hselects hupdate hstep
      refine ⟨hmessage, _, hleaves, ?_, writes, rfl⟩
      rw [← Table.written_map, Table.map_id_written]
  · obtain ⟨filter, hwhole⟩ := exists_readWhole_of_step hname hpayload h
    have hsearch := @Statement.ofText_searchLine type text hname
    rw [hwhole] at hsearch
    obtain ⟨_, hupdate⟩ := exists_ofText_updateLine hname (hwhole .search) h
    obtain ⟨table, met, hselects⟩ := exists_selects_of_update hupdate h
    exact ⟨_, query_of_selects hselects hsearch⟩

/-- A filter in which one of two titles is excluded, with parentheses in it. -/
def notHostile : String := "title != \"x)\" and (title = \"plain\" or title = \"(\")"

/-- The search finds one of the two notes, and so the deletion removes one. -/
theorem same_notHostile :
    query (after notes) (selectingLine .search "note" (some notHostile)) =
        .ok ⟨["title", "tags"], [[.text "plain", .texts [hostile]]]⟩ ∧
      ∃ left, step (after notes) (selectingLine .delete "note" (some notHostile)) =
        (left, .ok "1 instances deleted.") := by
  have hquery : query (after notes) (selectingLine .search "note" (some notHostile)) =
      .ok ⟨["title", "tags"], [[.text "plain", .texts [hostile]]]⟩ := by decide +kernel
  have hname : CanNameType "note" := by decide +kernel
  obtain ⟨-, hsame, -⟩ := same_records notes hname (some notHostile)
  obtain ⟨filter, table, met, -, -, hrows, -, ⟨left, hdelete, -⟩, -⟩ := hsame _ hquery
  have hone := congrArg (fun rows : Rows ↦ rows.rows.length) hrows
  rw [List.length_map] at hone
  refine ⟨hquery, left, ?_⟩
  rw [hdelete, ← hone]
  rfl

end Store

end RecordStore
