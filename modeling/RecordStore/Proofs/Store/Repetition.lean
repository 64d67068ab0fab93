import RecordStore.Proofs.Command.Written
import RecordStore.Proofs.Store.SameRecords

/-!
# Repeating a command

A command that inserts nothing may be given twice: the second time leaves the store as the first time
left it (`unchanged_of_repeated`). This is not because the second command does what the first one did.
A type that was created is refused the second time, and a deletion finds nothing any more. The second
update may be refused as well, since the records are no longer what they were: a comparison that was
passed over at first may have to be made now, and have no meaning.

If the second update is not refused, what it writes is what the first one wrote, which depends on the
type and the payload alone (`Schema.writesOf`). So it does not matter which records it selects: one that
the first update wrote into holds the values already, and another one meets the filter as little as
before (`written_written`). The indexes then follow from the records, as they do in any sound table.
-/

namespace RecordStore

open RecordStore.Text

namespace Table

/-- **Writing once more** into whatever records meet a condition now changes nothing. -/
theorem written_written {writes : List (String × Value)} (hnodup : (Entries.keys writes).Nodup)
    (met : Record → Bool) (records : List Record) :
    written writes (written writes records (records.map met))
        ((written writes records (records.map met)).map met) =
      written writes records (records.map met) := by
  rw [written_map, written_map, List.map_map]
  refine List.map_congr_left fun record _ ↦ ?_
  rw [Function.comp_apply]
  by_cases hmet : met record
  · rw [if_pos hmet, Record.write_write hnodup, ite_self]
  · rw [if_neg hmet, if_neg hmet]

/-- Where nothing is selected, nothing is dropped. -/
theorem drop_none (table : Table) : table.drop (table.records.map fun _ ↦ false) = table := by
  rw [drop, picked_map, spared_map]
  simp

end Table

/-- An update writes nothing twice under one key. -/
theorem Schema.nodup_writesOf {schema : Schema} {values : List (String × Payload)}
    {writes : List (String × Value)} (h : schema.writesOf values = .ok writes) :
    (Entries.keys writes).Nodup := by
  obtain ⟨assignments, -, h⟩ := bind_eq_ok.1 h
  obtain ⟨changes, hchanges, h⟩ := bind_eq_ok.1 h
  cases h
  have hnodup := (Table.assigns_of_changes Table.Assigns.nil hchanges).nodup
  rw [Entries.keys, List.map_map]
  exact hnodup

namespace Store

variable {store left again : Store} {line type message message' : String} {fields : List Field}
  {filter : Option Filter} {values : Entries String Payload}

theorem Sound.of_step (hstore : Sound store) {result : Except Fault String}
    (h : step store line = (left, result)) : Sound left := by
  have hleft := sound_step hstore line
  rwa [h] at hleft

/-- A type that exists is not created again. -/
theorem step_create_of_exists (hread : Statement.ofText line = .ok (.create type fields))
    (h : (store.table? type).isSome) :
    step store line = (store, .error (.typeExists type)) := by
  rw [step_eq_perform hread, apply, Action.perform_map, perform_createType, if_pos h]
  rfl

/-- A type that was created exists. -/
theorem isSome_table?_of_create (hread : Statement.ofText line = .ok (.create type fields))
    (h : step store line = (left, .ok message)) : (left.table? type).isSome := by
  rw [step_eq_perform hread, apply, Action.perform_map, perform_createType] at h
  split at h
  · cases h
  split at h
  · cases h
  split at h
  · cases h
  · cases h
    rw [table?_set_self store rfl]
    rfl

/-- A deletion that is not refused has a type and a filter that make sense. -/
theorem exists_selects_of_delete (hread : Statement.ofText line = .ok (.delete type filter))
    (h : step store line = (left, .ok message)) :
    ∃ table met, Selects store type filter table met := by
  have hresult : (step store line).2 = _ := result_delete hread
  cases hselect : store.select type filter with
  | error fault =>
    rw [h, hselect] at hresult
    cases hresult
  | ok found => exact ⟨found.1, exists_selects hselect⟩

/-- What a deletion has left does not meet its filter. -/
theorem Selects.after_drop {table : Table} {met : Record → Bool}
    (h : Selects store type filter table met) :
    Selects (store.set type (table.drop (table.records.map met))) type filter
      (table.drop (table.records.map met)) fun _ ↦ false where
  found := table?_set_self store rfl _
  admitted := h.admitted
  meets record hmem := by
    have hrecords : (table.drop (table.records.map met)).records =
        table.records.filter fun record ↦ !met record := Table.spared_map met table.records
    rw [hrecords, List.mem_filter, Bool.not_eq_true'] at hmem
    rw [← hmem.2]
    exact h.meets record hmem.1

/-- **A second deletion deletes nothing.** -/
theorem step_again_of_delete (hleft : Sound left)
    (hread : Statement.ofText line = .ok (.delete type filter))
    (h : step store line = (left, .ok message)) :
    step left line = (left, .ok "0 instances deleted.") := by
  obtain ⟨table, met, hselects⟩ := exists_selects_of_delete hread h
  rw [step_of_selects hselects hread] at h
  cases h
  have hagain := hselects.after_drop
  rw [step_of_selects hagain hread, Table.drop_none, set_eq_self hleft hagain.found,
    List.filter_false]
  rfl

/-- A second update that is not refused finds everything as it would leave it. -/
theorem eq_of_step_again_of_update (hleft : Sound left)
    (hread : Statement.ofText line = .ok (.update type filter values))
    (h : step store line = (left, .ok message)) (h' : step left line = (again, .ok message')) :
    again = left := by
  have hagain : Sound again := hleft.of_step h'
  obtain ⟨table, mask, writes, -, -, hmatching, hwrites, -, indexes, heq⟩ :=
    exists_mask_of_update hread h
  obtain ⟨first, mask', writes', hfirst, -, hmatching', hwrites', -, indexes', heq'⟩ :=
    exists_mask_of_update hread h'
  have hfound : left.table? type = some first := hfirst
  rw [heq, table?_set_self store rfl] at hfirst
  cases hfirst
  -- the type is the same, so the same is written, and the same condition is asked
  obtain rfl : writes' = writes := Except.ok.inj (hwrites'.symm.trans hwrites)
  obtain rfl := Table.mask_eq_map_meets hmatching
  obtain rfl := Table.mask_eq_map_meets hmatching'
  rw [Table.written_written (Schema.nodup_writesOf hwrites)] at heq'
  have hsame := Table.Sound.eq_of_indexes (hleft.sound _ _ (hleft.table?_eq_some_iff.1 hfound))
    (hagain.sound _ _ (hagain.table?_eq_some_iff.1 (heq' ▸ table?_set_self left rfl _)))
  rw [heq', hsame, set_eq_self hleft hfound]

/-- A line that is done, and inserts nothing, leaves nothing to do. -/
theorem step_again (hstore : Sound store)
    (hline : ∀ type values, Statement.ofText line ≠ .ok (.insert type values))
    (h : step store line = (left, .ok message)) : (step left line).1 = left := by
  have hleft : Sound left := hstore.of_step h
  cases hread : Statement.ofText line with
  | error fault =>
    rw [step_of_unreadable hread] at h
    cases h
  | ok statement =>
    cases statement with
    | create type fields =>
      rw [step_create_of_exists hread (isSome_table?_of_create hread h)]
    | insert type values => exact absurd hread (hline type values)
    | update type filter values =>
      cases hagain : step left line with
      | mk again result =>
        cases result with
        | error fault =>
          rw [step_of_refused hleft (congrArg Prod.snd hagain)] at hagain
          exact (congrArg Prod.fst hagain).symm
        | ok message' => exact eq_of_step_again_of_update hleft hread h hagain
    | delete type filter => rw [step_again_of_delete hleft hread h]
    | search type filter => rw [step_search hread]

/-- **A repeated command changes nothing.** In any store that calls lead to, a line that is no
insertion, done or refused, leaves the store that it would leave if it were given twice. The second of
two deletions is done, and deletes nothing. -/
theorem unchanged_of_repeated (calls : List Call) {line : String}
    (hline : ∀ type values, Statement.ofText line ≠ .ok (.insert type values)) :
    (step (step (after calls) line).1 line).1 = (step (after calls) line).1 ∧
    ∀ type filter left message, Statement.ofText line = .ok (.delete type filter) →
      step (after calls) line = (left, .ok message) →
      step left line = (left, .ok "0 instances deleted.") := by
  have hstore := sound_after calls
  refine ⟨?_, fun type filter left message hread h ↦
    step_again_of_delete (hstore.of_step h) hread h⟩
  cases hstep : step (after calls) line with
  | mk left result =>
    cases result with
    | error fault =>
      -- a refused line has left the store as it was, and is refused again
      have hrefused := step_of_refused hstore (congrArg Prod.snd hstep)
      obtain rfl : left = after calls := congrArg Prod.fst (hstep.symm.trans hrefused)
      exact congrArg Prod.fst hrefused
    | ok message => exact step_again hstore hline hstep

/-- A job in its first state. -/
def jobs : List Call :=
  [.createType "Job" [⟨"state", .int, false, false⟩, ⟨"tags", .texts, false, false⟩],
   .change "job" (.insert [("state", .int 1)])]

/-- Moves jobs to their second state. The comparison of the list has no meaning, but it is passed over
for a job in its first state. -/
def advance : String := "update job (state = 1 or tags = \"x\") { state: 2 }"

/-- The second time the comparison has to be made, and the update is refused. -/
theorem unchanged_of_advanced :
    (step (after jobs) advance).2 = .ok "1 instances updated." ∧
      (step (step (after jobs) advance).1 advance).2 =
        .error (.filter (.listCompared "tags")) ∧
      (step (step (after jobs) advance).1 advance).1 =
        (step (after jobs) advance).1 := by
  have hline : ∀ type values, Statement.ofText advance ≠ .ok (.insert type values) := by
    intro type values hread
    have hverb : (Statement.ofText advance).map Statement.verb = .ok .update := by decide +kernel
    rw [hread] at hverb
    cases hverb
  refine ⟨by decide +kernel, by decide +kernel, (unchanged_of_repeated jobs hline).1⟩

end Store

end RecordStore
