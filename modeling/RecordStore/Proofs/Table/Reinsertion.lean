import Mathlib.Data.List.Perm.Subperm
import RecordStore.Proofs.Table.Mask
import RecordStore.Proofs.Table.Numbering

/-!
# Inserting again what was deleted

A deletion frees the values of the records that it removes, and no others. Afterwards the deleted
records can be inserted again, with all their values, one after another and in any order, and all of
them together give the rows that there were (`reinserts_deleted`). A copy of a record that was not
deleted is refused all the while, if there is a unique field.

Both rest on the check of an insertion being a look at the records (`firstTaken?_eq`), however many
entries have been removed from the indexes and added to them in between. What a deletion removes and
what it leaves were records of one table, so no two of them hold the same value in a unique field:
each record that is inserted again is apart from those that are there (`run_insert_all`).
-/

namespace RecordStore

open RecordStore.Text
open Record (Apart Distinct Fits)

/-- All values of a record are given, each once, under any spelling of its field's name. -/
def Record.GivenBy (record : Record) (given : List (String × Value)) : Prop :=
  (given.map fun (name, value) ↦ (canonical name, value)).Perm record.values

instance (record : Record) (given : List (String × Value)) : Decidable (record.GivenBy given) :=
  inferInstanceAs (Decidable (List.Perm _ _))

namespace Table

variable {table : Table} {schema : Schema} {record : Record} {given : List (String × Value)}
  {order : List Record} {met : Record → Bool} {condition : Condition} {field : Field}

/-! ### What is given -/

/-- Values that are given are found as the record holds them. -/
theorem lookup_byKey_of_givenBy (hnodup : record.values.keys.Nodup) (h : record.GivenBy given)
    (key : String) : (byKey given).lookup key = record.value? key := by
  have hkeys : (Entries.keys (given.map fun (name, value) ↦ (canonical name, value))).Nodup :=
    (h.map Prod.fst).nodup_iff.2 hnodup
  rw [byKey, Entries.ofList_of_nodup hkeys]
  exact Entries.lookup_of_perm hnodup h key

/-- A record that is given in full is made of what is given, and nothing else. -/
theorem completed_of_givenBy (hnodup : schema.keys.Nodup) (hfits : Fits schema record)
    (h : record.GivenBy given) : completed schema (byKey given) = record.values := by
  have hvalues : record.values.keys.Nodup := hfits.keys ▸ hnodup
  have hkeys : (completed schema (byKey given)).keys = record.values.keys := by
    rw [hfits.keys, Schema.keys, completed, Entries.keys, List.map_map]
    rfl
  refine Entries.eq_of_keys_of_lookup hkeys (hkeys ▸ hvalues) fun key hkey ↦ ?_
  rw [hkeys, hfits.keys] at hkey
  obtain ⟨field, hfield, rfl⟩ := List.mem_map.1 hkey
  obtain ⟨value, hvalue, -⟩ := hfits.exists_value hfield
  have hcompleted : (completed schema (byKey given)).lookup field.key =
      some (((byKey given).lookup field.key).getD field.kind.default) :=
    Entries.lookup_map_of_mem
      (fun field : Field ↦ ((byKey given).lookup field.key).getD field.kind.default) hnodup hfield
  rw [hcompleted, lookup_byKey_of_givenBy hvalues h, hvalue]
  exact hvalue.symm

theorem admitAll_of_givenBy (hnodup : schema.keys.Nodup) (hfits : Fits schema record)
    (h : record.GivenBy given) : admitAll schema (byKey given) = .ok () := by
  refine admitAll_of_forall fun e he ↦ ?_
  have hmem : e ∈ record.values := h.mem_iff.1 (Entries.mem_of_mem_ofList he)
  have hkey : e.1 ∈ schema.keys := hfits.keys ▸ List.mem_map_of_mem hmem
  obtain ⟨field, hfield, heq⟩ := List.mem_map.1 hkey
  have hvalue : record.value? field.key = some e.2 := by
    rw [heq]
    exact Entries.lookup_of_mem (hfits.keys ▸ hnodup) hmem
  exact ⟨field, heq ▸ Schema.field?_key hnodup hfield, hfits.kind field hfield e.2 hvalue⟩

/-- **Inserting a record that is given in full** is refused only for a value that is taken. -/
theorem run_insert_of_givenBy (h : Sound table) (hfits : Fits table.schema record)
    (hgiven : record.GivenBy given) :
    (insert given).run table =
      match table.firstTaken? record.values with
      | some field => .error (.duplicateValue field.name) table
      | none => .ok table.nextId (table.append record.values) := by
  have hmissing : firstMissing? table.schema (byKey given) = none := by
    refine List.find?_eq_none.2 fun field hfield ↦ ?_
    obtain ⟨value, hvalue, -⟩ := hfits.exists_value hfield
    rw [lookup_byKey_of_givenBy (hfits.keys ▸ h.nodup) hgiven, hvalue]
    simp
  have hrun := run_insert given table
  rw [admitAll_of_givenBy h.nodup hfits hgiven, hmissing,
    completed_of_givenBy h.nodup hfits hgiven] at hrun
  exact hrun

/-! ### Values that are free, and values that are taken -/

theorem firstTaken?_of_apart (h : Sound table)
    (hapart : ∀ key ∈ table.schema.uniqueKeys, ∀ r ∈ table.records, Apart key r record) :
    table.firstTaken? record.values = none := by
  rw [firstTaken?_eq h]
  refine List.find?_eq_none.2 fun field hfield htaken ↦ ?_
  rw [Bool.and_eq_true, Option.any_eq_true] at htaken
  obtain ⟨hunique, value, hvalue, hholds⟩ := htaken
  have hkey := Schema.mem_uniqueKeys.2 ⟨field, hfield, hunique, rfl⟩
  obtain ⟨r, hr, v, hv, hsame⟩ := holds_eq_true.1 hholds
  rw [hapart field.key hkey r hr v value hv hvalue] at hsame
  cases hsame

/-- Of a record whose values a record of the table holds, each unique field is taken. -/
theorem firstTaken?_of_mem (h : Sound table) {r : Record} (hr : r ∈ table.records)
    (hvalues : record.values = r.values) :
    table.firstTaken? record.values = table.schema.fields.find? Field.unique := by
  rw [firstTaken?_eq h, hvalues]
  refine List.find?_congr fun field hfield ↦ ?_
  obtain ⟨value, hvalue, -⟩ := (h.fits r hr).exists_value hfield
  have hlookup : r.values.lookup field.key = some value := hvalue
  have hholds : ScanTable.holds table.forget.records field.key value = true :=
    holds_eq_true.2 ⟨r, hr, value, hvalue, Value.same_refl value⟩
  rw [hlookup, Option.any_some, hholds, Bool.and_true]

/-! ### Inserting one record after another -/

/-- The table with copies of records appended, under new numbers. -/
def extend (table : Table) (order : List Record) : Table :=
  order.foldl (fun table record ↦ table.append record.values) table

theorem schema_extend : (table.extend order).schema = table.schema := by
  induction order generalizing table with
  | nil => rfl
  | cons record rest ih => exact ih

theorem rows_extend : (table.extend order).records.map (·.values) =
    table.records.map (·.values) ++ order.map (·.values) := by
  induction order generalizing table with
  | nil => exact (List.append_nil _).symm
  | cons record rest ih =>
    refine ih.trans ?_
    have hrows : (table.append record.values).records.map (·.values) =
        table.records.map (·.values) ++ [record.values] := List.map_append
    rw [hrows, List.append_assoc]
    rfl

theorem mem_extend (h : record ∈ table.records) (order : List Record) :
    record ∈ (table.extend order).records := by
  induction order generalizing table with
  | nil => exact h
  | cons first rest ih => exact ih (List.mem_append_left _ h)

/-- **Records that are apart from those of the table, and from each other, can all be inserted**, each
under the next number. -/
theorem run_insert_all (h : Sound table) (hfits : ∀ record ∈ order, Fits table.schema record)
    (hdistinct : Distinct table.schema.uniqueKeys (table.records ++ order))
    {givens : List (List (String × Value))} (hgivens : List.Forall₂ Record.GivenBy order givens) :
    Sound (table.extend order) ∧
      (givens.mapM insert).run table =
        .ok (List.range' table.nextId order.length) (table.extend order) := by
  induction hgivens generalizing table with
  | nil => exact ⟨h, rfl⟩
  | @cons record given order givens hgiven _ ih =>
    obtain ⟨hrecord, hrest⟩ := List.forall_mem_cons.1 hfits
    have hfree : table.firstTaken? record.values = none := by
      refine firstTaken?_of_apart h fun key hkey r hr ↦ ?_
      exact (List.pairwise_append.1 (hdistinct key hkey)).2.2 r hr record List.mem_cons_self
    have hrun : (insert given).run table = .ok table.nextId (table.append record.values) := by
      rw [run_insert_of_givenBy h hrecord hgiven, hfree]
    have hsound : Sound (table.append record.values) := by
      have hcompleted := completed_of_givenBy h.nodup hrecord hgiven
      rw [← hcompleted] at hfree ⊢
      exact h.append (admitAll_of_givenBy h.nodup hrecord hgiven) hfree
    -- the copy holds what the record does, so it is apart from the others as well
    have hdistinct' : Distinct (table.append record.values).schema.uniqueKeys
        ((table.append record.values).records ++ order) := by
      intro key hkey
      refine (Record.pairwise_apart_congr ?_).2 (hdistinct key hkey)
      rw [append, List.map_append, List.map_append, List.append_assoc, List.map_append]
      rfl
    obtain ⟨hextend, hall⟩ := ih hsound hrest hdistinct'
    refine ⟨hextend, ?_⟩
    rw [List.mapM_cons, EStateM.run_bind, hrun]
    show (givens.mapM insert >>= fun numbers ↦ pure (table.nextId :: numbers)).run _ = _
    rw [EStateM.run_bind, hall]
    rfl

/-! ### Deleting and inserting again -/

theorem left_append_deleted (met : Record → Bool) (records : List Record) :
    ((records.filter fun record ↦ !met record) ++ records.filter met).Perm records := by
  simpa using List.filter_append_perm (fun record ↦ !met record) records

/-- What a deletion leaves, and some of what it removes in any order, hold different values. -/
theorem distinct_left_append (h : Sound table) (hsub : order.Subperm (table.records.filter met)) :
    Distinct table.schema.uniqueKeys
      ((table.records.filter fun record ↦ !met record) ++ order) := by
  intro key hkey
  have hall : ((table.records.filter fun record ↦ !met record) ++ table.records.filter met).Pairwise
      (Apart key) :=
    ((left_append_deleted met table.records).pairwise_iff fun {_ _} h ↦ h.symm).2
      (h.distinct key hkey)
  obtain ⟨kept, hperm, hkept⟩ := hsub
  exact ((hperm.append_left _).pairwise_iff fun {_ _} h ↦ h.symm).1
    (hall.sublist (hkept.append_left _))

/-- **A deletion frees what it deletes, and nothing else.** Let the records be those of a table that
calls lead to, and let a condition mean something of each. The deletion of those that meet it is done
and leaves the others. Then any of the deleted records can be inserted again, in any order, each with
all its values, and none is refused; if it is all of them, the rows are those that there were before
the deletion. At each point of this, the values of a record that was left are refused, and for the
first unique field, if there is one. -/
theorem reinserts_deleted (h : table.Reachable) (condition : Condition) (met : Record → Bool)
    (hmet : ∀ record ∈ table.records, condition table.schema record = .ok (met record)) :
    ∃ left, (deleteWhere condition).run table = .ok (table.records.filter met).length left ∧
      left.records = (table.records.filter fun record ↦ !met record) ∧
      ∀ order givens, order.Subperm (table.records.filter met) →
        List.Forall₂ Record.GivenBy order givens →
        ∃ numbers after, (givens.mapM insert).run left = .ok numbers after ∧
          (order.Perm (table.records.filter met) →
            (after.records.map (·.values)).Perm (table.records.map (·.values))) ∧
          ∀ record ∈ left.records, ∀ given, record.GivenBy given →
            ∀ field, table.schema.fields.find? Field.unique = some field →
              (insert given).run after = .error (.duplicateValue field.name) after := by
  have hsound := h.sound
  have hmatching : table.matching condition = .ok (table.records.map met) :=
    matchRecords_eq_map hmet
  have hrecords : (table.drop (table.records.map met)).records =
      table.records.filter fun record ↦ !met record := spared_map met table.records
  have hleft := hsound.drop (table.records.map met)
  refine ⟨table.drop (table.records.map met), ?_, hrecords, fun order givens hsub hgivens ↦ ?_⟩
  · rw [run_deleteWhere, hmatching, ← picked_map]
  have hfits (record : Record) (hrecord : record ∈ order) : Fits table.schema record :=
    hsound.fits record (List.mem_of_mem_filter (hsub.subset hrecord))
  have hdistinct : Distinct table.schema.uniqueKeys
      ((table.drop (table.records.map met)).records ++ order) := by
    rw [hrecords]
    exact distinct_left_append hsound hsub
  obtain ⟨hafter, hrun⟩ := run_insert_all hleft hfits hdistinct hgivens
  refine ⟨_, _, hrun, fun hall ↦ ?_, fun record hrecord given hgiven field hfield ↦ ?_⟩
  · rw [rows_extend, hrecords, ← List.map_append]
    exact ((hall.append_left _).trans (left_append_deleted met table.records)).map _
  · have hmem := mem_extend hrecord order
    rw [run_insert_of_givenBy hafter (hafter.fits record hmem) hgiven,
      firstTaken?_of_mem hafter hmem rfl, schema_extend]
    show (match table.schema.fields.find? Field.unique with
      | some field => _
      | none => _) = _
    rw [hfield]

/-- Three doors with a number of their own each. -/
def doors : Table :=
  afterCalls (.empty "Door") [.addField ⟨"No", .int, true, true⟩,
    .addField ⟨"Label", .text, false, false⟩, .insert [("no", .int 1), ("label", .text "front")],
    .insert [("no", .int 2)], .insert [("no", .int 3), ("label", .text "front")]]

/-- The front doors are deleted and can be inserted again, the last one first, while there is still a
second door. -/
theorem reinserts_deleted_doors :
    ∃ left, (deleteWhere fun _ record ↦ .ok (record.id != 1)).run doors = .ok 2 left ∧
      ∃ numbers after,
        ([[("NO", .int 3), ("label", .text "front")], [("label", .text "front"), ("no", .int 1)]].mapM
          insert).run left = .ok numbers after ∧
        (after.records.map (·.values)).Perm (doors.records.map (·.values)) ∧
        (insert [("label", .text ""), (" no ", .int 2)]).run after =
          .error (.duplicateValue "No") after := by
  have hreachable : doors.Reachable := ⟨_, _, rfl⟩
  obtain ⟨left, hdelete, hleft, hagain⟩ := reinserts_deleted hreachable
    (fun _ record ↦ .ok (record.id != 1)) (fun record ↦ record.id != 1) fun _ _ ↦ rfl
  have hperm : List.Perm
      [⟨2, [("no", .int 3), ("label", .text "front")]⟩,
        ⟨0, [("no", .int 1), ("label", .text "front")]⟩]
      (doors.records.filter fun record ↦ record.id != 1) := by decide +kernel
  obtain ⟨numbers, after, hrun, hrows, hkept⟩ := hagain _
    [[("NO", .int 3), ("label", .text "front")], [("label", .text "front"), ("no", .int 1)]]
    hperm.subperm (.cons (by decide +kernel) (.cons (by decide +kernel) .nil))
  refine ⟨left, hdelete, numbers, after, hrun, hrows hperm, ?_⟩
  refine hkept ⟨1, [("no", .int 2), ("label", .text "")]⟩ ?_ _ (by decide +kernel)
    ⟨"No", .int, true, true⟩ (by decide +kernel)
  rw [hleft]
  decide +kernel

end Table

end RecordStore
