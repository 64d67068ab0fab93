import Mathlib.Data.List.Find
import RecordStore.Proofs.Table.Calls

/-!
# Tables without indexes

`ScanTable` is what a table means: a schema and records, where a value is taken if a look at all
records finds it. It has no indexes that could go stale. An insertion is refused if any record holds
the value of a unique field; an update that writes one is refused if it writes to several records or
if a record that it does not write to holds the value.

A table with indexes is not to be told from it. On a sound table each check of an index gives what a
look at the records does (`firstTaken?_eq`, `writes_eq`), so a call on it does to the table without
indexes what it does there (`step_forget`), and by induction on the calls everything that is ever
returned and every record is the same (`history_eq`).
-/

namespace RecordStore

open Record (Distinct Rising)

/-- A type with its records, and nothing else. -/
structure ScanTable where
  /-- The name of the type. -/
  name : String
  /-- The fields of the type. -/
  schema : Schema
  /-- The records in the order of their insertion. -/
  records : List Record
  /-- The number of the next record. -/
  nextId : Nat

namespace ScanTable

/-- The table of a type without fields and records. -/
def empty (name : String) : ScanTable := ⟨name, .empty, [], 0⟩

/-- Does one of the records hold the value under the key? -/
def holds (records : List Record) (key : String) (value : Value) : Bool :=
  records.any fun record ↦ (record.value? key).any (·.same value)

/-- Declares a further field. -/
def addField (field : Field) (table : ScanTable) : Except Fault ScanTable := do
  if field.key = "" then
    throw (.badField field.name)
  if (table.schema.field? field.key).isSome then
    throw (.duplicateField field.name)
  if !table.records.isEmpty then
    throw (.lateField field.name table.name)
  return { table with schema := ⟨table.schema.fields ++ [field]⟩ }

/-- The first unique field whose value one of the records holds. -/
def firstTaken? (table : ScanTable) (values : Entries String Value) : Option Field :=
  table.schema.fields.find? fun field ↦
    field.unique && (values.lookup field.key).any (holds table.records field.key)

/-- Inserts a record with the given values. -/
def insert (given : List (String × Value)) (table : ScanTable) : Except Fault (Nat × ScanTable) := do
  let given := Table.byKey given
  Table.admitAll table.schema given
  if let some field := Table.firstMissing? table.schema given then
    throw (.missingRequired field.name)
  let values := Table.completed table.schema given
  if let some field := table.firstTaken? values then
    throw (.duplicateValue field.name)
  let records := table.records ++ [⟨table.nextId, values⟩]
  return (table.nextId, { table with records, nextId := table.nextId + 1 })

/-- The values to write into the targets, if required fields keep a value and a unique field is
written for one target only, with a value that none of the other records holds. -/
def writes (targets others : List Record) :
    List (String × Field × Option Value) → Except Fault (List (String × Value))
  | [] => .ok []
  | (key, field, value) :: rest => do
    if field.required && value.isNone then
      throw (.missingRequired field.name)
    let value := value.getD field.kind.default
    if field.unique && (1 < targets.length || holds others key value) then
      throw (.duplicateValue field.name)
    let rest ← writes targets others rest
    return (key, value) :: rest

/-- Assigns values to fields of the records that meet a condition. -/
def updateWhere (condition : Condition) (assignments : List (String × Option Value))
    (table : ScanTable) : Except Fault (Nat × ScanTable) := do
  let changes ← Table.changes table.schema [] assignments
  let mask ← Table.matchRecords condition table.schema table.records
  let targets := Table.picked table.records mask
  if targets.isEmpty then
    return (0, table)
  let writes ← writes targets (Table.spared table.records mask) changes
  return (targets.length, { table with records := Table.written writes table.records mask })

/-- Removes the records that meet a condition. -/
def deleteWhere (condition : Condition) (table : ScanTable) : Except Fault (Nat × ScanTable) := do
  let mask ← Table.matchRecords condition table.schema table.records
  let removed := Table.picked table.records mask
  return (removed.length, { table with records := Table.spared table.records mask })

/-- What a call returns, and the table after it, if it is not refused. -/
def call : Table.Call → ScanTable → Except Fault (Option Nat × ScanTable)
  | .addField field, table => (table.addField field).map fun after ↦ (none, after)
  | .insert given, table => (table.insert given).map fun (number, after) ↦ (some number, after)
  | .updateWhere condition assignments, table =>
    (table.updateWhere condition assignments).map fun (count, after) ↦ (some count, after)
  | .deleteWhere condition, table =>
    (table.deleteWhere condition).map fun (count, after) ↦ (some count, after)

/-- The table after a call, and what the call returns. A refused call leaves the table. -/
def step (table : ScanTable) (call : Table.Call) : ScanTable × Except Fault (Option Nat) :=
  match table.call call with
  | .ok (reply, after) => (after, .ok reply)
  | .error fault => (table, .error fault)

end ScanTable

namespace Table

/-- What calls return one after another, each with the records that there are afterwards. -/
def history {σ : Type} (step : σ → Call → σ × Except Fault (Option Nat))
    (records : σ → List Record) : σ → List Call → List (Except Fault (Option Nat) × List Record)
  | _, [] => []
  | state, call :: calls =>
    ((step state call).2, records (step state call).1) ::
      history step records (step state call).1 calls

/-- The table after a call, and what the call returns. -/
def step (table : Table) (call : Call) : Table × Except Fault (Option Nat) :=
  call.action.perform table

/-- The table without its indexes. -/
def forget (table : Table) : ScanTable := ⟨table.name, table.schema, table.records, table.nextId⟩

variable {table : Table} {records : List Record} {mask : List Bool}

/-! ### Records inside and outside the targets -/

theorem mem_picked_or_spared {record : Record} (h : record ∈ records) (mask : List Bool) :
    record ∈ picked records mask ∨ record ∈ spared records mask := by
  induction records generalizing mask with
  | nil => cases h
  | cons first rest ih =>
    rcases mask with _ | ⟨_ | _, mask⟩
    · exact .inr h
    · rcases List.mem_cons.1 h with rfl | h
      · exact .inr List.mem_cons_self
      · exact (ih h mask).imp_right (List.mem_cons_of_mem _)
    · rcases List.mem_cons.1 h with rfl | h
      · exact .inl List.mem_cons_self
      · exact (ih h mask).imp_left (List.mem_cons_of_mem _)

theorem picked_sublist (records : List Record) (mask : List Bool) :
    List.Sublist (picked records mask) records := by
  induction records generalizing mask with
  | nil => cases mask <;> exact List.Sublist.refl []
  | cons first rest ih =>
    rcases mask with _ | ⟨_ | _, mask⟩
    · exact List.nil_sublist _
    · exact (ih mask).cons first
    · exact (ih mask).cons_cons first

/-- A record is not both among the targets and outside them. -/
theorem id_ne_of_picked_of_spared (hrising : Rising records) {r s : Record}
    (hr : r ∈ picked records mask) (hs : s ∈ spared records mask) : r.id ≠ s.id := by
  induction records generalizing mask with
  | nil => cases mask <;> cases hr
  | cons first rest ih =>
    obtain ⟨hfirst, hrest⟩ := List.pairwise_cons.1 hrising
    rcases mask with _ | ⟨_ | _, mask⟩
    · cases hr
    · rcases List.mem_cons.1 hs with rfl | hs
      · exact (Nat.ne_of_lt (hfirst r ((picked_sublist rest mask).subset hr))).symm
      · exact ih hrest hr hs
    · rcases List.mem_cons.1 hr with rfl | hr
      · exact Nat.ne_of_lt (hfirst s ((spared_sublist rest mask).subset hs))
      · exact ih hrest hr hs

/-! ### Checks of the indexes -/

theorem holds_eq_true {key : String} {value : Value} :
    ScanTable.holds records key value = true ↔
      ∃ record ∈ records, ∃ v, record.value? key = some v ∧ v.same value = true := by
  simp [ScanTable.holds, Option.any_eq_true]

/-- An index has an entry for a value if a look at all records finds it. -/
theorem isSome_holder?_eq_holds (h : Sound table) {key : String}
    (hkey : key ∈ table.schema.uniqueKeys) (value : Value) :
    (table.indexes.holder? key value).isSome = ScanTable.holds table.records key value := by
  rw [Bool.eq_iff_iff, Option.isSome_iff_exists, holds_eq_true]
  constructor
  · rintro ⟨number, hholder⟩
    obtain ⟨record, hmem, -, v, hv, hsame⟩ := exists_holder_of_sound h hkey hholder
    exact ⟨record, hmem, v, hv, hsame⟩
  · rintro ⟨record, hmem, v, hv, hsame⟩
    exact ⟨record.id, holder?_of_sound h hkey hmem hv hsame⟩

/-- The entry is that of a record outside the targets if a look at the records outside the targets
finds the value. -/
theorem any_holder?_eq_holds (h : Sound table) {key : String}
    (hkey : key ∈ table.schema.uniqueKeys) (value : Value) :
    ((table.indexes.holder? key value).any
        fun number ↦ !((picked table.records mask).map (·.id)).contains number) =
      ScanTable.holds (spared table.records mask) key value := by
  rw [Bool.eq_iff_iff, Option.any_eq_true, holds_eq_true]
  constructor
  · rintro ⟨number, hholder, houtside⟩
    obtain ⟨record, hmem, rfl, v, hv, hsame⟩ := exists_holder_of_sound h hkey hholder
    rcases mem_picked_or_spared hmem mask with hpicked | hspared
    · have hinside : record.id ∈ (picked table.records mask).map (·.id) :=
        List.mem_map_of_mem hpicked
      simp [hinside] at houtside
    · exact ⟨record, hspared, v, hv, hsame⟩
  · rintro ⟨record, hspared, v, hv, hsame⟩
    have hmem := (spared_sublist table.records mask).subset hspared
    refine ⟨record.id, holder?_of_sound h hkey hmem hv hsame, ?_⟩
    rw [Bool.not_eq_true', ← Bool.not_eq_true, List.contains_iff_mem]
    intro hinside
    -- numbers are not shared, so a record outside the targets has none of theirs
    obtain ⟨target, htarget, heq⟩ := List.mem_map.1 hinside
    exact id_ne_of_picked_of_spared h.rising htarget hspared heq

/-- **The check of an insertion** is a look at all records. -/
theorem firstTaken?_eq (h : Sound table) (values : Entries String Value) :
    table.firstTaken? values = table.forget.firstTaken? values := by
  refine List.find?_congr fun field hfield ↦ ?_
  cases hunique : field.unique with
  | false => rfl
  | true =>
    have hkey := Schema.mem_uniqueKeys.2 ⟨field, hfield, hunique, rfl⟩
    cases values.lookup field.key with
    | none => rfl
    | some value => exact isSome_holder?_eq_holds h hkey value

/-- **The check of an update** is a look at all records outside the targets. -/
theorem writes_eq (h : Sound table) {changes : List (String × Field × Option Value)}
    (hchanges : ∀ change ∈ changes, change.2.1.unique = true →
      change.1 ∈ table.schema.uniqueKeys) :
    writes table.indexes ((picked table.records mask).map (·.id)) changes =
      ScanTable.writes (picked table.records mask) (spared table.records mask) changes := by
  induction changes with
  | nil => rfl
  | cons change rest ih =>
    obtain ⟨key, field, value⟩ := change
    have hrest := ih fun change hmem ↦ hchanges change (List.mem_cons_of_mem _ hmem)
    rw [writes, ScanTable.writes, hrest, List.length_map]
    cases hunique : field.unique with
    | false => rfl
    | true =>
      have hkey := hchanges (key, field, value) List.mem_cons_self hunique
      simp only [any_holder?_eq_holds h hkey]

/-! ### Steps -/

theorem Assigns.mem_uniqueKeys {schema : Schema} {changes : Entries String (Field × Option Value)}
    (h : Assigns schema changes) :
    ∀ change ∈ changes, change.2.1.unique = true → change.1 ∈ schema.uniqueKeys := by
  rintro ⟨key, field, value⟩ hmem hunique
  obtain ⟨hfield, rfl⟩ := h.declared key field value hmem
  exact Schema.mem_uniqueKeys.2 ⟨field, hfield, hunique, rfl⟩

theorem forget_addField (field : Field) :
    table.forget.addField field =
      match (addField field).run table with
      | .ok _ after => .ok after.forget
      | .error fault _ => .error fault := by
  rw [run_addField, ScanTable.addField, forget]
  by_cases hblank : field.key = ""
  · simp only [if_pos hblank]
    rfl
  by_cases hknown : (table.schema.field? field.key).isSome
  · simp only [if_neg hblank, if_pos hknown]
    rfl
  by_cases hlate : !table.records.isEmpty
  · simp only [if_neg hblank, if_neg hknown, if_pos hlate]
    rfl
  simp only [if_neg hblank, if_neg hknown, if_neg hlate]
  rfl

theorem forget_insert (h : Sound table) (given : List (String × Value)) :
    table.forget.insert given =
      match (insert given).run table with
      | .ok number after => .ok (number, after.forget)
      | .error fault _ => .error fault := by
  have htaken := firstTaken?_eq h (completed table.schema (byKey given))
  rw [forget] at htaken
  rw [run_insert, ScanTable.insert, htaken, forget]
  dsimp only
  cases admitAll table.schema (byKey given) with
  | error fault => rfl
  | ok =>
    cases firstMissing? table.schema (byKey given) with
    | some field => rfl
    | none => cases ScanTable.firstTaken? _ (completed table.schema (byKey given)) <;> rfl

theorem forget_updateWhere (h : Sound table) (condition : Condition)
    (assignments : List (String × Option Value)) :
    table.forget.updateWhere condition assignments =
      match (updateWhere condition assignments).run table with
      | .ok count after => .ok (count, after.forget)
      | .error fault _ => .error fault := by
  rw [run_updateWhere, ScanTable.updateWhere, forget, matching]
  cases hchanges : changes table.schema [] assignments with
  | error fault => rfl
  | ok changes =>
    have hkeys := (assigns_of_changes Assigns.nil hchanges).mem_uniqueKeys
    cases matchRecords condition table.schema table.records with
    | error fault => rfl
    | ok mask =>
      show (if (picked table.records mask).isEmpty then _ else _) = _
      by_cases hnone : (picked table.records mask).isEmpty
      · simp only [if_pos hnone]
        rfl
      simp only [if_neg hnone, writes_eq h hkeys]
      cases hwrites : ScanTable.writes (picked table.records mask) (spared table.records mask)
        changes with
      | error fault => rfl
      | ok writes =>
        show Except.ok _ = Except.ok (_, (table.rewrite writes mask).forget)
        rw [forget, rewrite, overwrite_fst]

theorem forget_deleteWhere (condition : Condition) :
    table.forget.deleteWhere condition =
      match (deleteWhere condition).run table with
      | .ok count after => .ok (count, after.forget)
      | .error fault _ => .error fault := by
  rw [run_deleteWhere, ScanTable.deleteWhere, forget, matching]
  cases matchRecords condition table.schema table.records <;> rfl

theorem forget_call (h : Sound table) (call : Call) :
    table.forget.call call =
      match call.action.run table with
      | .ok reply after => .ok (reply, after.forget)
      | .error fault _ => .error fault := by
  cases call with
  | addField field =>
    rw [ScanTable.call, forget_addField, Call.action, EStateM.run_bind]
    cases (addField field).run table <;> rfl
  | insert given =>
    rw [ScanTable.call, forget_insert h, Call.action, EStateM.run_bind]
    cases (insert given).run table <;> rfl
  | updateWhere condition assignments =>
    rw [ScanTable.call, forget_updateWhere h, Call.action, EStateM.run_bind]
    cases (updateWhere condition assignments).run table <;> rfl
  | deleteWhere condition =>
    rw [ScanTable.call, forget_deleteWhere, Call.action, EStateM.run_bind]
    cases (deleteWhere condition).run table <;> rfl

/-- **A step without indexes is a step with them.** -/
theorem step_forget (h : Sound table) (call : Call) :
    table.forget.step call = ((table.step call).1.forget, (table.step call).2) := by
  rw [ScanTable.step, forget_call h, step, Action.perform]
  cases hrun : call.action.run table with
  | ok reply after => rfl
  | error fault after =>
    -- the table without indexes is left by definition, the other because the call is atomic
    have hbefore : SoundAs table.name table := ⟨h, rfl⟩
    rw [(atomic_call call).undone hbefore hrun]

theorem Sound.step (h : Sound table) (call : Call) : Sound (table.step call).1 :=
  have hbefore : SoundAs table.name table := ⟨h, rfl⟩
  ((atomic_call call).perform hbefore).sound

theorem history_forget (h : Sound table) (calls : List Call) :
    history step Table.records table calls =
      history ScanTable.step ScanTable.records table.forget calls := by
  induction calls generalizing table with
  | nil => rfl
  | cons call rest ih =>
    rw [history, history, step_forget h call, ih (h.step call)]
    rfl

/-- **Indexes change nothing but the effort.** Whatever calls are made on a new table, they return
the same with indexes as without, and leave the same records, with the same numbers and in the same
order. -/
theorem history_eq (name : String) (calls : List Call) :
    history step Table.records (.empty name) calls =
      history ScanTable.step ScanTable.records (.empty name) calls :=
  history_forget (sound_empty name) calls

end Table

end RecordStore
