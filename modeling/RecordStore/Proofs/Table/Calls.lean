import RecordStore.Proofs.Table.Soundness

/-!
# Calls on a table

The four actions that change a table, as data (`Table.Call`), so that one can speak of every call
and of every sequence of calls. Each of them is atomic: a table that was sound stays so, and one
whose call is refused is left as it was (`atomic_call`). The soundness comes from the lemmas about
each change; that nothing is done before a refusal is what the explicit forms of the actions show.
-/

namespace RecordStore.Table

open RecordStore.Action (Atomic)

/-- A sound table of a given name. No action renames a table. -/
structure SoundAs (name : String) (table : Table) : Prop where
  sound : table.Sound
  name_eq : table.name = name

variable {name : String}

theorem atomic_addField (field : Field) : Atomic (SoundAs name) (addField field) where
  keeps {table u after} h hrun := by
    obtain ⟨hblank, hnew, hempty, rfl⟩ := eq_declare_of_addField hrun
    exact ⟨h.sound.declare hblank hnew hempty, h.name_eq⟩
  undone {table fault after} _ hrun := by
    rw [run_addField] at hrun
    repeat' split at hrun
    all_goals cases hrun <;> rfl

theorem atomic_insert (given : List (String × Value)) : Atomic (SoundAs name) (insert given) where
  keeps {table number after} h hrun := by
    obtain ⟨hgiven, -, hfree, rfl, rfl⟩ := eq_append_of_insert hrun
    exact ⟨h.sound.append hgiven hfree, h.name_eq⟩
  undone {table fault after} _ hrun := by
    rw [run_insert] at hrun
    repeat' split at hrun
    all_goals cases hrun <;> rfl

theorem atomic_deleteWhere (condition : Condition) :
    Atomic (SoundAs name) (deleteWhere condition) where
  keeps {table count after} h hrun := by
    obtain ⟨mask, -, -, rfl⟩ := exists_drop_of_deleteWhere hrun
    exact ⟨h.sound.drop mask, h.name_eq⟩
  undone {table fault after} _ hrun := by
    rw [run_deleteWhere] at hrun
    repeat' split at hrun
    all_goals cases hrun <;> rfl

theorem atomic_updateWhere (condition : Condition) (assignments : List (String × Option Value)) :
    Atomic (SoundAs name) (updateWhere condition assignments) where
  keeps {table number after} h hrun := by
    rw [run_updateWhere] at hrun
    split at hrun
    · cases hrun
    · next changes hchanges =>
      split at hrun
      · cases hrun
      · next mask _ =>
        split at hrun
        · cases hrun
          exact h
        · next hsome =>
          split at hrun
          · cases hrun
          · next writes hwrites =>
            cases hrun
            refine ⟨h.sound.rewrite (assigns_of_changes Assigns.nil hchanges) hwrites ?_, h.name_eq⟩
            simpa using hsome
  undone {table fault after} _ hrun := by
    rw [run_updateWhere] at hrun
    repeat' split at hrun
    all_goals cases hrun <;> rfl

/-- What an update of a table does that is not refused. -/
theorem exists_mask_of_updateWhere {condition : Condition}
    {assignments : List (String × Option Value)} {table after : Table} {count : Nat}
    (h : (updateWhere condition assignments).run table = .ok count after) :
    ∃ mask changes, table.matching condition = .ok mask ∧
      Table.changes table.schema [] assignments = .ok changes ∧
      count = (picked table.records mask).length ∧
      ∃ indexes, after = { table with
        records := written (changes.map toWrite) table.records mask, indexes := indexes } := by
  rw [run_updateWhere] at h
  split at h
  · cases h
  next changes hchanges =>
  split at h
  · cases h
  next mask hmatching =>
  refine ⟨mask, changes, hmatching, hchanges, ?_⟩
  split at h
  · next hnone =>
    -- nothing is picked, so what would be written is written nowhere
    cases h
    have hpicked := List.isEmpty_iff.1 hnone
    refine ⟨by rw [hpicked]; rfl, table.indexes, ?_⟩
    rw [← overwrite_fst table.indexes, overwrite_of_picked_eq_nil hpicked]
  · split at h
    · cases h
    · next writes hwrites =>
      cases h
      obtain ⟨rfl, -⟩ := writes_eq_ok hwrites
      refine ⟨rfl, (overwrite (changes.map toWrite) table.records mask table.indexes).2, ?_⟩
      rw [rewrite, overwrite_fst]

/-! ### Any call -/

/-- A call of one of the actions that change a table, with all that it is given. -/
inductive Call where
  /-- Declares a field. -/
  | addField (field : Field)
  /-- Inserts a record. -/
  | insert (given : List (String × Value))
  /-- Assigns values to the records that meet a condition. -/
  | updateWhere (condition : Condition) (assignments : List (String × Option Value))
  /-- Deletes the records that meet a condition. -/
  | deleteWhere (condition : Condition)

/-- What a call does, and the number that it returns, if it returns any. -/
def Call.action : Call → Action Table (Option Nat)
  | addField field => do
    Table.addField field
    return none
  | insert given => do
    let id ← Table.insert given
    return some id
  | updateWhere condition assignments => do
    let count ← Table.updateWhere condition assignments
    return some count
  | deleteWhere condition => do
    let count ← Table.deleteWhere condition
    return some count

/-- **Every call is atomic.** -/
theorem atomic_call (call : Call) : Atomic (SoundAs name) call.action := by
  cases call with
  | addField field => exact (atomic_addField field).map fun _ ↦ none
  | insert given => exact (atomic_insert given).map some
  | updateWhere condition assignments => exact (atomic_updateWhere condition assignments).map some
  | deleteWhere condition => exact (atomic_deleteWhere condition).map some

end RecordStore.Table
