import Mathlib.Data.List.Forall2
import RecordStore.Proofs.Table.Scan

/-!
# Numbers of records

The numbers that insertions return are 0, 1, 2 and so on, in the order in which the insertions are
done, whatever else is called in between (`numbered_after`). No number is given out again, not even
after its record was deleted, and the records of a table are those that were inserted, in this order
and each under the number that its insertion returned, less those that were deleted.

What the insertions have made is kept in a list beside the table (`made`), each record as it was
when it was inserted. A record of the table is one of these with values written into it
(`Record.ComesFrom`). One call makes at most one record, which it appends to the others and to the
list; any other call leaves some of the records, in their order (`remain_of_made?_eq_none`). So the
table and the list stay in step (`Accounts`), and the theorem is read off that.
-/

namespace RecordStore

/-- The record is the earlier one, with values written into it. -/
def Record.ComesFrom (record earlier : Record) : Prop := ∃ writes, record = earlier.write writes

namespace Record.ComesFrom

variable {record earlier : Record}

instance : Std.Refl ComesFrom := ⟨fun _ ↦ ⟨[], rfl⟩⟩

instance : IsTrans Record ComesFrom where
  trans := by
    rintro _ _ first ⟨later, rfl⟩ ⟨writes, rfl⟩
    refine ⟨writes ++ later, ?_⟩
    rw [write, write, write, List.foldl_append]

/-- Writing does not change the number. -/
theorem id_eq (h : ComesFrom record earlier) : record.id = earlier.id := by
  obtain ⟨writes, rfl⟩ := h
  exact id_write earlier writes

end Record.ComesFrom

namespace Table

open Record (ComesFrom)
open List (SublistForall₂)

variable {table : Table} {log : List Record} {record : Record} {call : Call} {fault : Fault}

/-! ### What calls make -/

/-- The record that a call makes: what a new record holds, under the number that the insertion
returns. A refused insertion makes none. -/
def made? (table : Table) : Call → Option Record
  | .insert given =>
    match (insert given).run table with
    | .ok number _ => some ⟨number, completed table.schema (byKey given)⟩
    | .error _ _ => none
  | _ => none

/-- The table after calls, whether they were refused or not. -/
def afterCalls (table : Table) (calls : List Call) : Table :=
  calls.foldl (fun table call ↦ (table.step call).1) table

/-- The records that calls make, one after another. -/
def made (table : Table) : List Call → List Record
  | [] => []
  | call :: calls => (table.made? call).toList ++ (table.step call).1.made calls

/-! ### One call -/

/-- A refused call leaves the table. -/
theorem step_of_refused (h : Sound table) (hrefused : (table.step call).2 = .error fault) :
    (table.step call).1 = table :=
  have hbefore : SoundAs table.name table := ⟨h, rfl⟩
  (atomic_call call).perform_of_refused hbefore hrefused

/-- A call that is done has done what its action does. -/
theorem run_of_step {reply : Option Nat} (h : (table.step call).2 = .ok reply) :
    call.action.run table = .ok reply (table.step call).1 := by
  rw [step, Action.perform] at h ⊢
  cases hrun : call.action.run table with
  | ok reply' after =>
    rw [hrun] at h
    cases h
    rfl
  | error fault after =>
    rw [hrun] at h
    cases h

/-- A record that is made has the next number, and is appended to the others. -/
theorem step_of_made? (h : table.made? call = some record) :
    record.id = table.nextId ∧ (table.step call).1.nextId = table.nextId + 1 ∧
      (table.step call).1.records = table.records ++ [record] := by
  obtain _ | given | _ | _ := call
  case insert =>
    have hstep : (table.step (.insert given)).1 = ((insert given).perform table).1 :=
      congrArg Prod.fst (Action.perform_map (insert given) some table)
    rw [made?] at h
    split at h
    · next number after hrun =>
      obtain ⟨-, -, -, rfl, rfl⟩ := eq_append_of_insert hrun
      cases h
      rw [hstep, Action.perform, hrun]
      exact ⟨rfl, rfl, rfl⟩
    · cases h
  all_goals cases h

/-- Writing leaves all records, in their order. -/
theorem comesFrom_written (writes : List (String × Value)) (records : List Record)
    (mask : List Bool) : List.Forall₂ ComesFrom (written writes records mask) records := by
  induction records generalizing mask with
  | nil => cases mask <;> exact .nil
  | cons record rest ih =>
    rcases mask with _ | ⟨_ | _, mask⟩
    · exact List.forall₂_refl _
    · exact .cons (refl record) (ih mask)
    · exact .cons ⟨writes, rfl⟩ (ih mask)

/-- **An update leaves all records, in their order**, and the next number. -/
theorem step_updateWhere (h : Sound table) (condition : Condition)
    (assignments : List (String × Option Value)) :
    (table.step (.updateWhere condition assignments)).1.nextId = table.nextId ∧
      List.Forall₂ ComesFrom (table.step (.updateWhere condition assignments)).1.records
        table.records := by
  cases hresult : (table.step (.updateWhere condition assignments)).2 with
  | error fault =>
    rw [step_of_refused h hresult]
    exact ⟨rfl, List.forall₂_refl _⟩
  | ok reply =>
    obtain ⟨count, hrun, -⟩ := Action.exists_run_of_map (run_of_step hresult)
    obtain ⟨mask, changes, -, -, -, indexes, hafter⟩ := exists_mask_of_updateWhere hrun
    rw [hafter]
    exact ⟨rfl, comesFrom_written _ _ _⟩

/-- A call that makes no record leaves some of the records, in their order, and the next number. -/
theorem remain_of_made?_eq_none (h : Sound table) (hnone : table.made? call = none) :
    (table.step call).1.nextId = table.nextId ∧
      SublistForall₂ ComesFrom (table.step call).1.records table.records := by
  cases hresult : (table.step call).2 with
  | error fault =>
    rw [step_of_refused h hresult]
    exact ⟨rfl, refl _⟩
  | ok reply =>
    have hrun := run_of_step hresult
    cases call with
    | addField field =>
      obtain ⟨_, hdeclared, -⟩ := Action.exists_run_of_map hrun
      obtain ⟨-, -, -, hafter⟩ := eq_declare_of_addField hdeclared
      rw [hafter]
      exact ⟨rfl, refl _⟩
    | insert given =>
      obtain ⟨number, hinserted, -⟩ := Action.exists_run_of_map hrun
      rw [made?, hinserted] at hnone
      cases hnone
    | updateWhere condition assignments =>
      obtain ⟨hnext, hrecords⟩ := step_updateWhere h condition assignments
      exact ⟨hnext, List.sublistForall₂_iff.2 ⟨_, hrecords, List.Sublist.refl _⟩⟩
    | deleteWhere condition =>
      obtain ⟨count, hdeleted, -⟩ := Action.exists_run_of_map hrun
      obtain ⟨mask, -, -, hafter⟩ := exists_drop_of_deleteWhere hdeleted
      rw [hafter]
      exact ⟨rfl, List.sublistForall₂_iff.2
        ⟨_, List.forall₂_refl _, spared_sublist table.records mask⟩⟩

/-! ### Many calls -/

/-- The list tells of all records that were ever made: they have the numbers 0, 1, 2 and so on, and
those of the table are some of them, in their order. -/
structure Accounts (log : List Record) (table : Table) : Prop where
  /-- The table is sound. -/
  sound : table.Sound
  /-- Records are numbered in the order in which they were made. -/
  numbered : log.map (·.id) = List.range log.length
  /-- The next number is the next of these. -/
  next : table.nextId = log.length
  /-- The records of the table are some of the list, with values written into them. -/
  remain : SublistForall₂ ComesFrom table.records log

theorem accounts_empty (name : String) : Accounts [] (.empty name) :=
  ⟨sound_empty name, rfl, rfl, .nil⟩

/-- **One call** keeps the account, if the record that it makes is entered. -/
theorem Accounts.step (h : Accounts log table) (call : Call) :
    Accounts (log ++ (table.made? call).toList) (table.step call).1 := by
  cases hmade : table.made? call with
  | none =>
    obtain ⟨hnext, hremain⟩ := remain_of_made?_eq_none h.sound hmade
    rw [Option.toList_none, List.append_nil]
    exact ⟨h.sound.step call, h.numbered, hnext.trans h.next, IsTrans.trans _ _ _ hremain h.remain⟩
  | some record =>
    obtain ⟨hid, hnext, hrecords⟩ := step_of_made? hmade
    refine ⟨h.sound.step call, ?_, ?_, ?_⟩
    · rw [Option.toList_some, List.map_append, List.length_append, List.length_singleton,
        List.range_succ, h.numbered, List.map_singleton, hid, h.next]
    · rw [hnext, h.next, Option.toList_some, List.length_append, List.length_singleton]
    · obtain ⟨kept, hcome, hsub⟩ := List.sublistForall₂_iff.1 h.remain
      rw [hrecords, Option.toList_some]
      exact List.sublistForall₂_iff.2 ⟨kept ++ [record],
        List.rel_append hcome (List.forall₂_refl _), hsub.append (List.Sublist.refl _)⟩

/-- **All calls** keep the account. -/
theorem Accounts.calls (h : Accounts log table) (calls : List Call) :
    Accounts (log ++ table.made calls) (table.afterCalls calls) := by
  induction calls generalizing log table with
  | nil => rwa [made, List.append_nil]
  | cons call rest ih =>
    rw [made, ← List.append_assoc]
    exact ih (h.step call)

/-- A table that calls on a new one lead to. -/
def Reachable (table : Table) : Prop := ∃ name calls, table = afterCalls (.empty name) calls

/-- **Every table that calls lead to is sound.** -/
theorem Reachable.sound (h : Reachable table) : Sound table := by
  obtain ⟨name, calls, rfl⟩ := h
  exact ((accounts_empty name).calls calls).sound

/-- An insertion that is done after calls returns how many records were made. -/
theorem Accounts.eq_length_of_insert (h : Accounts log table) {given : List (String × Value)}
    {number : Nat} {after : Table} (hrun : (insert given).run table = .ok number after) :
    number = log.length := by
  obtain ⟨-, -, -, rfl, -⟩ := eq_append_of_insert hrun
  exact h.next

/-- An update makes no record, and neither does a call that is refused; and the records of the table
keep their numbers and their order. -/
theorem ids_step (h : Sound table)
    (hcall : (∃ fault, (table.step call).2 = .error fault) ∨
      ∃ condition assignments, call = .updateWhere condition assignments) :
    table.made? call = none ∧
      (table.step call).1.records.map (·.id) = table.records.map (·.id) := by
  rcases hcall with ⟨fault, hrefused⟩ | ⟨condition, assignments, rfl⟩
  · rw [step_of_refused h hrefused]
    refine ⟨?_, rfl⟩
    cases hmade : table.made? call with
    | none => rfl
    | some record =>
      -- the next number cannot stay and move on
      have hnext := (step_of_made? hmade).2.1
      rw [step_of_refused h hrefused] at hnext
      omega
  · obtain ⟨-, hrecords⟩ := step_updateWhere h condition assignments
    refine ⟨rfl, ?_⟩
    rw [← List.forall₂_eq_eq_eq, List.forall₂_map_left_iff, List.forall₂_map_right_iff]
    exact hrecords.imp fun _ _ ↦ ComesFrom.id_eq

/-- **Numbers are given out in order, and only once.** After any calls on a new table, the records
that they have made have the numbers 0, 1, 2 and so on, and those of the table are some of them, in
their order. A call that makes a record appends it to the others. An update and a call that is
refused leave the numbers of the records and their order, and the number that the next insertion
returns, however many calls that make no record come before it. -/
theorem numbered_after (name : String) (calls : List Call) :
    let table := afterCalls (.empty name) calls
    let log := made (.empty name) calls
    log.map (·.id) = List.range log.length ∧
      (∃ kept, List.Sublist kept log ∧ List.Forall₂ ComesFrom table.records kept) ∧
      (∀ call record, table.made? call = some record →
        record.id = log.length ∧ (table.step call).1.records = table.records ++ [record]) ∧
      ∀ call, ((∃ fault, (table.step call).2 = .error fault) ∨
          ∃ condition assignments, call = .updateWhere condition assignments) →
        (table.step call).1.records.map (·.id) = table.records.map (·.id) ∧
          ∀ more, made (table.step call).1 more = [] → ∀ given number after,
            (insert given).run (afterCalls (table.step call).1 more) = .ok number after →
              number = log.length := by
  intro table log
  have haccounts : Accounts log table := (accounts_empty name).calls calls
  obtain ⟨kept, hcome, hsub⟩ := List.sublistForall₂_iff.1 haccounts.remain
  refine ⟨haccounts.numbered, ⟨kept, hsub, hcome⟩, fun call record hmade ↦ ?_, fun call hcall ↦ ?_⟩
  · obtain ⟨hid, -, hrecords⟩ := step_of_made? hmade
    exact ⟨hid.trans haccounts.next, hrecords⟩
  · obtain ⟨hnone, hids⟩ := ids_step haccounts.sound hcall
    refine ⟨hids, fun more hmore given number after hrun ↦ ?_⟩
    have hlater := (haccounts.step call).calls more
    rw [hnone, hmore, Option.toList_none, List.append_nil, List.append_nil] at hlater
    exact hlater.eq_length_of_insert hrun

/-- Calls that declare a unique field, insert a record, try to insert another with its value, insert
a second record, and delete both. -/
def emptied : List Call :=
  [.addField ⟨"Level", .int, false, true⟩, .insert [("level", .int 1)], .insert [("LEVEL", .int 1)],
    .insert [("level", .int 2)], .deleteWhere (.ofFilter none)]

/-- A record that is inserted then has a number of its own, also if another call was refused. -/
theorem numbered_after_emptied :
    (made (.empty "Gauge") emptied).map (·.id) = [0, 1] ∧
      (afterCalls (.empty "Gauge") emptied).records = [] ∧
      ∀ given number after,
        (insert given).run
            ((afterCalls (.empty "Gauge") emptied).step (.insert [("x", .int 1)])).1 =
          .ok number after → number = 2 := by
  have hlength : (made (.empty "Gauge") emptied).length = 2 := by decide +kernel
  have hrefused : ((afterCalls (.empty "Gauge") emptied).step (.insert [("x", .int 1)])).2 =
      .error (.fieldNotFound "x") := by decide +kernel
  have hnumbered := numbered_after "Gauge" emptied
  refine ⟨?_, by decide +kernel, fun given number after hrun ↦ ?_⟩
  · rw [hnumbered.1, hlength]
    rfl
  · rw [← hlength]
    exact (hnumbered.2.2.2 _ (.inl ⟨_, hrefused⟩)).2 [] rfl given number after hrun

end Table

end RecordStore
