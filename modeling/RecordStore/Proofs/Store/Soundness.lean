import RecordStore.Proofs.Table.Calls
import RecordStore.Store.Execution

/-!
# Sound stores

A store is sound if its tables are, each is entered under the canonical form of its own name, and
the names are listed in rising order (`Store.Sound`). The order is what makes writing back a table
that has not changed leave the store as it was (`set_eq_self`), and so what carries "a refused
action does nothing" from a table to the store that it is in (`atomic_within`).

`Store.Call` are the calls that a store takes, and `Store.after` is the store that any sequence of
them leads to, refused or not. It is always sound (`sound_after`).
-/

namespace RecordStore.Store

open RecordStore.Text
open RecordStore.Action (Atomic)
open Table (SoundAs)

/-! ### Entering a table -/

variable {tables : Entries String Table} {key : String} {table : Table}

theorem mem_enter {e : String × Table} (h : e ∈ enter key table tables) :
    e = (key, table) ∨ e ∈ tables := by
  induction tables with
  | nil => exact .inl (List.mem_singleton.1 h)
  | cons first rest ih =>
    obtain ⟨k, other⟩ := first
    rw [enter] at h
    split at h
    · next heq =>
      rw [heq]
      exact (List.mem_cons.1 h).imp_right (List.mem_cons_of_mem _)
    · split at h
      · exact List.mem_cons.1 h
      · rcases List.mem_cons.1 h with rfl | h
        · exact .inr List.mem_cons_self
        · exact (ih h).imp_right (List.mem_cons_of_mem _)

/-- Entering keeps the keys in rising order. -/
theorem rising_enter (h : tables.keys.Pairwise (· < ·)) :
    (enter key table tables).keys.Pairwise (· < ·) := by
  induction tables with
  | nil => exact List.pairwise_singleton _ key
  | cons first rest ih =>
    obtain ⟨k, other⟩ := first
    obtain ⟨hfirst, hrest⟩ := List.pairwise_cons.1 h
    rw [enter]
    split
    · exact h
    · next hne =>
      split
      · next hlt =>
        refine List.pairwise_cons.2 ⟨fun l hl ↦ ?_, h⟩
        rcases List.mem_cons.1 hl with rfl | hl
        · exact hlt
        · exact String.lt_trans hlt (hfirst l hl)
      · next hge =>
        have hlt : k < key := by
          -- neither equal nor smaller
          rw [← String.not_le]
          exact fun hle ↦ hne (String.le_antisymm hle (String.not_lt.1 hge))
        refine List.pairwise_cons.2 ⟨fun l hl ↦ ?_, ih hrest⟩
        obtain ⟨u, hu⟩ := Entries.mem_keys.1 hl
        rcases mem_enter hu with heq | hu
        · rw [Prod.mk.injEq] at heq
          rw [heq.1]
          exact hlt
        · exact hfirst l (Entries.mem_keys.2 ⟨u, hu⟩)

/-- A table that is entered already stays as it is. -/
theorem enter_eq_self (h : tables.keys.Pairwise (· < ·)) (hmem : (key, table) ∈ tables) :
    enter key table tables = tables := by
  induction tables with
  | nil => cases hmem
  | cons first rest ih =>
    obtain ⟨k, other⟩ := first
    obtain ⟨hfirst, hrest⟩ := List.pairwise_cons.1 h
    rw [enter]
    rcases List.mem_cons.1 hmem with heq | hmem
    · rw [Prod.mk.injEq] at heq
      rw [if_pos heq.1, heq.2]
    · have hlt : k < key := hfirst key (Entries.mem_keys.2 ⟨table, hmem⟩)
      have hne : key ≠ k := by
        rintro rfl
        exact String.lt_irrefl key hlt
      have hge : ¬ key < k := fun hgt ↦ String.lt_irrefl k (String.lt_trans hlt hgt)
      rw [if_neg hne, if_neg hge, ih hrest hmem]

/-! ### Soundness -/

/-- What holds of a store at every moment between two calls. -/
structure Sound (store : Store) : Prop where
  /-- The tables are listed by canonical name. -/
  rising : store.tables.keys.Pairwise (· < ·)
  /-- Every table is entered under its own name. -/
  named : ∀ key table, (key, table) ∈ store.tables → key = canonical table.name
  /-- Every table is sound. -/
  sound : ∀ key table, (key, table) ∈ store.tables → table.Sound

variable {store : Store} {type : String}

theorem sound_empty : Sound .empty :=
  ⟨List.Pairwise.nil, fun _ _ h ↦ absurd h List.not_mem_nil, fun _ _ h ↦ absurd h List.not_mem_nil⟩

theorem Sound.nodup (h : Sound store) : store.tables.keys.Nodup := by
  refine h.rising.imp fun {a b} hlt ↦ ?_
  rintro rfl
  exact String.lt_irrefl a hlt

/-- **Finding a table** by any spelling of its name. -/
theorem Sound.table?_eq_some_iff (h : Sound store) :
    store.table? type = some table ↔ (canonical type, table) ∈ store.tables :=
  Entries.lookup_eq_some_iff_mem h.nodup

/-- Writing back what is there changes nothing. -/
theorem set_eq_self (h : Sound store) (hfound : store.table? type = some table) :
    store.set type table = store := by
  rw [set, enter_eq_self h.rising (h.table?_eq_some_iff.1 hfound)]

theorem Sound.set (h : Sound store) (htable : table.Sound)
    (hname : canonical table.name = canonical type) : Sound (store.set type table) where
  rising := rising_enter h.rising
  named key u hmem := by
    rcases mem_enter hmem with heq | hmem
    · rw [Prod.mk.injEq] at heq
      rw [heq.1, heq.2]
      exact hname.symm
    · exact h.named key u hmem
  sound key u hmem := by
    rcases mem_enter hmem with heq | hmem
    · rw [Prod.mk.injEq] at heq
      rw [heq.2]
      exact htable
    · exact h.sound key u hmem

/-! ### Working on a table of the store -/

theorem run_within {α : Type} (type : String) (action : Action Table α) (store : Store) :
    (within type action).run store =
      match store.table? type with
      | none => .error (.typeNotFound type) store
      | some table =>
        match action.run table with
        | .ok a after => .ok a (store.set type after)
        | .error fault after => .error fault (store.set type after) := by
  rw [within, EStateM.run_bind, EStateM.run_get]
  show (liftExcept (store.table type) >>= _ : Action Store α).run store = _
  rw [EStateM.run_bind, Action.run_liftExcept, Store.table]
  cases store.table? type with
  | none => rfl
  | some table =>
    simp only [Action.perform]
    cases action.run table <;> rfl

/-- What an action on a table does to the store, whether it is refused or not. -/
theorem perform_within {α : Type} (type : String) (action : Action Table α) (store : Store) :
    (within type action).perform store =
      match store.table? type with
      | none => (store, .error (.typeNotFound type))
      | some table => (store.set type (action.perform table).1, (action.perform table).2) := by
  rw [Action.perform, run_within]
  cases store.table? type with
  | none => rfl
  | some table =>
    simp only [Action.perform]
    cases action.run table <;> rfl

/-- **An action on a table is atomic on the store** if it is on every sound table. -/
theorem atomic_within {α : Type} {action : Action Table α}
    (h : ∀ name, Atomic (SoundAs name) action) : Atomic Sound (within type action) where
  keeps {store a after} hstore hrun := by
    rw [run_within] at hrun
    split at hrun
    · cases hrun
    · next table hfound =>
      have hmem := hstore.table?_eq_some_iff.1 hfound
      have hbefore : SoundAs table.name table := ⟨hstore.sound _ table hmem, rfl⟩
      split at hrun
      · next a afterTable hrunTable =>
        cases hrun
        have hafter := (h table.name).keeps hbefore hrunTable
        refine hstore.set hafter.sound ?_
        rw [hafter.name_eq, ← hstore.named _ table hmem]
      · cases hrun
  undone {store fault after} hstore hrun := by
    rw [run_within] at hrun
    split at hrun
    · cases hrun
      rfl
    · next table hfound =>
      have hmem := hstore.table?_eq_some_iff.1 hfound
      have hbefore : SoundAs table.name table := ⟨hstore.sound _ table hmem, rfl⟩
      split at hrun
      · cases hrun
      · next fault afterTable hrunTable =>
        cases hrun
        -- the table is written back as it was found
        rw [(h table.name).undone hbefore hrunTable]
        exact set_eq_self hstore hfound

/-! ### Creating a type -/

theorem run_createType (name : String) (fields : List Field) (store : Store) :
    (createType name fields).run store =
      if (store.table? name).isSome then .error (.typeExists name) store
      else if fields.isEmpty then .error .noFields store
      else
        match (fields.forM Table.addField).run (.empty (trim name)) with
        | .error fault _ => .error fault store
        | .ok _ table => .ok table (store.set name table) := by
  rw [createType, EStateM.run_bind, EStateM.run_get]
  by_cases hexists : (store.table? name).isSome
  · simp only [if_pos hexists]
    rfl
  by_cases hnone : fields.isEmpty
  · simp only [if_neg hexists, if_pos hnone]
    rfl
  simp only [if_neg hexists, if_neg hnone, Action.apart]
  cases (fields.forM Table.addField).run (.empty (trim name)) <;> rfl

theorem perform_createType (name : String) (fields : List Field) (store : Store) :
    (createType name fields).perform store =
      if (store.table? name).isSome then (store, .error (.typeExists name))
      else if fields.isEmpty then (store, .error .noFields)
      else
        match (fields.forM Table.addField).run (.empty (trim name)) with
        | .error fault _ => (store, .error fault)
        | .ok _ table => (store.set name table, .ok table) := by
  rw [Action.perform, run_createType]
  by_cases hexists : (store.table? name).isSome
  · rw [if_pos hexists, if_pos hexists]
  rw [if_neg hexists, if_neg hexists]
  by_cases hnone : fields.isEmpty
  · rw [if_pos hnone, if_pos hnone]
  rw [if_neg hnone, if_neg hnone]
  cases (fields.forM Table.addField).run (.empty (trim name)) <;> rfl

theorem atomic_createType (name : String) (fields : List Field) :
    Atomic Sound (createType name fields) where
  keeps {store table after} hstore hrun := by
    rw [run_createType] at hrun
    split at hrun
    · cases hrun
    split at hrun
    · cases hrun
    split at hrun
    · cases hrun
    · next u table hdeclared =>
      cases hrun
      have hempty : SoundAs (trim name) (.empty (trim name)) := ⟨Table.sound_empty _, rfl⟩
      have htable : SoundAs (trim name) table :=
        Action.keeps_forM (fun field _ ↦ (Table.atomic_addField field).keeps) hempty hdeclared
      refine hstore.set htable.sound ?_
      rw [htable.name_eq, canonical_trim]
  undone {store fault after} _ hrun := by
    rw [run_createType] at hrun
    repeat' split at hrun
    all_goals cases hrun <;> rfl

/-! ### Commands -/

theorem atomic_apply (statement : Statement) : Atomic Sound (apply statement) := by
  cases statement with
  | create type fields => exact (atomic_createType type fields).map _
  | insert type values =>
    refine atomic_within fun _ ↦ Atomic.get_bind fun table ↦ Atomic.check_bind _ fun given _ ↦ ?_
    exact (Table.atomic_insert _).map _
  | update type filter values =>
    refine atomic_within fun _ ↦ Atomic.get_bind fun table ↦ Atomic.check_bind _ fun given _ ↦ ?_
    refine Atomic.check_bind _ fun _ _ ↦ ?_
    exact (Table.atomic_updateWhere _ _).map _
  | delete type filter =>
    refine atomic_within fun _ ↦ Atomic.get_bind fun table ↦ Atomic.check_bind _ fun _ _ ↦ ?_
    exact (Table.atomic_deleteWhere _).map _
  | search type filter => exact Atomic.get_bind fun store ↦ (Atomic.check _).map _

theorem atomic_execute (line : String) : Atomic Sound (execute line) :=
  Atomic.check_bind _ fun statement _ ↦ atomic_apply statement

theorem sound_step (h : Sound store) (line : String) : Sound (step store line).1 :=
  (atomic_execute line).perform h

/-- A refused line leaves the store. -/
theorem step_of_refused (h : Sound store) {line : String} {fault : Fault}
    (hrefused : (step store line).2 = .error fault) : step store line = (store, .error fault) :=
  Prod.ext ((atomic_execute line).perform_of_refused h hrefused) hrefused

/-! ### Any call -/

/-- A call that a store takes, with all that it is given. -/
inductive Call where
  /-- Executes a line of text. -/
  | execute (line : String)
  /-- Creates a type. -/
  | createType (name : String) (fields : List Field)
  /-- Changes the table of a type. -/
  | change (type : String) (call : Table.Call)

/-- What a call does. Its result is left out. -/
def Call.action : Call → Action Store Unit
  | execute line => do
    let _ ← Store.execute line
    return ()
  | createType name fields => do
    let _ ← Store.createType name fields
    return ()
  | change type call => do
    let _ ← within type call.action
    return ()

/-- The store that calls lead to, one after another, from the store without types. The calls that
are refused count too, for what they may have done. -/
def after (calls : List Call) : Store :=
  calls.foldl (fun store call ↦ (call.action.perform store).1) .empty

theorem atomic_call (call : Call) : Atomic Sound call.action := by
  cases call with
  | execute line => exact (atomic_execute line).map _
  | createType name fields => exact (atomic_createType name fields).map _
  | change type call => exact (atomic_within fun _ ↦ Table.atomic_call call).map _

theorem sound_foldl (calls : List Call) {store : Store} (h : Sound store) :
    Sound (calls.foldl (fun store call ↦ (call.action.perform store).1) store) := by
  induction calls generalizing store with
  | nil => exact h
  | cons call rest ih => exact ih ((atomic_call call).perform h)

/-- **Every store that calls lead to is sound.** -/
theorem sound_after (calls : List Call) : Sound (after calls) :=
  sound_foldl calls sound_empty

end RecordStore.Store
