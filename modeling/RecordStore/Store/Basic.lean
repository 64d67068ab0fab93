import RecordStore.Table.Change

/-!
# Stores

A store holds the tables of all types by the canonical names of the types. It lists them in the
order of those names, so that two stores with the same tables are equal however they came about.
-/

namespace RecordStore

open RecordStore.Text

/-- The tables of all types. -/
structure Store where
  /-- The tables by canonical name, in the order of the names. -/
  tables : Entries String Table
  deriving DecidableEq

namespace Store

/-- The store without types. -/
def empty : Store := ⟨[]⟩

/-- The table of a type, by any spelling of its name. -/
def table? (store : Store) (name : String) : Option Table := store.tables.lookup (canonical name)

/-- Enters a table under a key among keys in rising order: in place of the one that has the key,
else before the first greater key. -/
def enter (key : String) (table : Table) : Entries String Table → Entries String Table
  | [] => [(key, table)]
  | (k, other) :: rest =>
    if key = k then (k, table) :: rest
    else if key < k then (key, table) :: (k, other) :: rest
    else (k, other) :: enter key table rest

/-- The store with a table replaced or added. -/
def set (store : Store) (name : String) (table : Table) : Store :=
  ⟨enter (canonical name) table store.tables⟩

theorem lookup_enter_self (key : String) (table : Table) (tables : Entries String Table) :
    (enter key table tables).lookup key = some table := by
  induction tables with
  | nil => simp [enter]
  | cons e rest ih =>
    obtain ⟨k, u⟩ := e
    unfold enter
    split
    · next h => simp [h]
    · next h =>
      split
      · simp
      · simpa [List.lookup_cons, beq_false_of_ne h] using ih

theorem lookup_enter_of_ne {key other : String} (h : other ≠ key) (table : Table)
    (tables : Entries String Table) :
    (enter key table tables).lookup other = tables.lookup other := by
  induction tables with
  | nil => simp [enter, List.lookup_cons, beq_false_of_ne h]
  | cons e rest ih =>
    obtain ⟨k, u⟩ := e
    unfold enter
    split
    · next hk => simp [List.lookup_cons, beq_false_of_ne (hk ▸ h : other ≠ k)]
    · split
      · simp [List.lookup_cons, beq_false_of_ne h]
      · simp [List.lookup_cons, ih]

theorem table?_set_self (store : Store) {name other : String}
    (h : canonical other = canonical name) (table : Table) :
    (store.set name table).table? other = some table := by
  rw [table?, h]
  exact lookup_enter_self _ _ _

theorem table?_set_of_ne (store : Store) {name other : String}
    (h : canonical other ≠ canonical name) (table : Table) :
    (store.set name table).table? other = store.table? other :=
  lookup_enter_of_ne h _ _

/-- The table of a type that has to exist. -/
def table (store : Store) (name : String) : Except Fault Table :=
  match store.table? name with
  | some table => .ok table
  | none => .error (.typeNotFound name)

/-- Works on the table of a type in place: what is done to the table is done to the store, also when
the action is refused afterwards. -/
def within {α : Type} (type : String) (action : Action Table α) : Action Store α := do
  let store ← get
  let table ← liftExcept (store.table type)
  let (table, result) := action.perform table
  -- the table is written back in any case, as far as the action has come
  modify (·.set type table)
  liftExcept result

/-- Creates a type with the given fields, and returns its table. The fields are declared one after
another, in a table that the store does not have yet. -/
def createType (name : String) (fields : List Field) : Action Store Table := do
  let store ← get
  if (store.table? name).isSome then
    throw (.typeExists name)
  if fields.isEmpty then
    throw .noFields
  let (_, table) ← Action.apart (.empty (trim name)) (fields.forM Table.addField)
  modify (·.set name table)
  return table

end Store

end RecordStore
