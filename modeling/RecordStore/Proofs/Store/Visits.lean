import RecordStore.Proofs.Store.Assignment
import RecordStore.Proofs.Store.Insertion

/-!
# Insertions in any order of visits

An insertion goes three times through something that has no order of its own: the values are taken
out of the table in which they were collected, they are checked, and the indexes are visited to enter
the record. `Visits` says in which order each of these is done, and `insertVisiting` is the insertion
that does it so. For values at large the order matters: of two wrong ones, the one that is visited
first decides why the insertion is refused.

It does not matter for what a command inserts (`insert_determined`). The payload has been looked at in
its own order before, entry by entry, and what comes of it are values of the right kinds under
canonical names, which are spellings of themselves: none is refused any more, and none falls together
with another when it is entered again. So it only matters what is found under each name, and that
does not depend on the order.
-/

namespace RecordStore

open RecordStore.Text

/-! ### Visits -/

/-- The orders in which things without an order are visited. -/
structure Visits where
  /-- The order in which values are taken out of those that were collected. -/
  handed : Entries String Value → Entries String Value
  /-- All of them are taken out. -/
  handed_perm : ∀ values, (handed values).Perm values
  /-- The order in which values are checked. -/
  checked : Entries String Value → Entries String Value
  /-- All of them are checked. -/
  checked_perm : ∀ values, (checked values).Perm values
  /-- The order in which the indexes are visited. -/
  indexed : List String → List String
  /-- All of them are visited. -/
  indexed_perm : ∀ keys, (indexed keys).Perm keys

namespace Visits

/-- Everything is visited in the order in which it was entered. -/
def inOrder : Visits where
  handed := id
  handed_perm := .refl
  checked := id
  checked_perm := .refl
  indexed := id
  indexed_perm := .refl

/-- Values are taken out, and indexes visited, in the opposite order. -/
def backwards : Visits where
  handed := List.reverse
  handed_perm := List.reverse_perm
  checked := id
  checked_perm := .refl
  indexed := List.reverse
  indexed_perm := List.reverse_perm

end Visits

namespace Indexes

/-- Adds the value of a record to one index. -/
def addTo (record : Record) (indexes : Indexes) (key : String) : Indexes :=
  indexes.map fun (k, index) ↦ (k, if k = key then index.add k record else index)

/-- Adding to one index after another adds to each of them. -/
theorem foldl_addTo {keys : List String} (hnodup : keys.Nodup) (record : Record)
    (indexes : Indexes) :
    keys.foldl (addTo record) indexes =
      indexes.map fun (k, index) ↦ (k, if k ∈ keys then index.add k record else index) := by
  induction keys generalizing indexes with
  | nil => simp
  | cons key rest ih =>
    obtain ⟨hfresh, hrest⟩ := List.nodup_cons.1 hnodup
    rw [List.foldl_cons, ih hrest, addTo, List.map_map]
    refine List.map_congr_left fun e _ ↦ ?_
    by_cases heq : e.1 = key
    · simp [heq, hfresh]
    · simp [heq]

/-- **Indexes can be visited in any order.** -/
theorem foldl_addTo_eq_add {indexes : Indexes} (hnodup : indexes.keys.Nodup) {keys : List String}
    (h : keys.Perm indexes.keys) (record : Record) :
    keys.foldl (addTo record) indexes = indexes.add record := by
  rw [foldl_addTo (h.nodup_iff.2 hnodup), add]
  refine List.map_congr_left fun e hmem ↦ ?_
  have hkey : e.1 ∈ keys := h.mem_iff.2 (List.mem_map_of_mem hmem)
  simp [hkey]

end Indexes

/-! ### Insertions that visit -/

namespace Table

/-- Inserts a record with the given values, visiting what has no order as the visits say. -/
def insertVisiting (visits : Visits) (given : Entries String Value) : Action Table Nat := do
  let table ← get
  let given := byKey (visits.handed given)
  liftExcept (admitAll table.schema (visits.checked given))
  if let some field := firstMissing? table.schema given then
    throw (.missingRequired field.name)
  let values := completed table.schema given
  if let some field := table.firstTaken? values then
    throw (.duplicateValue field.name)
  modify fun table ↦ { table with nextId := table.nextId + 1 }
  let record : Record := ⟨table.nextId, values⟩
  modify fun table ↦
    { table with
      indexes := (visits.indexed table.indexes.keys).foldl (Indexes.addTo record) table.indexes }
  modify fun table ↦ { table with records := table.records ++ [record] }
  return record.id

/-- Of two values for unknown fields, the one that is visited first is reported. -/
example :
    let given := [("height", .int 1), ("width", .int 2)]
    ((insertVisiting .inOrder given).perform (.empty "Door")).2 = .error (.fieldNotFound "height") ∧
    ((insertVisiting .backwards given).perform (.empty "Door")).2 =
      .error (.fieldNotFound "width") := by
  decide +kernel

variable {table : Table} {schema : Schema} {given others : Entries String Value}

theorem firstMissing?_of_perm (hnodup : given.keys.Nodup) (h : others.Perm given) :
    firstMissing? schema others = firstMissing? schema given := by
  refine List.find?_congr fun field _ ↦ ?_
  rw [Entries.lookup_of_perm hnodup h]

theorem completed_of_perm (hnodup : given.keys.Nodup) (h : others.Perm given) :
    completed schema others = completed schema given := by
  refine List.map_congr_left fun field _ ↦ ?_
  rw [Entries.lookup_of_perm hnodup h]

/-- What is admitted in one order is admitted in any. -/
theorem admitAll_of_perm (h : others.Perm given) (hgiven : admitAll schema given = .ok ()) :
    admitAll schema others = .ok () :=
  admitAll_of_forall fun _ he ↦ admitAll_eq_ok hgiven (h.mem_iff.1 he)

/-- Values under canonical names are entered as they are. -/
theorem byKey_of_canonical {given : List (String × Value)}
    (hcanonical : ∀ e ∈ given, canonical e.1 = e.1) : byKey given = Entries.ofList given := by
  have hmap : (given.map fun e ↦ (canonical e.1, e.2)) = given := by
    refine (List.map_congr_left fun e he ↦ ?_).trans (List.map_id given)
    exact Prod.ext (hcanonical e he) rfl
  exact congrArg Entries.ofList hmap

/-- Entering what was collected under canonical names, in any order, changes no more than the order. -/
theorem byKey_of_perm (hnodup : given.keys.Nodup) (hcanonical : ∀ e ∈ given, canonical e.1 = e.1)
    (h : others.Perm given) : byKey others = others := by
  rw [byKey_of_canonical fun e he ↦ hcanonical e (h.mem_iff.1 he),
    Entries.ofList_of_nodup ((h.map Prod.fst).nodup_iff.2 hnodup)]

/-- **Values that are admitted, under canonical names, can be visited in any order.** -/
theorem run_insertVisiting (h : Sound table) (visits : Visits) {given : List (String × Value)}
    (hcanonical : ∀ e ∈ given, canonical e.1 = e.1)
    (hadmitted : admitAll table.schema (byKey given) = .ok ()) :
    (insertVisiting visits (Entries.ofList given)).run table = (insert given).run table := by
  have hnodup := Entries.nodup_keys_ofList given
  have hhanded := visits.handed_perm (Entries.ofList given)
  have hkey := byKey_of_perm hnodup
    (fun e he ↦ hcanonical e (Entries.mem_of_mem_ofList he)) hhanded
  rw [byKey_of_canonical hcanonical] at hadmitted
  have hchecked := admitAll_of_perm ((visits.checked_perm _).trans hhanded) hadmitted
  have hindexes : table.indexes.keys.Nodup := by
    rw [h.indexed, Indexes.keys_ofRecords]
    exact h.nodup.sublist (Schema.uniqueKeys_sublist table.schema)
  rw [run_insert, byKey_of_canonical hcanonical, hadmitted]
  simp only [insertVisiting, EStateM.run_bind, EStateM.run_get, Action.run_liftExcept, hkey,
    hchecked, firstMissing?_of_perm hnodup hhanded, completed_of_perm hnodup hhanded]
  cases firstMissing? table.schema (Entries.ofList given) with
  | some field => rfl
  | none =>
    cases table.firstTaken? (completed table.schema (Entries.ofList given)) with
    | some field => rfl
    | none =>
      have hadd := Indexes.foldl_addTo_eq_add hindexes (visits.indexed_perm table.indexes.keys)
        ⟨table.nextId, completed table.schema (Entries.ofList given)⟩
      rw [append, ← hadd]
      rfl

end Table

/-! ### Insertions of payloads -/

open Store (givenValues)

/-- The names under which coercion gives values are canonical. -/
theorem Schema.canonical_of_coerces {schema : Schema} {values : List (String × Payload)}
    {assignments : List (String × Option Value)}
    (h : List.Forall₂ schema.Coerces values assignments) :
    ∀ e ∈ givenValues assignments, canonical e.1 = e.1 := by
  intro e he
  obtain ⟨⟨key, value⟩, hmem, hsome⟩ := List.mem_filterMap.1 he
  obtain ⟨v, rfl, rfl⟩ := Option.map_eq_some_iff.1 hsome
  obtain ⟨field, -, rfl, -⟩ := exists_field_of_coerces h hmem
  exact field.canonical_key

namespace Store

variable {store : Store} {table : Table} {type : String} {values : List (String × Payload)}

/-- Inserts a record with the values of a payload, visiting what has no order as the visits say. -/
def insertVisiting (visits : Visits) (type : String) (values : List (String × Payload)) :
    Action Store String :=
  within type do
    let table ← get
    let assignments ← liftExcept (table.schema.coerce values)
    let _ ← Table.insertVisiting visits (Entries.ofList (givenValues assignments))
    return "Instance inserted into '" ++ table.name ++ "'."

/-- The checks of the table find nothing wrong with what a payload was coerced to, in whatever order
it is handed to them. -/
theorem admitAll_visiting (hnodup : table.schema.keys.Nodup)
    {assignments : List (String × Option Value)} (h : table.schema.coerce values = .ok assignments)
    {handed checked : Entries String Value}
    (hhanded : handed.Perm (Entries.ofList (givenValues assignments)))
    (hchecked : checked.Perm (Table.byKey handed)) :
    Table.admitAll table.schema checked = .ok () := by
  cases hrefused : values.findSome? table.schema.refusal? with
  | some fault =>
    rw [Schema.coerce_of_refusal hrefused] at h
    cases h
  | none =>
    obtain ⟨others, hcoerce, hall⟩ := (Schema.accepts_iff.2 hrefused).exists_coerce
    obtain rfl : others = assignments := Except.ok.inj (hcoerce.symm.trans h)
    have hcanonical := Schema.canonical_of_coerces hall
    have hadmitted := Schema.admitAll_of_coerces hnodup hall
    rw [Table.byKey_of_canonical hcanonical] at hadmitted
    rw [Table.byKey_of_perm (Entries.nodup_keys_ofList _)
      (fun e he ↦ hcanonical e (Entries.mem_of_mem_ofList he)) hhanded] at hchecked
    exact Table.admitAll_of_perm (hchecked.trans hhanded) hadmitted

/-- A payload is inserted in the same way whatever is visited first. -/
theorem perform_insertVisiting (hstore : Sound store) (visits : Visits) (type : String)
    (values : List (String × Payload)) :
    (insertVisiting visits type values).perform store =
      (apply (.insert type values)).perform store := by
  rw [insertVisiting, apply, perform_within, perform_within]
  cases hfound : store.table? type with
  | none => rfl
  | some table =>
    have hsound := hstore.sound _ table (hstore.table?_eq_some_iff.1 hfound)
    simp only [Action.perform, EStateM.run_bind, EStateM.run_get, Action.run_liftExcept]
    cases hrefused : values.findSome? table.schema.refusal? with
    | some fault => rw [Schema.coerce_of_refusal hrefused]
    | none =>
      obtain ⟨assignments, hcoerce, hall⟩ := (Schema.accepts_iff.2 hrefused).exists_coerce
      rw [hcoerce]
      dsimp only
      rw [Table.run_insertVisiting hsound visits (Schema.canonical_of_coerces hall)
        (Schema.admitAll_of_coerces hsound.nodup hall)]

/-- **What an insertion does is settled**, whatever order things without an order are visited in. In
a store that calls lead to, the first entry of the payload decides that names no field or gives a
field something that it cannot hold; if there is none, then the first field that is required and
given nothing; if there is none, then the first unique field whose new value a record holds; and if
there is none of these either, then one record is appended, which holds in each field the last value
given or the default. The checks of the table for unknown fields and wrong kinds never decide. -/
theorem insert_determined (calls : List Call) (visits : Visits) (type : String)
    (values : List (String × Payload)) :
    let store := after calls
    (insertVisiting visits type values).perform store =
        (apply (.insert type values)).perform store ∧
      (insertVisiting visits type values).perform store =
        (match store.table? type with
        | none => (store, .error (.typeNotFound type))
        | some table =>
          match values.findSome? table.schema.refusal? with
          | some fault => (store, .error fault)
          | none =>
            match table.schema.firstUngiven? values with
            | some field => (store, .error (.missingRequired field.name))
            | none =>
              match table.firstHeld? values with
              | some field => (store, .error (.duplicateValue field.name))
              | none => (store.set type (table.append (table.schema.newValues values)),
                  .ok ("Instance inserted into '" ++ table.name ++ "'."))) ∧
      ∀ table, store.table? type = some table →
        ∀ assignments, table.schema.coerce values = .ok assignments →
          ∀ handed, handed.Perm (Entries.ofList (givenValues assignments)) →
            ∀ checked, checked.Perm (Table.byKey handed) →
              Table.admitAll table.schema checked = .ok () := by
  intro store
  have hstore : Sound store := sound_after calls
  have hvisiting := perform_insertVisiting hstore visits type values
  refine ⟨hvisiting, ?_, fun table hfound assignments hcoerce handed hhanded checked hchecked ↦ ?_⟩
  · rw [hvisiting]
    cases hfound : store.table? type with
    | none =>
      rw [apply, perform_within, hfound]
    | some table =>
      dsimp only
      cases hrefused : values.findSome? table.schema.refusal? with
      | some fault =>
        refine perform_insert_of_refusal? hstore ?_
        rw [refusal?, hfound, Option.bind_some, hrefused]
      | none => exact perform_insert hstore hfound (Schema.accepts_iff.2 hrefused)
  · have hsound := hstore.sound _ table (hstore.table?_eq_some_iff.1 hfound)
    exact admitAll_visiting hsound.nodup hcoerce hhanded hchecked

end Store

end RecordStore
