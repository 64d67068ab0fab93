import RecordStore.Proofs.Store.Coercion
import RecordStore.Proofs.Store.Soundness

/-!
# Updating records

An update assigns to each field that its payload names what the last entry for the field asks for
(`lookup_changesOf`), and looks at the fields in the order of first mention (`keys_changesOf`). Once
the payload is accepted and the filter says which records are meant, either one of these
assignments breaks a constraint, or all of them are made (`perform_update`).

Whether an assignment breaks a constraint has nothing to do with the others: it would do so alone
(`faultAlone_eq`). So an update that is refused for a constraint is refused for the first field, in
the order of first mention, whose assignment alone would be refused (`FirstBroken`).
-/

namespace RecordStore

open RecordStore.Text

namespace Payload

/-- The last entry for a field. -/
def last? (key : String) (values : List (String × Payload)) : Option (String × Payload) :=
  values.reverse.find? fun entry ↦ canonical entry.1 == key

/-- The fields that a payload names, in the order of first mention. -/
def mentioned (values : List (String × Payload)) : List String :=
  (values.map fun entry ↦ canonical entry.1).eraseDups

variable {values : List (String × Payload)} {entry : String × Payload}

theorem last?_eq_some {key : String} (h : last? key values = some entry) :
    entry ∈ values ∧ canonical entry.1 = key :=
  ⟨List.mem_reverse.1 (List.mem_of_find?_eq_some h), by simpa using List.find?_some h⟩

end Payload

open Payload (last? mentioned)

variable {schema : Schema} {values : List (String × Payload)}

/-! ### What is assigned -/

namespace Schema

/-- Every entry of a payload that is accepted asks for a change. -/
theorem Accepts.exists_change (h : schema.Accepts values) {entry : String × Payload}
    (hmem : entry ∈ values) :
    ∃ change, schema.change? entry = some change ∧ change.1 = canonical entry.1 := by
  obtain ⟨field, hfound, -⟩ := h entry hmem
  have hchange : schema.change? entry =
      some (field.key, field, (field.kind.ofPayload entry.2).toOption) := by
    rw [change?, hfound, Option.map_some]
  exact ⟨_, hchange, key_of_change? hchange⟩

/-- **What an update assigns** to a field is what the last entry for it asks for. -/
theorem lookup_changesOf (h : schema.Accepts values) (key : String) :
    (schema.changesOf values).lookup key =
      ((last? key values).bind schema.change?).map Prod.snd := by
  rw [changesOf, Entries.lookup_ofList, ← List.filterMap_reverse, last?]
  exact Entries.lookup_filterMap (fun e he ↦ h.exists_change (List.mem_reverse.1 he)) key

/-- The fields that an update assigns are those that its payload names. -/
theorem keys_changesOf (h : schema.Accepts values) :
    (schema.changesOf values).keys = mentioned values := by
  rw [changesOf, Entries.keys_ofList, mentioned]
  exact congrArg List.eraseDups (Entries.keys_filterMap fun e he ↦ h.exists_change he)

theorem Accepts.assigns (hnodup : schema.keys.Nodup) (h : schema.Accepts values) :
    Table.Assigns schema (schema.changesOf values) := by
  obtain ⟨assignments, -, hall⟩ := h.exists_coerce
  exact Table.assigns_of_changes .nil (changes_of_coerces hnodup hall)

end Schema

namespace Store

open Table (picked broken? toWrite)

variable {store : Store} {table : Table} {type : String} {filter : Option Filter}

/-! ### Refused payloads -/

/-- The fault of the first entry that the schema of a type refuses. -/
def refusal? (store : Store) (type : String) (values : List (String × Payload)) : Option Fault :=
  (store.table? type).bind fun table ↦ values.findSome? table.schema.refusal?

theorem accepts_of_refusal? (h : store.refusal? type values = none)
    (hfound : store.table? type = some table) : table.schema.Accepts values := by
  rw [refusal?, hfound, Option.bind_some] at h
  exact Schema.accepts_iff.2 h

/-- What begins with the coercion of a payload is refused for the first entry that is. -/
theorem perform_of_refusal? {α : Type} (hstore : Sound store) {fault : Fault}
    (h : store.refusal? type values = some fault)
    (rest : Table → List (String × Option Value) → Action Table α) :
    (within type do
      let table ← get
      let assignments ← liftExcept (table.schema.coerce values)
      rest table assignments).perform store = (store, .error fault) := by
  obtain ⟨table, hfound, hfirst⟩ := Option.bind_eq_some_iff.1 h
  rw [Action.perform, run_within, hfound]
  simp only [EStateM.run_bind, EStateM.run_get, Action.run_liftExcept,
    Schema.coerce_of_refusal hfirst]
  show (store.set type table, _) = _
  rw [set_eq_self hstore hfound]

theorem perform_insert_of_refusal? (hstore : Sound store) {fault : Fault}
    (h : store.refusal? type values = some fault) :
    (apply (.insert type values)).perform store = (store, .error fault) :=
  perform_of_refusal? hstore h _

theorem perform_update_of_refusal? (hstore : Sound store) {fault : Fault}
    (h : store.refusal? type values = some fault) :
    (apply (.update type filter values)).perform store = (store, .error fault) :=
  perform_of_refusal? hstore h _

/-! ### Updates -/

/-- **What an update comes to**, once its payload is accepted. -/
theorem perform_update (hstore : Sound store) (hfound : store.table? type = some table)
    (h : table.schema.Accepts values) :
    (apply (.update type filter values)).perform store =
      match table.schema.admitFilter filter with
      | .error fault => (store, .error fault)
      | .ok _ =>
        match table.matching (.ofFilter filter) with
        | .error fault => (store, .error fault)
        | .ok mask =>
          if (picked table.records mask).isEmpty then (store, .ok "0 instances updated.")
          else
            match (table.schema.changesOf values).findSome?
              (broken? table.indexes ((picked table.records mask).map (·.id))) with
            | some fault => (store, .error fault)
            | none =>
              (store.set type (table.rewrite ((table.schema.changesOf values).map toWrite) mask),
                .ok (toString (picked table.records mask).length ++ " instances updated.")) := by
  have hsound := hstore.sound _ table (hstore.table?_eq_some_iff.1 hfound)
  obtain ⟨assignments, hcoerce, hall⟩ := h.exists_coerce
  have hself : store.set type table = store := set_eq_self hstore hfound
  rw [Action.perform, apply, run_within, hfound]
  simp only [EStateM.run_bind, EStateM.run_get, Action.run_liftExcept, hcoerce,
    Table.run_updateWhere, Table.writes_eq_findSome?]
  cases table.schema.admitFilter filter with
  | error fault => exact congrArg (·, _) hself
  | ok _ =>
    dsimp only
    rw [Schema.changes_of_coerces hsound.nodup hall]
    cases table.matching (.ofFilter filter) with
    | error fault => exact congrArg (·, _) hself
    | ok mask =>
      dsimp only
      by_cases hnone : (picked table.records mask).isEmpty
      · rw [if_pos hnone, if_pos hnone]
        exact congrArg (·, _) hself
      rw [if_neg hnone, if_neg hnone]
      cases (table.schema.changesOf values).findSome?
          (broken? table.indexes ((picked table.records mask).map (·.id))) with
      | some fault => exact congrArg (·, _) hself
      | none => rfl

/-- The fault of what was refused. -/
def fault? {α : Type} : Except Fault α → Option Fault
  | .ok _ => none
  | .error fault => some fault

/-- The fault for which an update is refused that assigns to one field only, and what the payload
assigns to it last. -/
def faultAlone (store : Store) (type : String) (filter : Option Filter)
    (values : List (String × Payload)) (key : String) : Option Fault :=
  (last? key values).bind fun entry ↦
    fault? ((apply (.update type filter [entry])).perform store).2

/-- The update is refused for a constraint, and for that of the first field, in the order of first
mention, whose assignment alone would be refused. -/
def FirstBroken (store : Store) (type : String) (filter : Option Filter)
    (values : List (String × Payload)) : Prop :=
  ∃ fault, ((apply (.update type filter values)).perform store).2 = .error fault ∧
    fault.category = .constraint ∧
    (mentioned values).findSome? (faultAlone store type filter values) = some fault

/-- **A field that breaks a constraint does so alone.** -/
theorem faultAlone_eq (hstore : Sound store) (hfound : store.table? type = some table)
    (h : table.schema.Accepts values) (hadmitted : table.schema.admitFilter filter = .ok ())
    {mask : List Bool} (hmatching : table.matching (.ofFilter filter) = .ok mask)
    (hsome : ¬ (picked table.records mask).isEmpty) {change : String × Field × Option Value}
    (hchange : change ∈ table.schema.changesOf values) :
    faultAlone store type filter values change.1 =
      broken? table.indexes ((picked table.records mask).map (·.id)) change := by
  -- the entry that asks for the change is the last one for its field
  have hlookup : (table.schema.changesOf values).lookup change.1 = some change.2 :=
    Entries.lookup_of_mem (Entries.nodup_keys_ofList _) hchange
  rw [Schema.lookup_changesOf h] at hlookup
  obtain ⟨asked, hasked, hvalue⟩ := Option.map_eq_some_iff.1 hlookup
  obtain ⟨entry, hlast, hentry⟩ := Option.bind_eq_some_iff.1 hasked
  obtain ⟨hmem, hname⟩ := Payload.last?_eq_some hlast
  obtain rfl : asked = change := Prod.ext ((Schema.key_of_change? hentry).trans hname) hvalue
  have haccepts : table.schema.Accepts [entry] := fun e he ↦ h e (List.mem_singleton.1 he ▸ hmem)
  have hchanges : table.schema.changesOf [entry] = [asked] := by
    rw [Schema.changesOf, List.filterMap_cons_some hentry]
    rfl
  rw [faultAlone, hlast, Option.bind_some, perform_update hstore hfound haccepts, hadmitted]
  dsimp only
  rw [hmatching]
  dsimp only
  rw [if_neg hsome, hchanges, List.findSome?_singleton]
  cases broken? table.indexes ((picked table.records mask).map (·.id)) asked <;> rfl

/-- An update that breaks constraints is refused for the first field that does. -/
theorem firstBroken_of_findSome? (hstore : Sound store) (hfound : store.table? type = some table)
    (h : table.schema.Accepts values) (hadmitted : table.schema.admitFilter filter = .ok ())
    {mask : List Bool} (hmatching : table.matching (.ofFilter filter) = .ok mask)
    (hsome : ¬ (picked table.records mask).isEmpty) {fault : Fault}
    (hbroken : (table.schema.changesOf values).findSome?
      (broken? table.indexes ((picked table.records mask).map (·.id))) = some fault) :
    FirstBroken store type filter values := by
  obtain ⟨change, -, hfault⟩ := List.exists_of_findSome?_eq_some hbroken
  refine ⟨fault, ?_, Table.category_of_broken? hfault, ?_⟩
  · rw [perform_update hstore hfound h, hadmitted]
    dsimp only
    rw [hmatching]
    dsimp only
    rw [if_neg hsome, hbroken]
  · rw [← Schema.keys_changesOf h, Entries.keys, List.findSome?_map, ← hbroken,
      ← List.head?_filterMap, ← List.head?_filterMap]
    refine congrArg List.head? (List.filterMap_congr fun change hchange ↦ ?_)
    exact faultAlone_eq hstore hfound h hadmitted hmatching hsome hchange

end Store

end RecordStore
