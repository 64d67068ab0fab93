import Mathlib.Data.List.Forall2
import RecordStore.Proofs.Table.Checks
import RecordStore.Store.Execution

/-!
# What a payload gives

A payload gives a field the last of the values that it has for it, under any spelling of its name
(`Field.given?`); a null is no value. This says of the entries as they were written what the code
does in steps: it coerces them one by one (`Schema.Coerces`), drops those without a value, enters
the others by canonical name, so that a later one takes the place of an earlier one, and completes
what is missing with defaults. If the payload is one that the schema accepts, all of that succeeds,
and what comes out is `Schema.newValues` (`completed_of_coerces`).
-/

namespace RecordStore

open RecordStore.Text
open Store (givenValues)

/-! ### Kinds of values -/

theorem Kind.kind_of_timeOfText {s : String} {value : Value} (h : timeOfText s = .ok value) :
    value.kind = .time := by
  rw [timeOfText] at h
  split at h <;> cases h
  rfl

/-- A payload gives a value of the kind that is asked for. -/
theorem Kind.kind_of_ofPayload {kind : Kind} {payload : Payload} {value : Value}
    (h : kind.ofPayload payload = .ok value) : value.kind = kind := by
  unfold Kind.ofPayload at h
  split at h
  · cases h
    rfl
  · split at h <;> cases h
    rfl
  · split at h <;> cases h
    rfl
  · cases h
    rfl
  · exact kind_of_timeOfText h
  · next items =>
    cases hitems : textItems items with
    | error cause =>
      rw [hitems] at h
      cases h
    | ok texts =>
      rw [hitems] at h
      cases h
      rfl
  · cases h

theorem Kind.ofPayload_null (kind : Kind) :
    kind.ofPayload .null = .error (.wrongForm kind "null") := by
  cases kind <;> rfl

/-! ### What a payload gives -/

namespace Field

/-- What an entry of a payload gives to a field: a value of its kind under its name, or nothing. -/
def taken? (field : Field) (entry : String × Payload) : Option Value :=
  if canonical entry.1 = field.key then (field.kind.ofPayload entry.2).toOption else none

/-- What a payload gives to a field. Of several values the last counts. -/
def given? (field : Field) (values : List (String × Payload)) : Option Value :=
  values.reverse.findSome? field.taken?

/-- What a new record holds in a field. -/
def newValue (field : Field) (values : List (String × Payload)) : Value :=
  (field.given? values).getD field.kind.default

variable {field : Field} {values : List (String × Payload)} {name : String} {payload : Payload}
  {value : Value}

theorem taken?_eq_some_iff : field.taken? (name, payload) = some value ↔
    canonical name = field.key ∧ field.kind.ofPayload payload = .ok value := by
  rw [taken?]
  split
  · next h => cases field.kind.ofPayload payload <;> simp [Except.toOption, h]
  · next h => simp [h]

theorem given?_eq_none (h : ∀ e ∈ values, canonical e.1 ≠ field.key) :
    field.given? values = none := by
  rw [given?, List.findSome?_eq_none_iff]
  exact fun e he ↦ if_neg (h e (List.mem_reverse.1 he))

/-- The last value that there is for a field is the one that counts. -/
theorem given?_of_last {before after : List (String × Payload)} (hname : canonical name = field.key)
    (hvalue : field.kind.ofPayload payload = .ok value)
    (hafter : ∀ e ∈ after, canonical e.1 = field.key → e.2 = .null) :
    field.given? (before ++ (name, payload) :: after) = some value := by
  have hnone : after.reverse.findSome? field.taken? = none := by
    rw [List.findSome?_eq_none_iff]
    intro e he
    rw [taken?]
    split
    · next hkey =>
      rw [hafter e (List.mem_reverse.1 he) hkey, Kind.ofPayload_null]
      rfl
    · rfl
  rw [given?, List.reverse_append, List.reverse_cons, List.append_assoc, List.findSome?_append,
    hnone, Option.none_or, List.singleton_append, List.findSome?_cons,
    taken?_eq_some_iff.2 ⟨hname, hvalue⟩]

end Field

namespace Schema

/-- What a new record holds, by canonical name. -/
def newValues (schema : Schema) (values : List (String × Payload)) : Entries String Value :=
  schema.fields.map fun field ↦ (field.key, field.newValue values)

/-- The payload has nothing but fields of the schema, and for each a value of its kind or a null. -/
def Accepts (schema : Schema) (values : List (String × Payload)) : Prop :=
  ∀ e ∈ values, ∃ field, schema.field? e.1 = some field ∧
    (e.2 = .null ∨ ∃ value, field.kind.ofPayload e.2 = .ok value)

/-- What becomes of an entry of a payload: a value of the field that it names, or nothing. -/
inductive Coerces (schema : Schema) : String × Payload → String × Option Value → Prop where
  /-- A null gives nothing. -/
  | null {name : String} {field : Field} (hfound : schema.field? name = some field) :
    Coerces schema (name, .null) (field.key, none)
  /-- Any other payload gives a value of the field's kind. -/
  | value {name : String} {payload : Payload} {field : Field} {value : Value}
      (hfound : schema.field? name = some field)
      (hvalue : field.kind.ofPayload payload = .ok value) :
    Coerces schema (name, payload) (field.key, some value)

/-- The reason for which an entry of a payload is refused, if it is. -/
def refusal? (schema : Schema) (entry : String × Payload) : Option Fault :=
  match schema.field? entry.1 with
  | none => some (.fieldNotFound entry.1)
  | some field =>
    match entry.2 with
    | .null => none
    | payload =>
      match field.kind.ofPayload payload with
      | .ok _ => none
      | .error cause => some (.badValue field.name (.coercion cause))

variable {schema : Schema} {field : Field} {values : List (String × Payload)}
  {assignments : List (String × Option Value)}

/-! ### Entries that are refused -/

theorem refusal?_of_unknown {entry : String × Payload} (h : schema.field? entry.1 = none) :
    schema.refusal? entry = some (.fieldNotFound entry.1) := by
  rw [refusal?, h]

theorem refusal?_eq_none_iff {entry : String × Payload} :
    schema.refusal? entry = none ↔ ∃ field, schema.field? entry.1 = some field ∧
      (entry.2 = .null ∨ ∃ value, field.kind.ofPayload entry.2 = .ok value) := by
  obtain ⟨name, payload⟩ := entry
  cases hfound : schema.field? name with
  | none => simp [refusal?, hfound]
  | some field =>
    cases hvalue : field.kind.ofPayload payload with
    | ok value => cases payload <;> simp [refusal?, hfound, hvalue]
    | error cause => cases payload <;> simp [refusal?, hfound, hvalue]

/-- A payload is accepted if none of its entries is refused. -/
theorem accepts_iff : schema.Accepts values ↔ values.findSome? schema.refusal? = none := by
  rw [List.findSome?_eq_none_iff]
  exact ⟨fun h e he ↦ refusal?_eq_none_iff.2 (h e he), fun h e he ↦ refusal?_eq_none_iff.1 (h e he)⟩

theorem coerce_cons_of_refusal {entry : String × Payload} {fault : Fault}
    (h : schema.refusal? entry = some fault) (values : List (String × Payload)) :
    schema.coerce (entry :: values) = .error fault := by
  obtain ⟨name, payload⟩ := entry
  rw [coerce]
  rw [refusal?] at h
  split at h
  · next hfound =>
    rw [hfound]
    exact congrArg Except.error (Option.some.inj h)
  next field hfound =>
  rw [hfound]
  split at h
  · cases h
  next hpayload =>
  split at h
  · cases h
  next cause hvalue =>
  cases payload with
  | null => exact absurd rfl hpayload
  | bool | number | text | array | object =>
    simp only [hvalue]
    exact congrArg Except.error (Option.some.inj h)

theorem coerce_cons {entry : String × Payload} {assignment : String × Option Value}
    (h : schema.Coerces entry assignment) (values : List (String × Payload)) :
    schema.coerce (entry :: values) = (schema.coerce values).map (assignment :: ·) := by
  cases h with
  | null hfound =>
    rw [coerce, hfound]
    cases schema.coerce values <;> rfl
  | @value name payload field value hfound hvalue =>
    rw [coerce, hfound]
    cases payload with
    | null =>
      rw [Kind.ofPayload_null] at hvalue
      cases hvalue
    | bool | number | text | array | object =>
      simp only [hvalue]
      cases schema.coerce values <;> rfl

/-- An entry that is not refused is coerced. -/
theorem exists_coerces {entry : String × Payload} (h : schema.refusal? entry = none) :
    ∃ assignment, schema.Coerces entry assignment := by
  obtain ⟨name, payload⟩ := entry
  obtain ⟨field, hfound, hnull | ⟨value, hvalue⟩⟩ := refusal?_eq_none_iff.1 h
  · obtain rfl : payload = .null := hnull
    exact ⟨_, .null hfound⟩
  · exact ⟨_, .value hfound hvalue⟩

/-- **The first entry that is refused** decides why a payload is. -/
theorem coerce_of_refusal {fault : Fault} (h : values.findSome? schema.refusal? = some fault) :
    schema.coerce values = .error fault := by
  induction values with
  | nil => cases h
  | cons entry rest ih =>
    rw [List.findSome?_cons] at h
    split at h
    · next hentry =>
      rw [coerce_cons_of_refusal (hentry.trans h)]
    · next hentry =>
      obtain ⟨assignment, hassignment⟩ := exists_coerces hentry
      rw [coerce_cons hassignment, ih h]
      rfl

/-- A payload that is accepted is coerced entry by entry. -/
theorem Accepts.exists_coerce (h : schema.Accepts values) :
    ∃ assignments, schema.coerce values = .ok assignments ∧
      List.Forall₂ schema.Coerces values assignments := by
  induction values with
  | nil => exact ⟨[], rfl, .nil⟩
  | cons entry values ih =>
    obtain ⟨hentry, hvalues⟩ := List.forall_mem_cons.1 h
    obtain ⟨assignment, hassignment⟩ := exists_coerces (refusal?_eq_none_iff.2 hentry)
    obtain ⟨assignments, hcoerce, hall⟩ := ih hvalues
    refine ⟨assignment :: assignments, ?_, .cons hassignment hall⟩
    rw [coerce_cons hassignment, hcoerce]
    rfl

/-! ### What becomes of entries -/

theorem exists_field_of_coerces (h : List.Forall₂ schema.Coerces values assignments) {key : String}
    {value : Value} (hmem : (key, some value) ∈ assignments) :
    ∃ field ∈ schema.fields, field.key = key ∧ value.kind = field.kind := by
  induction h with
  | nil => cases hmem
  | cons hentry _ ih =>
    rcases List.mem_cons.1 hmem with heq | hmem
    · cases hentry with
      | null => exact absurd (congrArg Prod.snd heq) (Option.some_ne_none value)
      | value hfound hvalue =>
        rw [Prod.mk.injEq, Option.some.injEq] at heq
        obtain ⟨rfl, rfl⟩ := heq
        exact ⟨_, (field?_eq_some hfound).1, rfl, Kind.kind_of_ofPayload hvalue⟩
    · exact ih hmem

/-- What coercion makes of a payload is admitted. -/
theorem admitAll_of_coerces (hnodup : schema.keys.Nodup)
    (h : List.Forall₂ schema.Coerces values assignments) :
    Table.admitAll schema (Table.byKey (givenValues assignments)) = .ok () := by
  refine Table.admitAll_of_forall fun e he ↦ ?_
  obtain ⟨⟨key, value⟩, hgiven, rfl⟩ := List.mem_map.1 (Entries.mem_of_mem_ofList he)
  have hmem : (key, some value) ∈ assignments := by
    obtain ⟨⟨k, v⟩, hmem, heq⟩ := List.mem_filterMap.1 hgiven
    obtain ⟨w, rfl, heq⟩ := Option.map_eq_some_iff.1 heq
    cases heq
    exact hmem
  obtain ⟨field, hfield, rfl, hkind⟩ := exists_field_of_coerces h hmem
  refine ⟨field, ?_, hkind⟩
  show schema.field? (canonical field.key) = some field
  rw [field.canonical_key, field?_key hnodup hfield]

/-- What coercion makes of a payload is what it gives to each field. -/
theorem lookup_of_coerces (hnodup : schema.keys.Nodup) (hfield : field ∈ schema.fields)
    (h : List.Forall₂ schema.Coerces values assignments) :
    (Table.byKey (givenValues assignments)).lookup field.key = field.given? values := by
  rw [Table.byKey, Entries.lookup_ofList]
  induction h with
  | nil => rfl
  | @cons entry assignment values assignments hentry _ ih =>
    rw [Field.given?, List.reverse_cons, List.findSome?_append, ← Field.given?, ← ih]
    cases hentry with
    | @null name other hfound =>
      have hnone : field.taken? (name, .null) = none := by
        rw [Field.taken?, Kind.ofPayload_null]
        exact ite_self none
      simp [givenValues, hnone]
    | @value name payload other value hfound hvalue =>
      obtain ⟨hother, hname⟩ := field?_eq_some hfound
      have hlast : field.taken? (name, payload) =
          [(other.key, value)].lookup field.key := by
        by_cases heq : field.key = other.key
        · obtain rfl := eq_of_key_eq hnodup hfield hother heq
          rw [List.lookup_cons_self, Field.taken?_eq_some_iff.2 ⟨hname.symm, hvalue⟩]
        · have hne : canonical name ≠ field.key := fun h ↦ heq (hname.trans h).symm
          rw [Field.taken?, if_neg hne, List.lookup_cons, beq_false_of_ne heq]
          rfl
      simp [givenValues, hlast, other.canonical_key, List.lookup_append]

theorem completed_of_coerces (hnodup : schema.keys.Nodup)
    (h : List.Forall₂ schema.Coerces values assignments) :
    Table.completed schema (Table.byKey (givenValues assignments)) = schema.newValues values := by
  refine List.map_congr_left fun field hfield ↦ ?_
  rw [lookup_of_coerces hnodup hfield h, Field.newValue]

theorem lookup_newValues (hnodup : schema.keys.Nodup) (hfield : field ∈ schema.fields) :
    (schema.newValues values).lookup field.key = some (field.newValue values) :=
  Entries.lookup_map_of_mem (fun field : Field ↦ field.newValue values) hnodup hfield

/-! ### Changes that a payload asks for -/

/-- The change that an entry of a payload asks for: the field that it names, and a value of its kind
or none. -/
def change? (schema : Schema) (entry : String × Payload) : Option (String × Field × Option Value) :=
  (schema.field? entry.1).map fun field ↦
    (field.key, field, (field.kind.ofPayload entry.2).toOption)

/-- What an update with a payload assigns to each field. Of several entries for one field the last
counts. -/
def changesOf (schema : Schema) (values : List (String × Payload)) :
    Entries String (Field × Option Value) :=
  Entries.ofList (values.filterMap schema.change?)

/-- A field is changed under the canonical form of its name. -/
theorem key_of_change? {entry : String × Payload} {change : String × Field × Option Value}
    (h : schema.change? entry = some change) : change.1 = canonical entry.1 := by
  obtain ⟨field, hfound, rfl⟩ := Option.map_eq_some_iff.1 h
  exact (field?_eq_some hfound).2

theorem exists_change_of_coerces {entry : String × Payload} {assignment : String × Option Value}
    (h : schema.Coerces entry assignment) :
    ∃ field ∈ schema.fields, schema.change? entry = some (field.key, field, assignment.2) ∧
      assignment.1 = field.key ∧ ∀ value, assignment.2 = some value → value.kind = field.kind := by
  cases h with
  | @null name field hfound =>
    refine ⟨field, (field?_eq_some hfound).1, ?_, rfl, fun _ h ↦ nomatch h⟩
    rw [change?, hfound, Option.map_some, Kind.ofPayload_null]
    rfl
  | @value name payload field value hfound hvalue =>
    refine ⟨field, (field?_eq_some hfound).1, ?_, rfl, fun _ h ↦ ?_⟩
    · rw [change?, hfound, Option.map_some, hvalue]
      rfl
    · rw [← Option.some.inj h]
      exact Kind.kind_of_ofPayload hvalue

theorem asked?_of_coerces (hnodup : schema.keys.Nodup) {entry : String × Payload}
    {assignment : String × Option Value} (h : schema.Coerces entry assignment) :
    schema.asked? assignment = schema.change? entry := by
  obtain ⟨field, hfield, hchange, hkey, -⟩ := exists_change_of_coerces h
  rw [asked?, hkey, field?_key hnodup hfield, hchange]
  rfl

/-- What a payload is coerced to may be assigned. -/
theorem allows_of_coerces (hnodup : schema.keys.Nodup)
    (h : List.Forall₂ schema.Coerces values assignments) : schema.Allows assignments := by
  induction h with
  | nil => exact List.forall_mem_nil _
  | cons hentry _ ih =>
    obtain ⟨field, hfield, -, hkey, hkind⟩ := exists_change_of_coerces hentry
    exact List.forall_mem_cons.2 ⟨⟨field, hkey ▸ field?_key hnodup hfield, hkind⟩, ih⟩

/-- **The changes of an update** are those that the entries of its payload ask for, one after
another. -/
theorem changes_of_coerces (hnodup : schema.keys.Nodup)
    (h : List.Forall₂ schema.Coerces values assignments) :
    Table.changes schema [] assignments = .ok (schema.changesOf values) := by
  have hasked : assignments.filterMap schema.asked? = values.filterMap schema.change? := by
    induction h with
    | nil => rfl
    | cons hentry _ ih =>
      rw [List.filterMap_cons, List.filterMap_cons, asked?_of_coerces hnodup hentry, ih]
  rw [(allows_of_coerces hnodup h).changes_eq, hasked, changesOf]

end Schema

end RecordStore
