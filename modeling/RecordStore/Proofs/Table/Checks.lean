import RecordStore.Proofs.Entries
import RecordStore.Proofs.Schema
import RecordStore.Table.Change

/-!
# What the checks guarantee

An insertion and an update check what they are given before they use it. The statements below say
what is known once a check has passed: every value is for a field of the schema and of its kind
(`admitAll_eq_ok`, `Assigns`), and what an update writes is at most what unique fields allow
(`writes_eq_ok`). Assignments that no check of a field is against become the changes that they ask
for (`Schema.Allows.changes_eq`).
-/

namespace RecordStore

/-- A computation with a check in front succeeds if the check does, and then the rest does. -/
theorem bind_eq_ok {ε α β : Type} {check : Except ε α} {rest : α → Except ε β} {b : β} :
    check >>= rest = .ok b ↔ ∃ a, check = .ok a ∧ rest a = .ok b := by
  cases check with
  | error fault => exact ⟨nofun, nofun⟩
  | ok a => exact ⟨fun h ↦ ⟨a, rfl, h⟩, fun ⟨_, heq, h⟩ ↦ by cases heq; exact h⟩

theorem Field.admit_eq_ok {field : Field} {value : Value} :
    field.admit value = .ok () ↔ value.kind = field.kind := by
  unfold Field.admit
  split <;> simp_all

namespace Table

variable {schema : Schema}

/-- What is inserted is for fields of the schema, and of their kinds. -/
theorem admitAll_eq_ok {given : List (String × Value)} (h : admitAll schema given = .ok ())
    {key : String} {value : Value} (hmem : (key, value) ∈ given) :
    ∃ field, schema.field? key = some field ∧ value.kind = field.kind := by
  induction given with
  | nil => cases hmem
  | cons first rest ih =>
    obtain ⟨k, v⟩ := first
    rw [admitAll] at h
    split at h
    · cases h
    · next field hfield =>
      obtain ⟨⟨⟩, hadmitted, hrest⟩ := bind_eq_ok.1 h
      obtain heq | hmem := List.mem_cons.1 hmem
      · cases heq
        exact ⟨field, hfield, Field.admit_eq_ok.1 hadmitted⟩
      · exact ih hrest hmem

/-- What is for fields of the schema, and of their kinds, is admitted. -/
theorem admitAll_of_forall {given : List (String × Value)}
    (h : ∀ e ∈ given, ∃ field, schema.field? e.1 = some field ∧ e.2.kind = field.kind) :
    admitAll schema given = .ok () := by
  induction given with
  | nil => rfl
  | cons first rest ih =>
    obtain ⟨⟨field, hfield, hkind⟩, hrest⟩ := List.forall_mem_cons.1 h
    rw [admitAll, hfield]
    exact bind_eq_ok.2 ⟨(), Field.admit_eq_ok.2 hkind, ih hrest⟩

/-! ### Updates -/

/-- Changes that an update may ask for: each is entered for a field of the schema, under the field's
own key and no other, with a value of the field's kind or none. -/
structure Assigns (schema : Schema) (changes : Entries String (Field × Option Value)) : Prop where
  nodup : changes.keys.Nodup
  declared : ∀ key field value, (key, field, value) ∈ changes →
    field ∈ schema.fields ∧ key = field.key
  kind : ∀ key field value, (key, field, some value) ∈ changes → value.kind = field.kind

theorem Assigns.nil : Assigns schema [] :=
  ⟨List.nodup_nil, fun _ _ _ h ↦ absurd h List.not_mem_nil, fun _ _ _ h ↦ absurd h List.not_mem_nil⟩

theorem Assigns.put {before : Entries String (Field × Option Value)} (h : Assigns schema before)
    {field : Field} (hfield : field ∈ schema.fields) {value : Option Value}
    (hkind : ∀ v, value = some v → v.kind = field.kind) :
    Assigns schema (Entries.put field.key (field, value) before) where
  nodup := Entries.nodup_keys_put h.nodup _ _
  declared key f v hmem := by
    obtain heq | hmem := Entries.mem_put hmem
    · simp only [Prod.mk.injEq] at heq
      obtain ⟨rfl, rfl, -⟩ := heq
      exact ⟨hfield, rfl⟩
    · exact h.declared key f v hmem
  kind key f v hmem := by
    obtain heq | hmem := Entries.mem_put hmem
    · simp only [Prod.mk.injEq] at heq
      obtain ⟨-, rfl, heq⟩ := heq
      exact hkind v heq.symm
    · exact h.kind key f v hmem

theorem assigns_of_changes {before after : Entries String (Field × Option Value)}
    {assignments : List (String × Option Value)} (hbefore : Assigns schema before)
    (h : changes schema before assignments = .ok after) : Assigns schema after := by
  induction assignments generalizing before with
  | nil =>
    rw [changes] at h
    cases h
    exact hbefore
  | cons first rest ih =>
    obtain ⟨name, value⟩ := first
    rw [changes] at h
    split at h
    · cases h
    · next field hfield =>
      have hmem : field ∈ schema.fields := (Schema.field?_eq_some hfield).1
      cases value with
      | none => exact ih (hbefore.put hmem fun v hv ↦ by cases hv) h
      | some v =>
        obtain ⟨⟨⟩, hadmitted, hrest⟩ := bind_eq_ok.1 h
        refine ih (hbefore.put hmem ?_) hrest
        intro w hw
        cases hw
        exact Field.admit_eq_ok.1 hadmitted

/-- What is written for a change: no value stands for the default. -/
def toWrite : String × Field × Option Value → String × Value :=
  fun (key, field, value) ↦ (key, value.getD field.kind.default)

variable {indexes : Indexes} {targets : List Nat}

/-- The constraint that a change breaks, if it breaks one: that of a required field which is left
without a value, or that of a unique field which several records are given, or whose new value a
record outside the targets holds. -/
def broken? (indexes : Indexes) (targets : List Nat) :
    String × Field × Option Value → Option Fault :=
  fun (key, field, value) ↦
    if field.required && value.isNone then some (.missingRequired field.name)
    else if field.unique && (1 < targets.length ||
        (indexes.holder? key (value.getD field.kind.default)).any (!targets.contains ·)) then
      some (.duplicateValue field.name)
    else none

/-- A change that breaks a constraint is refused for it. -/
theorem category_of_broken? {change : String × Field × Option Value} {fault : Fault}
    (h : broken? indexes targets change = some fault) : fault.category = .constraint := by
  rw [broken?] at h
  split at h
  · rw [← Option.some.inj h]
    rfl
  split at h
  · rw [← Option.some.inj h]
    rfl
  · cases h

/-- **The checks of an update** look at one change after another, and the first that breaks a
constraint decides. -/
theorem writes_eq_findSome? (indexes : Indexes) (targets : List Nat)
    (changes : List (String × Field × Option Value)) :
    writes indexes targets changes =
      match changes.findSome? (broken? indexes targets) with
      | some fault => .error fault
      | none => .ok (changes.map toWrite) := by
  induction changes with
  | nil => rfl
  | cons first rest ih =>
    obtain ⟨key, field, value⟩ := first
    rw [writes, List.findSome?_cons, broken?]
    by_cases hrequired : field.required && value.isNone
    · rw [if_pos hrequired, if_pos hrequired]
      rfl
    rw [if_neg hrequired, if_neg hrequired]
    by_cases htaken : field.unique && (1 < targets.length ||
        (indexes.holder? key (value.getD field.kind.default)).any (!targets.contains ·))
    · rw [if_pos htaken, if_pos htaken]
      rfl
    rw [if_neg htaken, if_neg htaken, ih]
    dsimp only
    cases rest.findSome? (broken? indexes targets) <;> rfl

/-- An update that passes the checks writes what it was asked to, unique fields of a single record
only, and nothing into them that another record holds. -/
theorem writes_eq_ok {changes : List (String × Field × Option Value)}
    {written : List (String × Value)} (h : writes indexes targets changes = .ok written) :
    written = changes.map toWrite ∧
      ∀ change ∈ changes, change.2.1.unique = true → targets.length ≤ 1 ∧
        ∀ number, indexes.holder? change.1 (toWrite change).2 = some number → number ∈ targets := by
  rw [writes_eq_findSome?] at h
  split at h
  · cases h
  next hnone =>
  refine ⟨(Except.ok.inj h).symm, fun change hchange hunique ↦ ?_⟩
  have hwhole : broken? indexes targets change = none :=
    List.findSome?_eq_none_iff.1 hnone change hchange
  rw [broken?] at hwhole
  split at hwhole
  · cases hwhole
  split at hwhole
  · cases hwhole
  next hfree =>
  rw [hunique, Bool.true_and, Bool.or_eq_true, not_or] at hfree
  obtain ⟨hsingle, hnowhere⟩ := hfree
  refine ⟨by simpa using hsingle, fun number hholder ↦ ?_⟩
  rw [toWrite] at hholder
  simpa [hholder] using hnowhere

end Table

/-! ### Assignments that are allowed -/

namespace Schema

/-- Assignments to fields of the schema, each of a value of the field's kind or of none. -/
def Allows (schema : Schema) (assignments : List (String × Option Value)) : Prop :=
  ∀ a ∈ assignments, ∃ field, schema.field? a.1 = some field ∧
    ∀ value, a.2 = some value → value.kind = field.kind

instance (schema : Schema) (assignments : List (String × Option Value)) :
    Decidable (schema.Allows assignments) :=
  decidable_of_iff
    ((assignments.all fun a ↦ (schema.field? a.1).any fun field ↦
      a.2.all (·.kind == field.kind)) = true)
    (by simp [Allows, Option.any_eq_true, Option.all_eq_true])

/-- The change that an assignment asks for. -/
def asked? (schema : Schema) (a : String × Option Value) : Option (String × Field × Option Value) :=
  (schema.field? a.1).map fun field ↦ (field.key, field, a.2)

variable {schema : Schema} {assignments : List (String × Option Value)}

theorem Allows.exists_asked (h : schema.Allows assignments) {a : String × Option Value}
    (ha : a ∈ assignments) : ∃ e, schema.asked? a = some e ∧ e.1 = Text.canonical a.1 := by
  obtain ⟨field, hfound, -⟩ := h a ha
  refine ⟨(field.key, field, a.2), ?_, (field?_eq_some hfound).2⟩
  rw [asked?, hfound, Option.map_some]

/-- **The changes** are those that the assignments ask for, one after another. -/
theorem Allows.changes_eq (h : schema.Allows assignments) :
    Table.changes schema [] assignments =
      .ok (Entries.ofList (assignments.filterMap schema.asked?)) := by
  rw [Entries.ofList]
  generalize ([] : Entries String (Field × Option Value)) = before
  induction assignments generalizing before with
  | nil => rfl
  | cons a rest ih =>
    obtain ⟨name, value⟩ := a
    obtain ⟨⟨field, hfound, hkind⟩, hrest⟩ := List.forall_mem_cons.1 h
    have hasked : schema.asked? (name, value) = some (field.key, field, value) := by
      rw [asked?, hfound, Option.map_some]
    rw [List.filterMap_cons_some hasked, List.foldl_cons, ← ih hrest, Table.changes, hfound]
    cases value with
    | none => rfl
    | some v =>
      show field.admit v >>= _ = _
      rw [Field.admit_eq_ok.2 (hkind v rfl)]
      rfl

end Schema

end RecordStore
