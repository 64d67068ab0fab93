import Mathlib.Data.List.Nodup
import RecordStore.Proofs.Text.CanonicalName
import RecordStore.Schema

/-!
# Finding fields

Fields are found by the canonical form of a name, and the canonical name of a field is a spelling of
itself (`canonical_key`). In a schema that declares no canonical name twice, finding a field by a
name and the field having that name are therefore one thing (`field?_eq_some_iff`).
-/

namespace RecordStore

open RecordStore.Text

theorem Field.canonical_key (field : Field) : canonical field.key = field.key :=
  canonical_canonical field.name

namespace Schema

/-- The canonical names of the fields, in the order of their declaration. -/
def keys (schema : Schema) : List String := schema.fields.map Field.key

/-- The canonical names of the unique fields, in the order of their declaration. -/
def uniqueKeys (schema : Schema) : List String := (schema.fields.filter Field.unique).map Field.key

variable {schema : Schema} {field : Field} {name key : String}

theorem key_mem_keys (h : field ∈ schema.fields) : field.key ∈ schema.keys :=
  List.mem_map_of_mem h

theorem mem_uniqueKeys :
    key ∈ schema.uniqueKeys ↔ ∃ field ∈ schema.fields, field.unique = true ∧ field.key = key := by
  simp [uniqueKeys, and_assoc]

theorem uniqueKeys_sublist (schema : Schema) : List.Sublist schema.uniqueKeys schema.keys :=
  List.filter_sublist.map Field.key

/-- In a schema without repeated names, a field is determined by its canonical name. -/
theorem eq_of_key_eq (hnodup : schema.keys.Nodup) {other : Field} (hfield : field ∈ schema.fields)
    (hother : other ∈ schema.fields) (h : field.key = other.key) : field = other :=
  List.inj_on_of_nodup_map hnodup hfield hother h

theorem field?_eq_some (h : schema.field? name = some field) :
    field ∈ schema.fields ∧ field.key = canonical name :=
  ⟨List.mem_of_find?_eq_some h, by simpa using List.find?_some h⟩

/-- **Finding a field** by any spelling of its name. -/
theorem field?_eq_some_iff (hnodup : schema.keys.Nodup) :
    schema.field? name = some field ↔ field ∈ schema.fields ∧ field.key = canonical name := by
  refine ⟨field?_eq_some, fun ⟨hmem, hkey⟩ ↦ ?_⟩
  cases hfound : schema.field? name with
  | none =>
    have hne := List.find?_eq_none.1 hfound field hmem
    simp [hkey] at hne
  | some other =>
    obtain ⟨hother, hotherkey⟩ := field?_eq_some hfound
    rw [eq_of_key_eq hnodup hother hmem (hotherkey.trans hkey.symm)]

theorem field?_eq_none_iff : schema.field? name = none ↔ canonical name ∉ schema.keys := by
  simp [field?, keys]

theorem field?_key (hnodup : schema.keys.Nodup) (h : field ∈ schema.fields) :
    schema.field? field.key = some field :=
  (field?_eq_some_iff hnodup).2 ⟨h, field.canonical_key.symm⟩

end Schema

end RecordStore
