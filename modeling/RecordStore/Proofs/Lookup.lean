import RecordStore.Proofs.Schema
import RecordStore.Record

/-!
# Looking up by name

Whoever looks up a field or a value brings the name to its canonical form first, also if it was brought
to it before: a schema is asked for written names and for keys, and what an insertion or an update is
given is kept by key and then looked up again. This does no harm, because canonical names are canonical
(`Schema.field?_canonical`, `Record.get?_canonical`).

It is also what keeps names apart. A further field has a name of its own exactly if its key is not found
(`Schema.nodup_keys_concat_iff`), and in a schema whose fields have names of their own a name finds the
one field that has it and no other (`lookups_exact`).
-/

namespace RecordStore

open RecordStore.Text

namespace Schema

variable {schema : Schema} {field : Field}

/-- A name and its canonical form find the same field. -/
theorem field?_canonical (schema : Schema) (name : String) :
    schema.field? (canonical name) = schema.field? name := by
  rw [field?, canonical_canonical, field?]

/-- **A further field has a name of its own** exactly if its key finds no field. -/
theorem nodup_keys_concat_iff : (Schema.mk (schema.fields ++ [field])).keys.Nodup ↔
    schema.keys.Nodup ∧ schema.field? field.key = none := by
  rw [field?_eq_none_iff, field.canonical_key, keys, List.map_append, List.map_singleton,
    ← List.concat_eq_append, List.nodup_concat, and_comm]
  rfl

end Schema

/-- A name and its canonical form find the same value. -/
theorem Record.get?_canonical (record : Record) (name : String) :
    record.get? (canonical name) = record.get? name := by
  rw [get?, canonical_canonical, get?]

/-- **Lookups are exact.** A canonical name is its own canonical form, by every rule of lower case that
keeps to the law, and so by the one of the tables. In a schema whose fields have names of their own, a
name finds a field if and only if that is the field which has its canonical form for a key, and it makes
no difference whether the name is given as it was written or in its canonical form. With a further field,
the fields still have names of their own exactly if the field's key finds none. The value of a record
under a name is the one under its canonical form, however the name is given. -/
theorem lookups_exact :
    (∀ rule : CaseRule, rule.Lawful →
      ∀ name, rule.canonical (rule.canonical name) = rule.canonical name) ∧
    (∀ name, canonical (canonical name) = canonical name) ∧
    (∀ schema : Schema, schema.keys.Nodup → ∀ name field,
      (schema.field? name = some field ↔ field ∈ schema.fields ∧ field.key = canonical name) ∧
      (schema.field? (canonical name) = some field ↔
        field ∈ schema.fields ∧ field.key = canonical name)) ∧
    (∀ (schema : Schema) (field : Field), (Schema.mk (schema.fields ++ [field])).keys.Nodup ↔
      schema.keys.Nodup ∧ schema.field? field.key = none) ∧
    ∀ (record : Record) name, record.get? name = record.value? (canonical name) ∧
      record.get? (canonical name) = record.value? (canonical name) := by
  refine ⟨fun rule hrule ↦ hrule.canonical_canonical, canonical_canonical,
    fun schema hnodup name field ↦ ?_, fun schema field ↦ Schema.nodup_keys_concat_iff,
    fun record name ↦ ⟨rfl, record.get?_canonical name⟩⟩
  rw [schema.field?_canonical, Schema.field?_eq_some_iff hnodup]
  exact ⟨Iff.rfl, Iff.rfl⟩

/-- A street whose name ends in a capital sigma, found under its key, which ends in the final one. -/
theorem lookups_exact_street :
    let street : Field := ⟨" ΟΔΟΣ ", .text, false, true⟩
    let schema : Schema := ⟨[⟨"İd", .int, true, true⟩, street]⟩
    CaseRule.Lawful lowerAt ∧
      CaseRule.canonical lowerAt (CaseRule.canonical lowerAt "İd") = CaseRule.canonical lowerAt "İd" ∧
      schema.keys.Nodup ∧ schema.field? "Οδος" = some street ∧ schema.field? "οδος" = some street := by
  intro street schema
  have hkeys : schema.keys.Nodup := by decide +kernel
  have hkey : street.key = canonical "Οδος" := by decide +kernel
  have hcanonical : canonical "Οδος" = "οδος" := by decide +kernel
  have hmem : street ∈ schema.fields := by simp [schema]
  obtain ⟨hrule, -, hfield, -⟩ := lookups_exact
  obtain ⟨hwritten, hfound⟩ := hfield schema hkeys "Οδος" street
  rw [hcanonical] at hfound
  exact ⟨lawful_lowerAt, hrule lowerAt lawful_lowerAt "İd", hkeys, hwritten.2 ⟨hmem, hkey⟩,
    hfound.2 ⟨hmem, hkey.trans hcanonical⟩⟩

end RecordStore
