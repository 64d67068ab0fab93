import RecordStore.Proofs.Store.Soundness

/-!
# Every store that calls lead to

What holds of a store after any calls, executed, created and changed in any order and refused or
not: the invariant of the store, its tables and their indexes (`invariant_after`), and that a call
that is refused at this point changes nothing (`unchanged_of_refused`). Both are read off
`sound_after`, and neither would hold of a store that is not sound: a stale index lets two records
share a value, and a table entered under a foreign name is written back to another place.
-/

namespace RecordStore.Store

open RecordStore.Text
open Record (Apart)

/-- **The invariant of a store.** The tables are entered once each, under the canonical form of
their names. The fields of each have names that are neither blank nor repeated, its records hold
one value for each field, of the field's kind, and there is an index for each unique field. No two
records hold the same value in such a field, and its index says exactly who holds which. -/
theorem invariant_after (calls : List Call) :
    (after calls).tables.keys.Nodup ∧
    ∀ key table, (key, table) ∈ (after calls).tables →
      key = canonical table.name ∧
      (∀ field ∈ table.schema.fields, trim field.key ≠ "") ∧
      table.schema.keys.Nodup ∧
      (∀ record ∈ table.records, record.values.keys = table.schema.keys ∧
        ∀ field ∈ table.schema.fields, ∃ value,
          record.value? field.key = some value ∧ value.kind = field.kind) ∧
      table.indexes.keys = table.schema.uniqueKeys ∧
      ∀ field ∈ table.schema.fields, field.unique = true →
        table.records.Pairwise (Apart field.key) ∧
        ∃ index, table.indexes.lookup field.key = some index ∧
          index.Pairwise (fun e f ↦ e.1.same f.1 = false) ∧
          ∀ value number, (value, number) ∈ index ↔
            ∃ record ∈ table.records, record.id = number ∧ record.value? field.key = some value := by
  have hstore := sound_after calls
  refine ⟨hstore.nodup, fun key table hmem ↦ ?_⟩
  have htable := hstore.sound key table hmem
  refine ⟨hstore.named key table hmem, ?_, htable.nodup, ?_, ?_, ?_⟩
  · intro field hfield
    show trim (canonical field.name) ≠ ""
    rw [trim_canonical]
    exact htable.named field.key (Schema.key_mem_keys hfield)
  · intro record hrecord
    have hfits := htable.fits record hrecord
    exact ⟨hfits.keys, fun field hfield ↦ hfits.exists_value hfield⟩
  · rw [htable.indexed, Indexes.keys_ofRecords]
  · intro field hfield hunique
    have hkey : field.key ∈ table.schema.uniqueKeys :=
      Schema.mem_uniqueKeys.2 ⟨field, hfield, hunique, rfl⟩
    have hdistinct := htable.distinct field.key hkey
    refine ⟨hdistinct, Index.ofRecords field.key table.records, ?_, ?_, ?_⟩
    · rw [htable.indexed, Indexes.lookup_ofRecords hkey]
    · exact Index.pairwise_ofRecords hdistinct
    · exact fun value number ↦ Index.mem_ofRecords

/-- **A refused call changes nothing.** -/
theorem unchanged_of_refused (calls : List Call) (call : Call) (fault : Fault)
    (h : (call.action.perform (after calls)).2 = .error fault) :
    (call.action.perform (after calls)).1 = after calls :=
  (atomic_call call).perform_of_refused (sound_after calls) h

/-- Two users, each with an address of their own. -/
def twoUsers : List Call :=
  [.createType "User" [⟨"name", .text, false, false⟩, ⟨"email", .text, false, true⟩],
   .change "user" (.insert [("name", .text "Ann"), ("email", .text "ann@host")]),
   .change "user" (.insert [("name", .text "Bob"), ("email", .text "bob@host")])]

/-- Renames the second user, and then would give them the address of the first. -/
def takeAddress : Call :=
  .change "USER" (.updateWhere (fun _ record ↦ .ok (record.id == 1))
    [("name", some (.text "Eve")), ("Email", some (.text "ann@host"))])

theorem unchanged_of_address_taken :
    (takeAddress.action.perform (after twoUsers)).2 = .error (.duplicateValue "email") ∧
      (takeAddress.action.perform (after twoUsers)).1 = after twoUsers := by
  have hrefused :
      (takeAddress.action.perform (after twoUsers)).2 = .error (.duplicateValue "email") := by
    decide +kernel
  exact ⟨hrefused, unchanged_of_refused twoUsers takeAddress (.duplicateValue "email") hrefused⟩

end RecordStore.Store
