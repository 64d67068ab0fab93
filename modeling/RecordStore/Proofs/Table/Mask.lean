import RecordStore.Proofs.Table.Tracking

/-!
# Masks

A change computes the mask of the records that meet a condition and goes through the records and the
mask together. Where the condition means something of every record, the mask says no more than the
condition: what it picks and what it spares are the records that meet it and those that do not
(`picked_map`, `spared_map`), and writing through it is a map (`written_map`). Where there is a mask at
all, the condition does mean something of every record (`mask_eq_map_meets`).
-/

namespace RecordStore.Table

variable {condition : Condition} {schema : Schema} {records : List Record} {mask : List Bool}

/-- A condition that means something of every record picks out those that meet it. -/
theorem matchRecords_eq_map {met : Record → Bool}
    (h : ∀ record ∈ records, condition schema record = .ok (met record)) :
    matchRecords condition schema records = .ok (records.map met) := by
  induction records with
  | nil => rfl
  | cons record rest ih =>
    obtain ⟨hrecord, hrest⟩ := List.forall_mem_cons.1 h
    rw [matchRecords, hrecord, ih hrest]
    rfl

theorem picked_map (met : Record → Bool) (records : List Record) :
    picked records (records.map met) = records.filter met := by
  induction records with
  | nil => rfl
  | cons record rest ih =>
    cases hmet : met record <;> simp [picked, hmet, ih]

theorem spared_map (met : Record → Bool) (records : List Record) :
    spared records (records.map met) = records.filter fun record ↦ !met record := by
  induction records with
  | nil => rfl
  | cons record rest ih =>
    cases hmet : met record <;> simp [spared, hmet, ih]

theorem written_map (writes : List (String × Value)) (met : Record → Bool) (records : List Record) :
    written writes records (records.map met) =
      records.map fun record ↦ if met record then record.write writes else record := by
  induction records with
  | nil => rfl
  | cons record rest ih =>
    rw [List.map_cons, List.map_cons]
    cases met record with
    | true => rw [written, ih, if_pos rfl]
    | false => rw [written, ih, if_neg Bool.false_ne_true]

/-- Does a record meet a condition? It does not, if the condition means nothing of it. -/
def meets (condition : Condition) (schema : Schema) (record : Record) : Bool :=
  (condition schema record).toOption.getD false

/-- A condition that was decided for all records means something of each. -/
theorem meets_of_matchRecords (h : matchRecords condition schema records = .ok mask) :
    ∀ record ∈ records, condition schema record = .ok (meets condition schema record) := by
  induction records generalizing mask with
  | nil => exact List.forall_mem_nil _
  | cons record rest ih =>
    unfold matchRecords at h
    cases hrecord : condition schema record with
    | error fault =>
      rw [hrecord] at h
      cases h
    | ok met =>
      cases hrest : matchRecords condition schema rest with
      | error fault =>
        rw [hrecord, hrest] at h
        cases h
      | ok mask =>
        refine List.forall_mem_cons.2 ⟨?_, ih hrest⟩
        rw [meets, hrecord]
        rfl

/-- A fault in deciding comes from one of the records. -/
theorem exists_record_of_matchRecords {fault : Fault}
    (h : matchRecords condition schema records = .error fault) :
    ∃ record ∈ records, condition schema record = .error fault := by
  induction records with
  | nil => cases h
  | cons record rest ih =>
    rw [matchRecords] at h
    cases hrecord : condition schema record with
    | error cause =>
      rw [hrecord] at h
      cases h
      exact ⟨record, List.mem_cons_self, hrecord⟩
    | ok met =>
      cases hrest : matchRecords condition schema rest with
      | error cause =>
        rw [hrecord, hrest] at h
        cases h
        obtain ⟨found, hfound, hfault⟩ := ih hrest
        exact ⟨found, List.mem_cons_of_mem _ hfound, hfault⟩
      | ok mask =>
        rw [hrecord, hrest] at h
        cases h

theorem mask_eq_map_meets (h : matchRecords condition schema records = .ok mask) :
    mask = records.map (meets condition schema) :=
  Except.ok.inj (h.symm.trans (matchRecords_eq_map (meets_of_matchRecords h)))

end RecordStore.Table
