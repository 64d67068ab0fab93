import RecordStore.Proofs.Entries
import RecordStore.Proofs.Schema
import RecordStore.Record

/-!
# Records that fit a schema

A record fits a schema if it holds one value for each field, and of the field's kind
(`Record.Fits`). Writing keeps it that way (`Fits.write`), since it neither adds nor drops a key as
long as it only writes to fields of the schema.
-/

namespace RecordStore

namespace Record

/-- Does the record hold the same value under a key? -/
def holds (key : String) (value : Value) (record : Record) : Bool :=
  (record.value? key).any (·.same value)

variable {record : Record} {writes : List (String × Value)} {key : String} {value : Value}

/-! ### Writing -/

theorem value?_write_of_not_mem (h : ∀ w ∈ writes, w.1 ≠ key) :
    (record.write writes).value? key = record.value? key := by
  induction writes generalizing record with
  | nil => rfl
  | cons w rest ih =>
    calc (record.write (w :: rest)).value? key
        = (record.set w.1 w.2).value? key := ih fun w hw ↦ h w (List.mem_cons_of_mem _ hw)
      _ = record.value? key := value?_set_of_ne record (h w List.mem_cons_self).symm w.2

/-- What a record holds after writing is what was written, or what it held before. -/
theorem mem_or_eq_of_value?_write (h : (record.write writes).value? key = some value) :
    (key, value) ∈ writes ∨ record.value? key = some value := by
  induction writes generalizing record with
  | nil => exact .inr h
  | cons w rest ih =>
    obtain ⟨k, v⟩ := w
    obtain hrest | hset := ih h
    · exact .inl (List.mem_cons_of_mem _ hrest)
    · by_cases heq : key = k
      · rw [heq, value?_set_self, Option.some.injEq] at hset
        rw [heq, hset]
        exact .inl List.mem_cons_self
      · exact .inr ((value?_set_of_ne record heq v).symm.trans hset)

/-- What was written is there, if nothing is written twice under one key. -/
theorem value?_write_of_mem (hnodup : (Entries.keys writes).Nodup) (h : (key, value) ∈ writes) :
    (record.write writes).value? key = some value := by
  induction writes generalizing record with
  | nil => cases h
  | cons w rest ih =>
    obtain ⟨hfresh, hrest⟩ := List.nodup_cons.1 hnodup
    obtain rfl | hmem := List.mem_cons.1 h
    · have hlater : ∀ w ∈ rest, w.1 ≠ key := fun w hw heq ↦
        hfresh (List.mem_map.2 ⟨w, hw, heq⟩)
      calc (record.write ((key, value) :: rest)).value? key
          = (record.set key value).value? key := value?_write_of_not_mem hlater
        _ = some value := value?_set_self record key value
    · exact ih hrest hmem

/-- Writing what a record holds already changes nothing. -/
theorem write_eq_self (h : ∀ w ∈ writes, record.value? w.1 = some w.2) :
    record.write writes = record := by
  induction writes with
  | nil => rfl
  | cons w rest ih =>
    obtain ⟨hw, hrest⟩ := List.forall_mem_cons.1 h
    have hset : record.set w.1 w.2 = record := by
      rw [set, Entries.put_eq_self hw]
    calc record.write (w :: rest) = (record.set w.1 w.2).write rest := rfl
      _ = record := by rw [hset, ih hrest]

/-- **Writing twice is writing once.** -/
theorem write_write (hnodup : (Entries.keys writes).Nodup) :
    (record.write writes).write writes = record.write writes :=
  write_eq_self fun _ hw ↦ value?_write_of_mem hnodup hw

theorem keys_write (h : ∀ w ∈ writes, w.1 ∈ record.values.keys) :
    (record.write writes).values.keys = record.values.keys := by
  induction writes generalizing record with
  | nil => rfl
  | cons w rest ih =>
    have hset : (record.set w.1 w.2).values.keys = record.values.keys :=
      Entries.keys_put_of_mem (h w List.mem_cons_self) w.2
    refine (ih fun w hw ↦ ?_).trans hset
    rw [hset]
    exact h w (List.mem_cons_of_mem _ hw)

/-- What a record holds after writing: what was written, or else what it held before. -/
theorem value?_write (hnodup : (Entries.keys writes).Nodup) (key : String) :
    (record.write writes).value? key = (writes.lookup key).or (record.value? key) := by
  cases hwritten : writes.lookup key with
  | some value => exact value?_write_of_mem hnodup (Entries.mem_of_lookup hwritten)
  | none =>
    rw [Option.none_or]
    refine value?_write_of_not_mem fun w hw heq ↦ ?_
    exact Entries.lookup_eq_none_iff_not_mem.1 hwritten (Entries.mem_keys.2 ⟨w.2, heq ▸ hw⟩)

/-- The order of writing does not matter, as long as nothing is written twice under one key and the
record holds a value under each. -/
theorem write_congr {others : List (String × Value)} (hrecord : record.values.keys.Nodup)
    (hnodup : (Entries.keys writes).Nodup) (hnodup' : (Entries.keys others).Nodup)
    (hkeys : ∀ w ∈ writes, w.1 ∈ record.values.keys)
    (h : ∀ key, writes.lookup key = others.lookup key) :
    record.write writes = record.write others := by
  have hkeys' : ∀ w ∈ others, w.1 ∈ record.values.keys := by
    intro w hw
    have hmem := Entries.lookup_of_mem hnodup' (show (w.1, w.2) ∈ others from hw)
    rw [← h] at hmem
    exact hkeys _ (Entries.mem_of_lookup hmem)
  have hvalues : (record.write writes).values = (record.write others).values := by
    refine Entries.eq_of_keys_of_lookup ?_ ?_ fun key _ ↦ ?_
    · rw [keys_write hkeys, keys_write hkeys']
    · rwa [keys_write hkeys]
    · show (record.write writes).value? key = (record.write others).value? key
      rw [value?_write hnodup, value?_write hnodup', h]
  have hid : (record.write writes).id = (record.write others).id := by
    rw [id_write, id_write]
  show Record.mk (record.write writes).id (record.write writes).values = _
  rw [hid, hvalues]

/-! ### Fitting a schema -/

/-- The record holds a value for each field of the schema, of the field's kind, and nothing else. -/
structure Fits (schema : Schema) (record : Record) : Prop where
  keys : record.values.keys = schema.keys
  kind : ∀ field ∈ schema.fields, ∀ value, record.value? field.key = some value →
    value.kind = field.kind

variable {schema : Schema} {field : Field}

/-- A record that fits has a value in each field. -/
theorem Fits.exists_value (h : Fits schema record) (hfield : field ∈ schema.fields) :
    ∃ value, record.value? field.key = some value ∧ value.kind = field.kind := by
  cases hvalue : record.value? field.key with
  | none =>
    have hmem : field.key ∈ record.values.keys := h.keys ▸ Schema.key_mem_keys hfield
    exact absurd hmem (Entries.lookup_eq_none_iff_not_mem.1 hvalue)
  | some value => exact ⟨value, rfl, h.kind field hfield value hvalue⟩

theorem Fits.write (h : Fits schema record)
    (hkeys : ∀ w ∈ writes, w.1 ∈ schema.keys)
    (hkinds : ∀ field ∈ schema.fields, ∀ value, (field.key, value) ∈ writes →
      value.kind = field.kind) :
    Fits schema (record.write writes) where
  keys := (keys_write fun w hw ↦ h.keys ▸ hkeys w hw).trans h.keys
  kind field hfield value hvalue := by
    obtain hwritten | hold := mem_or_eq_of_value?_write hvalue
    · exact hkinds field hfield value hwritten
    · exact h.kind field hfield value hold

end Record

end RecordStore
