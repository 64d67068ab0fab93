import RecordStore.Proofs.Record
import RecordStore.Proofs.Table.Checks
import RecordStore.Proofs.Table.Tracking
import RecordStore.Proofs.Table.Outcomes

/-!
# Sound tables

A table is sound if its fields have names of their own, its records fit the schema, are listed by
rising number below the next one and hold different values in unique fields, and its indexes are
the ones that the records call for. Each change keeps a table sound, and none of the conditions
could be kept without the others:

* the indexes follow an insertion or an update because the values were different before
  (`Indexes.remove_ofRecords`) and still are (`Indexes.add_ofRecords`);
* the values are still different because the check in the indexes stands for a look at all records,
  which it does because the indexes were right (`holder?_of_sound`);
* an entry is found under the key of its field because names do not repeat, and a further field
  needs no entries because there are no records yet.
-/

namespace RecordStore

open RecordStore.Text
open Record (Apart Distinct Fits Rising)

/-- What holds of a table at every moment between two actions. -/
structure Table.Sound (table : Table) : Prop where
  /-- No name is blank. -/
  named : ∀ key ∈ table.schema.keys, key ≠ ""
  /-- No two fields have one name. -/
  nodup : table.schema.keys.Nodup
  /-- Every record holds a value of the right kind for each field. -/
  fits : ∀ record ∈ table.records, Fits table.schema record
  /-- The records are listed by number. -/
  rising : Rising table.records
  /-- The next number is greater than any given out. -/
  fresh : ∀ record ∈ table.records, record.id < table.nextId
  /-- Unique fields hold different values. -/
  distinct : Distinct table.schema.uniqueKeys table.records
  /-- The indexes say what the records do. -/
  indexed : table.indexes = Indexes.ofRecords table.schema.uniqueKeys table.records

namespace Table

variable {table : Table}

theorem sound_empty (name : String) : Sound (.empty name) where
  named := by simp [empty, Schema.empty, Schema.keys]
  nodup := by simp [empty, Schema.empty, Schema.keys]
  fits := by simp [empty]
  rising := List.Pairwise.nil
  fresh := by simp [empty]
  distinct := fun _ _ ↦ List.Pairwise.nil
  indexed := rfl

/-- The number found in the indexes is that of a record which holds the value. -/
theorem exists_holder_of_sound (h : Sound table) {key : String} (hkey : key ∈ table.schema.uniqueKeys)
    {value : Value} {number : Nat} (hholder : table.indexes.holder? key value = some number) :
    ∃ record ∈ table.records, record.id = number ∧
      ∃ v, record.value? key = some v ∧ v.same value = true := by
  rw [h.indexed, Indexes.holder?_ofRecords hkey] at hholder
  exact Index.exists_record_of_holder? hholder

/-- **The check in the indexes stands for a look at all records.** -/
theorem holder?_of_sound (h : Sound table) {key : String} (hkey : key ∈ table.schema.uniqueKeys)
    {value v : Value} {record : Record} (hmem : record ∈ table.records)
    (hvalue : record.value? key = some v) (hsame : v.same value = true) :
    table.indexes.holder? key value = some record.id := by
  rw [h.indexed, Indexes.holder?_ofRecords hkey]
  exact Index.holder?_ofRecords (h.distinct key hkey) hmem hvalue hsame

/-- The indexes of a sound table are settled by the rest of it. -/
theorem Sound.eq_of_indexes (h : Sound table) {indexes : Indexes}
    (hother : Sound { table with indexes := indexes }) :
    { table with indexes := indexes } = table := by
  have hindexes : indexes = table.indexes := hother.indexed.trans h.indexed.symm
  rw [hindexes]

/-! ### A further field -/

theorem uniqueKeys_declare (field : Field) :
    (table.declare field).schema.uniqueKeys =
      table.schema.uniqueKeys ++ if field.unique then [field.key] else [] := by
  cases hunique : field.unique <;> simp [declare, Schema.uniqueKeys, hunique]

theorem Sound.declare (h : Sound table) {field : Field} (hblank : field.key ≠ "")
    (hnew : table.schema.field? field.key = none) (hempty : table.records = []) :
    Sound (table.declare field) where
  named key hkey := by
    rw [Schema.keys, Table.declare, List.map_append, List.mem_append] at hkey
    rcases hkey with hkey | hkey
    · exact h.named key hkey
    · rw [List.mem_singleton.1 hkey]
      exact hblank
  nodup := by
    rw [Schema.field?_eq_none_iff, field.canonical_key] at hnew
    show ((table.schema.fields ++ [field]).map Field.key).Nodup
    rw [List.map_append]
    exact List.Nodup.append h.nodup (List.nodup_singleton _) (List.disjoint_singleton.2 hnew)
  fits := by simp [Table.declare, hempty]
  rising := h.rising
  fresh := h.fresh
  distinct := by
    intro key _
    show table.records.Pairwise (Apart key)
    rw [hempty]
    exact List.Pairwise.nil
  indexed := by
    have hindexes := h.indexed
    rw [uniqueKeys_declare]
    show (if field.unique then Entries.put field.key [] table.indexes else table.indexes) =
      Indexes.ofRecords _ table.records
    cases hunique : field.unique with
    | false => simpa using hindexes
    | true =>
      -- a new index is empty, as it has to be while there are no records
      have hnotmem : field.key ∉ table.indexes.keys := by
        rw [hindexes, Indexes.keys_ofRecords]
        rw [Schema.field?_eq_none_iff, field.canonical_key] at hnew
        exact fun hmem ↦ hnew ((Schema.uniqueKeys_sublist _).subset hmem)
      rw [if_pos rfl, if_pos rfl, Entries.put_of_not_mem hnotmem, hindexes, hempty]
      simp [Indexes.ofRecords, Index.ofRecords]

/-! ### A further record -/

/-- A record that is completed from admitted values fits. -/
theorem fits_completed {schema : Schema} (hnodup : schema.keys.Nodup) {given : Entries String Value}
    (hgiven : admitAll schema given = .ok ()) (id : Nat) :
    Fits schema ⟨id, completed schema given⟩ where
  keys := by simp [completed, Entries.keys, Schema.keys, Function.comp_def]
  kind field hfield value hvalue := by
    have hlookup : (completed schema given).lookup field.key =
        some ((given.lookup field.key).getD field.kind.default) :=
      Entries.lookup_map_of_mem
        (fun field : Field ↦ (given.lookup field.key).getD field.kind.default) hnodup hfield
    obtain rfl : (given.lookup field.key).getD field.kind.default = value :=
      Option.some.inj (hlookup.symm.trans hvalue)
    cases hlook : given.lookup field.key with
    | none => exact Value.kind_default field.kind
    | some v =>
      -- the value was admitted for the field of its key, and that is this one
      obtain ⟨other, hother, hkind⟩ := admitAll_eq_ok hgiven (Entries.mem_of_lookup hlook)
      rw [Schema.field?_key hnodup hfield, Option.some.injEq] at hother
      rw [hother]
      exact hkind

theorem Sound.append (h : Sound table) {given : Entries String Value}
    (hgiven : admitAll table.schema given = .ok ())
    (hfree : table.firstTaken? (completed table.schema given) = none) :
    Sound (table.append (completed table.schema given)) := by
  have hfits := fits_completed h.nodup hgiven table.nextId
  have hrising : Rising (table.records ++ [⟨table.nextId, completed table.schema given⟩]) := by
    refine List.pairwise_append.2 ⟨h.rising, List.pairwise_singleton _ _, ?_⟩
    intro record hmem _ hnew
    rw [List.mem_singleton.1 hnew]
    exact h.fresh record hmem
  have hdistinct : Distinct table.schema.uniqueKeys
      (table.records ++ [⟨table.nextId, completed table.schema given⟩]) := by
    intro key hkey
    refine List.pairwise_append.2 ⟨h.distinct key hkey, List.pairwise_singleton _ _, ?_⟩
    intro record hmem _ hnew v w hv hw
    rw [List.mem_singleton.1 hnew] at hw
    obtain ⟨field, hfield, hunique, rfl⟩ := Schema.mem_uniqueKeys.1 hkey
    -- a record with the same value would have been found
    rw [Bool.eq_false_iff]
    intro hsame
    have hholder := holder?_of_sound h hkey hmem hv hsame
    have hcheck := List.find?_eq_none.1 hfree field hfield
    have hvalue : (completed table.schema given).lookup field.key = some w := hw
    rw [hunique, hvalue, Option.bind_some, hholder] at hcheck
    exact hcheck rfl
  exact {
    named := h.named
    nodup := h.nodup
    fits := by
      intro record hmem
      rcases List.mem_append.1 hmem with hold | hnew
      · exact h.fits record hold
      · rw [List.mem_singleton.1 hnew]
        exact hfits
    rising := hrising
    fresh := by
      intro record hmem
      rcases List.mem_append.1 hmem with hold | hnew
      · exact Nat.lt_succ_of_lt (h.fresh record hold)
      · rw [List.mem_singleton.1 hnew]
        exact Nat.lt_succ_self table.nextId
    distinct := hdistinct
    indexed := by
      have hadd := Indexes.add_ofRecords hrising hdistinct
      rw [List.append_nil, ← h.indexed] at hadd
      exact hadd }

/-! ### Fewer records -/

theorem spared_sublist (records : List Record) (mask : List Bool) :
    List.Sublist (spared records mask) records := by
  induction records generalizing mask with
  | nil => cases mask <;> exact List.Sublist.refl []
  | cons record rest ih =>
    cases mask with
    | nil => exact List.Sublist.refl _
    | cons met mask =>
      cases met with
      | true => exact (ih mask).cons record
      | false => exact (ih mask).cons_cons record

theorem Sound.drop (h : Sound table) (mask : List Bool) : Sound (table.drop mask) := by
  have hsub := spared_sublist table.records mask
  exact {
    named := h.named
    nodup := h.nodup
    fits := fun record hmem ↦ h.fits record (hsub.subset hmem)
    rising := List.Pairwise.sublist hsub h.rising
    fresh := fun record hmem ↦ h.fresh record (hsub.subset hmem)
    distinct := h.distinct.sublist hsub
    indexed := by
      show (picked table.records mask).foldl Indexes.remove table.indexes = _
      rw [h.indexed]
      have hdistinct : Distinct table.schema.uniqueKeys ([] ++ table.records) := h.distinct
      exact foldl_remove_picked hdistinct }

/-! ### Other values -/

theorem mem_written {writes : List (String × Value)} {records : List Record} {mask : List Bool}
    {record : Record} (h : record ∈ written writes records mask) :
    ∃ old ∈ records, record = old ∨ record = old.write writes := by
  induction records generalizing mask with
  | nil => cases mask <;> cases h
  | cons first rest ih =>
    cases mask with
    | nil => exact ⟨record, h, .inl rfl⟩
    | cons met mask =>
      cases met with
      | true =>
        rcases List.mem_cons.1 h with rfl | h
        · exact ⟨first, List.mem_cons_self, .inr rfl⟩
        · obtain ⟨old, hold, heq⟩ := ih h
          exact ⟨old, List.mem_cons_of_mem _ hold, heq⟩
      | false =>
        rcases List.mem_cons.1 h with rfl | h
        · exact ⟨record, List.mem_cons_self, .inl rfl⟩
        · obtain ⟨old, hold, heq⟩ := ih h
          exact ⟨old, List.mem_cons_of_mem _ hold, heq⟩

variable {changes : Entries String (Field × Option Value)} {mask : List Bool}

theorem Assigns.fits_write {schema : Schema} (hnodup : schema.keys.Nodup)
    (hchanges : Assigns schema changes) {record : Record} (h : Fits schema record) :
    Fits schema (record.write (changes.map toWrite)) := by
  refine h.write ?_ ?_
  · intro w hw
    obtain ⟨⟨key, field, value⟩, hmem, rfl⟩ := List.mem_map.1 hw
    obtain ⟨hfield, rfl⟩ := hchanges.declared key field value hmem
    exact Schema.key_mem_keys hfield
  · intro field hfield v hw
    obtain ⟨⟨key, other, value⟩, hmem, heq⟩ := List.mem_map.1 hw
    rw [toWrite, Prod.mk.injEq] at heq
    obtain ⟨rfl, rfl⟩ := heq
    obtain ⟨hother, hkey⟩ := hchanges.declared field.key other value hmem
    obtain rfl := Schema.eq_of_key_eq hnodup hfield hother hkey
    cases value with
    | none => exact Value.kind_default field.kind
    | some v => exact hchanges.kind field.key field v hmem

/-- A record may be given values that no other record holds. -/
theorem Sound.distinct_write (h : Sound table) {writes : List (String × Value)}
    {before after : List Record} {record : Record}
    (hrecords : table.records = before ++ record :: after)
    (hfree : ∀ key ∈ table.schema.uniqueKeys, ∀ value, (key, value) ∈ writes →
      ∀ number, table.indexes.holder? key value = some number → number = record.id) :
    Distinct table.schema.uniqueKeys (before ++ record.write writes :: after) := by
  intro key hkey
  have hdistinct := h.distinct key hkey
  have hrising := h.rising
  rw [hrecords] at hdistinct hrising
  have hnew : ∀ r ∈ before ++ after, Apart key r (record.write writes) := by
    intro r hr v w hv hw
    rcases Record.mem_or_eq_of_value?_write hw with hwritten | hold
    · -- whoever held a value that is written would be this record
      rw [Bool.eq_false_iff]
      intro hsame
      have hmem : r ∈ table.records := by
        rw [hrecords]
        exact (List.Sublist.append_left (List.sublist_cons_self record after) before).subset hr
      exact hrising.id_ne r hr (hfree key hkey w hwritten r.id (holder?_of_sound h hkey hmem hv hsame))
    · exact Index.same_eq_false_of_others hdistinct hold r hr v hv
  obtain ⟨hleft, hright, hcross⟩ := List.pairwise_append.1 hdistinct
  refine List.pairwise_append.2 ⟨hleft, List.pairwise_cons.2 ⟨?_, hright.of_cons⟩, ?_⟩
  · exact fun r hr ↦ (hnew r (List.mem_append_right before hr)).symm
  · intro r hr s hs
    rcases List.mem_cons.1 hs with rfl | hs
    · exact hnew r (List.mem_append_left after hr)
    · exact hcross r hr s (List.mem_cons_of_mem _ hs)

/-- Where the checks of an update pass, unique fields hold different values afterwards too, and the
indexes have followed. -/
theorem Sound.tracks_rewrite (h : Sound table) (hchanges : Assigns table.schema changes)
    {writes : List (String × Value)}
    (hwrites : Table.writes table.indexes ((picked table.records mask).map (·.id)) changes =
      .ok writes)
    (hsome : picked table.records mask ≠ []) :
    Distinct table.schema.uniqueKeys (table.rewrite writes mask).records ∧
      (table.rewrite writes mask).indexes =
        Indexes.ofRecords table.schema.uniqueKeys (table.rewrite writes mask).records := by
  obtain ⟨rfl, hunique⟩ := writes_eq_ok hwrites
  -- what is written under a key of a unique field has passed the check of that field
  have hchecked : ∀ key ∈ table.schema.uniqueKeys, ∀ value, (key, value) ∈ changes.map toWrite →
      (picked table.records mask).length ≤ 1 ∧ ∀ number,
        table.indexes.holder? key value = some number →
          number ∈ (picked table.records mask).map (·.id) := by
    intro key hkey value hw
    obtain ⟨⟨k, field, v⟩, hmem, heq⟩ := List.mem_map.1 hw
    obtain ⟨other, hother, hotherunique, rfl⟩ := Schema.mem_uniqueKeys.1 hkey
    rw [toWrite, Prod.mk.injEq] at heq
    obtain ⟨rfl, rfl⟩ := heq
    obtain ⟨hfield, hfieldkey⟩ := hchanges.declared other.key field v hmem
    obtain rfl := Schema.eq_of_key_eq h.nodup hother hfield hfieldkey
    have hcheck := hunique (other.key, other, v) hmem hotherunique
    rw [List.length_map] at hcheck
    exact hcheck
  rcases hpicked : picked table.records mask with _ | ⟨record, _ | ⟨second, rest⟩⟩
  · exact absurd hpicked hsome
  · -- one record: it may change its value, if nobody else holds the new one
    obtain ⟨before, after, hrecords, hoverwrite⟩ := overwrite_of_single hpicked
    have hdistinct := h.distinct
    have hrising := h.rising
    rw [hrecords] at hdistinct hrising
    have hdistinct' := h.distinct_write hrecords fun key hkey value hw number hholder ↦ by
      have hnumber := (hchecked key hkey value hw).2 number hholder
      rw [hpicked] at hnumber
      exact List.mem_singleton.1 hnumber
    have hrising' : Rising (before ++ record.write (changes.map toWrite) :: after) :=
      (Record.rising_congr (by simp [Record.id_write])).2 hrising
    have hindexed := h.indexed
    rw [hrecords] at hindexed
    rw [Table.rewrite, hoverwrite, hindexed, Indexes.remove_ofRecords hdistinct]
    exact ⟨hdistinct', Indexes.add_ofRecords hrising' hdistinct'⟩
  · -- several records: no unique field is written at all
    have hsame : ∀ r ∈ picked table.records mask, ∀ key ∈ table.schema.uniqueKeys,
        (r.write (changes.map toWrite)).value? key = r.value? key := by
      intro r _ key hkey
      refine Record.value?_write_of_not_mem fun w hw heq ↦ ?_
      have hlength := (hchecked key hkey w.2 (heq ▸ hw)).1
      rw [hpicked] at hlength
      simp at hlength
    have hindexed : (overwrite (changes.map toWrite) table.records mask table.indexes).2 =
        Indexes.ofRecords table.schema.uniqueKeys
          (written (changes.map toWrite) table.records mask) := by
      have hrising : Rising ([] ++ table.records) := h.rising
      have hdistinct : Distinct table.schema.uniqueKeys ([] ++ table.records) := h.distinct
      rw [h.indexed]
      exact overwrite_of_unchanged hrising hdistinct hsame
    rw [Table.rewrite, overwrite_fst]
    refine ⟨fun key hkey ↦ ?_, hindexed⟩
    exact (Record.pairwise_apart_congr
      (map_value?_written fun r hr ↦ hsame r hr key hkey)).2 (h.distinct key hkey)

theorem Sound.rewrite (h : Sound table) (hchanges : Assigns table.schema changes)
    {writes : List (String × Value)}
    (hwrites : Table.writes table.indexes ((picked table.records mask).map (·.id)) changes =
      .ok writes)
    (hsome : picked table.records mask ≠ []) : Sound (table.rewrite writes mask) := by
  obtain ⟨hdistinct, hindexed⟩ := h.tracks_rewrite hchanges hwrites hsome
  obtain ⟨rfl, -⟩ := writes_eq_ok hwrites
  have hrecords : (table.rewrite (changes.map toWrite) mask).records =
      written (changes.map toWrite) table.records mask := overwrite_fst table.indexes
  exact {
    named := h.named
    nodup := h.nodup
    fits := by
      intro record hmem
      rw [hrecords] at hmem
      obtain ⟨old, hold, rfl | rfl⟩ := mem_written hmem
      · exact h.fits record hold
      · exact hchanges.fits_write h.nodup (h.fits old hold)
    rising := by
      rw [hrecords]
      exact (Record.rising_congr map_id_written).2 h.rising
    fresh := by
      intro record hmem
      rw [hrecords] at hmem
      obtain ⟨old, hold, rfl | rfl⟩ := mem_written hmem
      · exact h.fresh record hold
      · rw [Record.id_write]
        exact h.fresh old hold
    distinct := hdistinct
    indexed := hindexed }

end Table

end RecordStore
