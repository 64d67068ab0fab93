import RecordStore.Proofs.Table.Soundness

/-!
# The order of changes

An update makes its changes in the order in which their fields are first mentioned. Changes that
assign the same to each field are the same but for this order (`mem_congr`), and the table that they
lead to does not depend on it (`rewrite_congr`): a record has a place for each field already, so it
is the same whichever is written first, and the indexes of a sound table follow from the records.
-/

namespace RecordStore.Table

variable {table : Table} {mask : List Bool} {changes others : Entries String (Field × Option Value)}

theorem lookup_map_toWrite (changes : Entries String (Field × Option Value)) (key : String) :
    (changes.map toWrite).lookup key =
      (changes.lookup key).map fun change ↦ (toWrite (key, change)).2 :=
  Entries.lookup_map_value (fun key change ↦ (toWrite (key, change)).2) changes key

/-- Changes that assign the same are the same but for their order. -/
theorem mem_congr (hnodup : changes.keys.Nodup) (hnodup' : others.keys.Nodup)
    (h : ∀ key, changes.lookup key = others.lookup key) (change : String × Field × Option Value) :
    change ∈ changes ↔ change ∈ others := by
  obtain ⟨key, value⟩ := change
  rw [← Entries.lookup_eq_some_iff_mem hnodup, h, Entries.lookup_eq_some_iff_mem hnodup']

theorem keys_map_toWrite (changes : Entries String (Field × Option Value)) :
    (Entries.keys (changes.map toWrite)) = changes.keys := by
  rw [Entries.keys, List.map_map]
  rfl

theorem written_congr {writes others : List (String × Value)} {records : List Record}
    (h : ∀ record ∈ records, record.write writes = record.write others) (mask : List Bool) :
    written writes records mask = written others records mask := by
  induction records generalizing mask with
  | nil => cases mask <;> rfl
  | cons record rest ih =>
    obtain ⟨hrecord, hrest⟩ := List.forall_mem_cons.1 h
    rcases mask with _ | ⟨_ | _, mask⟩
    · rfl
    · exact congrArg (record :: ·) (ih hrest mask)
    · rw [written, written, hrecord, ih hrest]

/-- **The order of the changes does not matter** to the table that they lead to. -/
theorem rewrite_congr (h : Sound table) (hchanges : Assigns table.schema changes)
    (hothers : Assigns table.schema others)
    (hsame : ∀ key, changes.lookup key = others.lookup key)
    (hwrites : writes table.indexes ((picked table.records mask).map (·.id)) changes =
      .ok (changes.map toWrite))
    (hwrites' : writes table.indexes ((picked table.records mask).map (·.id)) others =
      .ok (others.map toWrite))
    (hsome : picked table.records mask ≠ []) :
    table.rewrite (changes.map toWrite) mask = table.rewrite (others.map toWrite) mask := by
  have hsound := h.rewrite hchanges hwrites hsome
  have hsound' := h.rewrite hothers hwrites' hsome
  have hwrite (record : Record) (hrecord : record ∈ table.records) :
      record.write (changes.map toWrite) = record.write (others.map toWrite) := by
    have hkeys := (h.fits record hrecord).keys
    refine Record.write_congr (hkeys ▸ h.nodup) ?_ ?_ ?_ fun key ↦ ?_
    · rw [keys_map_toWrite]
      exact hchanges.nodup
    · rw [keys_map_toWrite]
      exact hothers.nodup
    · intro w hw
      obtain ⟨⟨key, field, value⟩, hmem, rfl⟩ := List.mem_map.1 hw
      obtain ⟨hfield, rfl⟩ := hchanges.declared key field value hmem
      rw [hkeys]
      exact Schema.key_mem_keys hfield
    · rw [lookup_map_toWrite, lookup_map_toWrite, hsame]
  -- the records are the same, and settle the indexes
  have heq : table.rewrite (changes.map toWrite) mask =
      { table.rewrite (others.map toWrite) mask with
        indexes := (table.rewrite (changes.map toWrite) mask).indexes } := by
    rw [rewrite, rewrite, overwrite_fst, overwrite_fst, written_congr hwrite]
  rw [heq] at hsound ⊢
  exact hsound'.eq_of_indexes hsound

end RecordStore.Table
