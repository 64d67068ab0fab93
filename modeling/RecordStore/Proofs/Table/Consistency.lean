import Mathlib.Data.List.Perm.Subperm
import RecordStore.Proofs.Table.Soundness
import RecordStore.Table.Consistency

/-!
# The check of the indexes is exact

`Table.consistent` may be asked of any table, also of one whose indexes went wrong. It compares the
index of a key with the column of values that the records hold under it, and only counts the entries
and looks up each value of the column. No entry of the index is ever asked where it comes from.

That is enough, because the column holds no value twice: its values lead to as many entries of the
index, and if there are no others, the index enters what the column does (`agrees_iff_perm`). An entry
that is stale, missing, misdirected or made twice would show. So the check succeeds exactly for the
tables whose indexes mirror their records (`consistent_iff_mirrors`), and a sound table is one of them
(`Sound.consistent`).

Values count as entered up to the ones that are the same, so `Index.said` lists them folded.
-/

namespace RecordStore

open Record (Apart)

namespace Index

/-- No value is entered twice: the index is a map from values to numbers. -/
def IsMap (index : Index) : Prop := index.Pairwise fun e f ↦ e.1.same f.1 = false

/-- What an index says: which value leads to which number, each value standing for all that are the
same. -/
def said (index : Index) : List (Value × Nat) := index.map fun e ↦ (e.1.folded, e.2)

/-- The index says what the records hold under a key, and nothing else. -/
structure Mirrors (index : Index) (key : String) (records : List Record) : Prop where
  /-- Every record holds a value. -/
  held : ∀ record ∈ records, (record.value? key).isSome = true
  /-- No two records hold the same. -/
  apart : records.Pairwise (Apart key)
  /-- No value is entered twice. Of lists that are maps this says nothing. -/
  isMap : index.IsMap
  /-- A value leads to a number exactly if the record of this number holds it. -/
  holder?_iff : ∀ value number, index.holder? value = some number ↔
    ∃ record ∈ records, record.id = number ∧ record.holds key value = true

variable {index column : Index} {key : String} {records : List Record} {value : Value} {number : Nat}

/-! ### What an index says -/

theorem isMap_iff : index.IsMap ↔ (index.said.map Prod.fst).Nodup := by
  simp only [IsMap, said, List.map_map, List.Nodup, List.pairwise_map, Function.comp_apply, Value.same,
    decide_eq_false_iff_not, ne_eq]

theorem isMap_congr (h : column.said.Perm index.said) : column.IsMap ↔ index.IsMap := by
  rw [isMap_iff, isMap_iff, (h.map Prod.fst).nodup_iff]

theorem IsMap.nodup_said (h : index.IsMap) : index.said.Nodup := (isMap_iff.1 h).of_map

theorem mem_said_of_holder? (h : index.holder? value = some number) :
    (value.folded, number) ∈ index.said := by
  obtain ⟨e, hfind, rfl⟩ := Option.map_eq_some_iff.1 h
  have hsame : e.1.same value = true := by simpa using List.find?_some hfind
  rw [← Value.same_iff.1 hsame]
  exact List.mem_map_of_mem (List.mem_of_find?_eq_some hfind)

/-- In a map, what is said of a value is what is found. -/
theorem IsMap.holder?_eq_some_iff (h : index.IsMap) :
    index.holder? value = some number ↔ (value.folded, number) ∈ index.said := by
  refine ⟨mem_said_of_holder?, fun hmem ↦ ?_⟩
  cases hfound : index.holder? value with
  | none =>
    obtain ⟨e, he, heq⟩ := List.mem_map.1 hmem
    rw [holder?, Option.map_eq_none_iff, List.find?_eq_none] at hfound
    exact absurd (Value.same_iff.2 (congrArg Prod.fst heq)) (hfound e he)
  | some other =>
    -- both numbers are said of one value
    have hother := mem_said_of_holder? hfound
    have heq := List.inj_on_of_nodup_map (isMap_iff.1 h) hother hmem rfl
    rw [(Prod.mk.inj heq).2]

end Index

namespace Table

open Index (IsMap Mirrors said ofRecords)

variable {table : Table} {index column : Index} {key : String} {records : List Record}

/-! ### The check of one index -/

theorem allDistinct_eq_true : allDistinct column = true ↔ IsMap column := by
  induction column with
  | nil => exact iff_of_true rfl List.Pairwise.nil
  | cons e rest ih => simp [allDistinct, IsMap, List.pairwise_cons, ih]

/-- **Counting is enough.** An index agrees with a column that holds no value twice if they say the
same, in some order. -/
theorem agrees_iff_perm :
    agrees index column = true ↔ IsMap column ∧ (said column).Perm (said index) := by
  simp only [agrees, Bool.and_eq_true, allDistinct_eq_true, beq_iff_eq, List.all_eq_true, and_assoc]
  refine and_congr_right fun hmap ↦ ⟨fun ⟨hlength, hfound⟩ ↦ ?_, fun hperm ↦ ⟨?_, ?_⟩⟩
  · have hsubset : said column ⊆ said index := by
      intro e he
      obtain ⟨⟨value, number⟩, hmem, rfl⟩ := List.mem_map.1 he
      exact Index.mem_said_of_holder? (hfound (value, number) hmem)
    refine (List.subperm_of_subset hmap.nodup_said hsubset).perm_of_length_le ?_
    simp [said, hlength]
  · simpa [said] using hperm.length_eq
  · intro e he
    rw [((Index.isMap_congr hperm).1 hmap).holder?_eq_some_iff]
    exact hperm.subset (List.mem_map_of_mem he)

theorem column?_eq_some_iff : column? key records = some column ↔
    (∀ record ∈ records, (record.value? key).isSome = true) ∧ column = ofRecords key records := by
  induction records generalizing column with
  | nil =>
    exact ⟨fun h ↦ ⟨List.forall_mem_nil _, (Option.some.inj h).symm⟩, fun h ↦ congrArg some h.2.symm⟩
  | cons record rest ih =>
    rw [column?, List.forall_mem_cons]
    cases hvalue : record.value? key with
    | none => simp
    | some value =>
      rw [Index.ofRecords_cons_of_some hvalue]
      cases hrest : column? key rest with
      | none =>
        have hnone : ¬∀ record ∈ rest, (record.value? key).isSome = true := fun hheld ↦ by
          rw [ih.2 ⟨hheld, rfl⟩] at hrest
          cases hrest
        simp [hnone]
      | some others =>
        obtain ⟨hheld, rfl⟩ := ih.1 hrest
        rw [Option.some.injEq, eq_comm, Option.isSome_some, eq_self, true_and, iff_and_self]
        exact fun _ ↦ hheld

/-! ### What the records say -/

theorem isMap_ofRecords_iff : IsMap (ofRecords key records) ↔ records.Pairwise (Apart key) := by
  refine ⟨fun h ↦ ?_, Index.pairwise_ofRecords⟩
  rw [IsMap, ofRecords, List.pairwise_filterMap] at h
  refine h.imp fun {r s} hrs v w hv hw ↦ ?_
  exact hrs (v, r.id) (by simp [hv]) (w, s.id) (by simp [hw])

theorem mem_said_ofRecords_iff {value : Value} {number : Nat} :
    (value.folded, number) ∈ said (ofRecords key records) ↔
      ∃ record ∈ records, record.id = number ∧ record.holds key value = true := by
  constructor
  · intro h
    obtain ⟨⟨v, i⟩, hmem, heq⟩ := List.mem_map.1 h
    obtain ⟨hfolded, rfl⟩ := Prod.mk.inj heq
    obtain ⟨record, hrecord, hid, hv⟩ := Index.mem_ofRecords.1 hmem
    exact ⟨record, hrecord, hid, by simp [Record.holds, hv, Value.same_iff.2 hfolded]⟩
  · rintro ⟨record, hrecord, hid, hholds⟩
    obtain ⟨v, hv, hsame⟩ := (Option.any_eq_true _ _).1 hholds
    rw [← Value.same_iff.1 hsame]
    exact List.mem_map_of_mem (f := fun e : Value × Nat ↦ (e.1.folded, e.2))
      (Index.mem_ofRecords.2 ⟨record, hrecord, hid, hv⟩)

/-- An index mirrors records that hold different values if it says what they do. -/
theorem perm_said_ofRecords_iff (hapart : records.Pairwise (Apart key)) :
    (said (ofRecords key records)).Perm (said index) ↔ IsMap index ∧ ∀ value number,
      index.holder? value = some number ↔
        ∃ record ∈ records, record.id = number ∧ record.holds key value = true := by
  have hcolumn : IsMap (ofRecords key records) := isMap_ofRecords_iff.2 hapart
  constructor
  · intro hperm
    have hmap : IsMap index := (Index.isMap_congr hperm).1 hcolumn
    refine ⟨hmap, fun value number ↦ ?_⟩
    rw [hmap.holder?_eq_some_iff, ← hperm.mem_iff, mem_said_ofRecords_iff]
  · rintro ⟨hmap, hholder⟩
    -- what either says is said of some value, and of values they say the same
    have hmem (value : Value) (number : Nat) : (value.folded, number) ∈ said (ofRecords key records) ↔
        (value.folded, number) ∈ said index := by
      rw [mem_said_ofRecords_iff, ← hholder, hmap.holder?_eq_some_iff]
    refine (List.perm_ext_iff_of_nodup hcolumn.nodup_said hmap.nodup_said).2 fun e ↦ ⟨?_, ?_⟩
    all_goals
      intro he
      obtain ⟨⟨value, number⟩, -, rfl⟩ := List.mem_map.1 he
    · exact (hmem value number).1 he
    · exact (hmem value number).2 he

/-- **The check of one index** succeeds exactly if the index mirrors the records. -/
theorem mirrors_iff : index.Mirrors key records ↔
    ∃ column, column? key records = some column ∧ agrees index column = true := by
  constructor
  · rintro ⟨hheld, hapart, hmap, hholder⟩
    have hperm := (perm_said_ofRecords_iff hapart).2 ⟨hmap, hholder⟩
    exact ⟨_, column?_eq_some_iff.2 ⟨hheld, rfl⟩,
      agrees_iff_perm.2 ⟨isMap_ofRecords_iff.2 hapart, hperm⟩⟩
  · rintro ⟨column, hcolumn, hagrees⟩
    obtain ⟨hheld, rfl⟩ := column?_eq_some_iff.1 hcolumn
    obtain ⟨hmap, hperm⟩ := agrees_iff_perm.1 hagrees
    have hapart := isMap_ofRecords_iff.1 hmap
    obtain ⟨hindex, hholder⟩ := (perm_said_ofRecords_iff hapart).1 hperm
    exact ⟨hheld, hapart, hindex, hholder⟩

theorem consistent_eq_true : table.consistent = true ↔ ∀ e ∈ table.indexes,
    ∃ column, column? e.1 table.records = some column ∧ agrees e.2 column = true := by
  rw [consistent, List.all_eq_true]
  refine forall₂_congr fun e _ ↦ ?_
  dsimp only
  cases hcolumn : column? e.1 table.records with
  | none => simp
  | some column => simp

/-- **The check is exact**, whatever the table is and however it came about. It succeeds if and only if
every index mirrors the records: all records hold a value under its key, no two hold the same, and the
index leads from a value to a number exactly if the record of this number holds the value, with no value
entered twice. -/
theorem consistent_iff_mirrors (table : Table) :
    table.consistent = true ↔
      ∀ key index, (key, index) ∈ table.indexes → index.Mirrors key table.records := by
  simp only [consistent_eq_true, mirrors_iff, Prod.forall]

/-- Entries are as many as there should be, but one leads from a value that no record holds. -/
example : consistent ⟨"T", .empty, [⟨0, [("n", .int 1)]⟩, ⟨1, [("n", .int 2)]⟩],
    [("n", [(.int 1, 0), (.int 3, 1)])], 2⟩ = false := by
  decide

/-- **Sound tables pass the check.** -/
theorem Sound.consistent (h : Sound table) : table.consistent = true := by
  rw [consistent_eq_true, h.indexed]
  intro e he
  obtain ⟨key, hkey, rfl⟩ := List.mem_map.1 he
  obtain ⟨field, hfield, -, rfl⟩ := Schema.mem_uniqueKeys.1 hkey
  refine ⟨_, column?_eq_some_iff.2 ⟨fun record hrecord ↦ ?_, rfl⟩,
    agrees_iff_perm.2 ⟨isMap_ofRecords_iff.2 (h.distinct _ hkey), .refl _⟩⟩
  obtain ⟨value, hvalue, -⟩ := (h.fits record hrecord).exists_value hfield
  rw [hvalue, Option.isSome_some]

end Table

end RecordStore
