import Mathlib.Data.List.Pairwise
import RecordStore.Table.Change

/-!
# Indexes follow the records

`Index.ofRecords` is the index that the records call for: who holds which value under a key. The
indexes of a table are never computed that way. They are patched, and this module proves that
patching keeps them what `ofRecords` says, one record at a time and for a record anywhere among the
others.

* Entering a record's value (`add_ofRecords`) rests on no other record holding it: only then does
  nothing have to give way to it.
* Removing it (`leave_ofRecords`) rests on the same, and that is also what the ownership test comes
  to: the entry found under the value is the record's own.

So the statements about whole changes (`foldl_remove_picked`, `overwrite_of_unchanged`) ask for
records that hold different values, at every moment of the change.
-/

namespace RecordStore

/-! ### Records with different values -/

namespace Record

/-- The records do not hold the same value under a key. -/
def Apart (key : String) (r s : Record) : Prop :=
  ∀ v w, r.value? key = some v → s.value? key = some w → v.same w = false

theorem Apart.symm {key : String} {r s : Record} (h : Apart key r s) : Apart key s r := by
  intro v w hv hw
  rw [Bool.eq_false_iff]
  intro hsame
  have hfalse := h w v hw hv
  rw [Value.same_symm hsame] at hfalse
  cases hfalse

instance (key : String) : Std.Symm (Apart key) := ⟨fun _ _ ↦ Apart.symm⟩

/-- The records are listed by rising number. -/
def Rising (records : List Record) : Prop := records.Pairwise (·.id < ·.id)

/-- No two of the records hold the same value under any of the keys. -/
def Distinct (keys : List String) (records : List Record) : Prop :=
  ∀ key ∈ keys, records.Pairwise (Apart key)

theorem pairwise_apart_congr {key : String} {records others : List Record}
    (h : others.map (·.value? key) = records.map (·.value? key)) :
    others.Pairwise (Apart key) ↔ records.Pairwise (Apart key) := by
  have hfactor : ∀ rs : List Record, rs.Pairwise (Apart key) ↔
      (rs.map (·.value? key)).Pairwise
        fun a b ↦ ∀ v w, a = some v → b = some w → v.same w = false := fun rs ↦ by
    rw [List.pairwise_map]
    rfl
  rw [hfactor, h, ← hfactor]

theorem rising_congr {records others : List Record}
    (h : others.map (·.id) = records.map (·.id)) : Rising others ↔ Rising records := by
  have hfactor : ∀ rs : List Record, Rising rs ↔ (rs.map (·.id)).Pairwise (· < ·) :=
    fun rs ↦ List.pairwise_map.symm
  rw [hfactor, h, ← hfactor]

/-- Records listed by rising number have numbers of their own. -/
theorem Rising.id_ne {before after : List Record} {record : Record}
    (h : Rising (before ++ record :: after)) : ∀ r ∈ before ++ after, r.id ≠ record.id := by
  obtain ⟨-, hright, hcross⟩ := List.pairwise_append.1 h
  intro r hr
  rcases List.mem_append.1 hr with hr | hr
  · exact Nat.ne_of_lt (hcross r hr record List.mem_cons_self)
  · exact (Nat.ne_of_lt ((List.pairwise_cons.1 hright).1 r hr)).symm

theorem Distinct.sublist {keys : List String} {records others : List Record}
    (h : Distinct keys records) (hsub : List.Sublist others records) : Distinct keys others :=
  fun key hkey ↦ (h key hkey).sublist hsub

end Record

/-! ### The index of one key -/

namespace Index

open Record (Apart Rising)

/-- Who of the records holds which value under a key. -/
def ofRecords (key : String) (records : List Record) : Index :=
  records.filterMap fun record ↦ (record.value? key).map fun value ↦ (value, record.id)

variable {key : String} {pre post records : List Record} {record : Record} {value v : Value}

theorem mem_ofRecords {number : Nat} :
    (value, number) ∈ ofRecords key records ↔
      ∃ record ∈ records, record.id = number ∧ record.value? key = some value := by
  simp only [ofRecords, List.mem_filterMap, Option.map_eq_some_iff, Prod.mk.injEq]
  constructor
  · rintro ⟨record, hmem, _, hvalue, rfl, rfl⟩
    exact ⟨record, hmem, rfl, hvalue⟩
  · rintro ⟨record, hmem, rfl, hvalue⟩
    exact ⟨record, hmem, value, hvalue, rfl, rfl⟩

theorem ofRecords_append :
    ofRecords key (pre ++ post) = ofRecords key pre ++ ofRecords key post :=
  List.filterMap_append

theorem ofRecords_cons_of_none (h : record.value? key = none) :
    ofRecords key (record :: post) = ofRecords key post := by
  simp [ofRecords, h]

theorem ofRecords_cons_of_some (h : record.value? key = some value) :
    ofRecords key (record :: post) = (value, record.id) :: ofRecords key post := by
  simp [ofRecords, h]

/-- An index has no two entries for one value, if the records hold different values. -/
theorem pairwise_ofRecords (h : records.Pairwise (Apart key)) :
    (ofRecords key records).Pairwise fun e f ↦ e.1.same f.1 = false := by
  rw [ofRecords, List.pairwise_filterMap]
  refine h.imp fun {r s} hapart ↦ ?_
  rintro ⟨v, i⟩ hr ⟨w, j⟩ hs
  obtain ⟨_, hv, heq⟩ := Option.map_eq_some_iff.1 hr
  obtain ⟨_, hw, heq'⟩ := Option.map_eq_some_iff.1 hs
  cases heq
  cases heq'
  exact hapart v w hv hw

/-! ### Who holds a value -/

theorem exists_record_of_holder? {number : Nat}
    (h : (ofRecords key records).holder? value = some number) :
    ∃ r ∈ records, r.id = number ∧ ∃ v, r.value? key = some v ∧ v.same value = true := by
  obtain ⟨⟨v, i⟩, hfind, rfl⟩ := Option.map_eq_some_iff.1 h
  obtain ⟨r, hr, hid, hv⟩ := mem_ofRecords.1 (List.mem_of_find?_eq_some hfind)
  exact ⟨r, hr, hid, v, hv, by simpa using List.find?_some hfind⟩

/-- Nobody holds a value that no record holds. -/
theorem holder?_ofRecords_eq_none_iff :
    (ofRecords key records).holder? value = none ↔
      ∀ r ∈ records, ∀ v, r.value? key = some v → v.same value = false := by
  rw [holder?, Option.map_eq_none_iff, List.find?_eq_none]
  constructor
  · intro h r hr v hv
    simpa using h (v, r.id) (mem_ofRecords.2 ⟨r, hr, rfl, hv⟩)
  · rintro h ⟨v, number⟩ hmem
    obtain ⟨r, hr, -, hv⟩ := mem_ofRecords.1 hmem
    simp [h r hr v hv]

/-- **A value is found with the record that holds it**, if no other record does. -/
theorem holder?_ofRecords (hdistinct : records.Pairwise (Apart key)) (hmem : record ∈ records)
    (hvalue : record.value? key = some v) (hsame : v.same value = true) :
    (ofRecords key records).holder? value = some record.id := by
  cases hholder : (ofRecords key records).holder? value with
  | none =>
    have hfalse := holder?_ofRecords_eq_none_iff.1 hholder record hmem v hvalue
    rw [hsame] at hfalse
    cases hfalse
  | some number =>
    -- whoever is found holds the value too, and only one record can
    obtain ⟨r, hr, rfl, w, hw, hwsame⟩ := exists_record_of_holder? hholder
    by_cases heq : r = record
    · rw [heq]
    · have hapart := hdistinct.forall hr hmem heq w v hw hvalue
      rw [Value.same_trans hwsame (Value.same_symm hsame)] at hapart
      cases hapart

/-! ### Entering and removing a value -/

/-- An entry goes between those of the records with smaller numbers and the others. -/
theorem enter_append {before after : Index} {number : Nat} (hbefore : ∀ e ∈ before, e.2 < number)
    (hafter : ∀ e ∈ after, number < e.2) :
    enter value number (before ++ after) = before ++ (value, number) :: after := by
  induction before with
  | nil =>
    cases after with
    | nil => rfl
    | cons e rest =>
      obtain ⟨w, i⟩ := e
      rw [List.nil_append, enter, if_pos (hafter (w, i) List.mem_cons_self), List.nil_append]
  | cons e rest ih =>
    obtain ⟨w, i⟩ := e
    have hi : ¬ number < i := Nat.lt_asymm (hbefore (w, i) List.mem_cons_self)
    rw [List.cons_append, enter, if_neg hi, ih fun f hf ↦ hbefore f (List.mem_cons_of_mem _ hf),
      List.cons_append]

/-- Nothing is removed where no record holds the value. -/
theorem remove_ofRecords_eq_self
    (h : ∀ r ∈ records, ∀ v, r.value? key = some v → v.same value = false) :
    (ofRecords key records).remove value = ofRecords key records := by
  rw [remove, List.filter_eq_self]
  rintro ⟨w, number⟩ hmem
  obtain ⟨r, hr, -, hw⟩ := mem_ofRecords.1 hmem
  simp [h r hr w hw]

/-- Among records with different values under a key, no other one holds a record's value. -/
theorem same_eq_false_of_others (hdistinct : (pre ++ record :: post).Pairwise (Apart key))
    (hvalue : record.value? key = some value) :
    ∀ r ∈ pre ++ post, ∀ v, r.value? key = some v → v.same value = false := by
  obtain ⟨-, hright, hcross⟩ := List.pairwise_append.1 hdistinct
  intro r hr v hv
  obtain hr | hr := List.mem_append.1 hr
  · exact hcross r hr record List.mem_cons_self v value hv hvalue
  · exact ((List.pairwise_cons.1 hright).1 r hr).symm v value hv hvalue

/-- **Entering a record's value** makes the index that of the records with it. -/
theorem add_ofRecords (hrising : Rising (pre ++ record :: post))
    (hdistinct : (pre ++ record :: post).Pairwise (Apart key)) :
    (ofRecords key (pre ++ post)).add key record = ofRecords key (pre ++ record :: post) := by
  obtain ⟨-, hright, hcross⟩ := List.pairwise_append.1 hrising
  rw [add]
  split
  · next value hvalue =>
    have hbefore : ∀ e ∈ ofRecords key pre, e.2 < record.id := by
      rintro ⟨w, number⟩ hmem
      obtain ⟨r, hr, rfl, -⟩ := mem_ofRecords.1 hmem
      exact hcross r hr record List.mem_cons_self
    have hafter : ∀ e ∈ ofRecords key post, record.id < e.2 := by
      rintro ⟨w, number⟩ hmem
      obtain ⟨r, hr, rfl, -⟩ := mem_ofRecords.1 hmem
      exact (List.pairwise_cons.1 hright).1 r hr
    -- nothing gives way to the entry, and it goes where the record is
    rw [put, remove_ofRecords_eq_self (same_eq_false_of_others hdistinct hvalue),
      ofRecords_append, enter_append hbefore hafter, ofRecords_append,
      ofRecords_cons_of_some hvalue]
  · next hnone =>
    rw [ofRecords_append, ofRecords_append, ofRecords_cons_of_none hnone]

/-- **Removing a record's value** makes the index that of the other records. -/
theorem leave_ofRecords (hdistinct : (pre ++ record :: post).Pairwise (Apart key)) :
    (ofRecords key (pre ++ record :: post)).leave key record = ofRecords key (pre ++ post) := by
  rw [leave]
  split
  · next value hvalue =>
    have hother := same_eq_false_of_others hdistinct hvalue
    have hmem : record ∈ pre ++ record :: post := by simp
    have hremove : remove [(value, record.id)] value = [] := by
      simp [remove, Value.same_refl]
    have hcons : ofRecords key (pre ++ record :: post) =
        ofRecords key pre ++ [(value, record.id)] ++ ofRecords key post := by
      rw [ofRecords_append, ofRecords_cons_of_some hvalue, List.append_assoc,
        List.singleton_append]
    -- the ownership test succeeds, since nobody else holds the value
    rw [if_pos (holder?_ofRecords hdistinct hmem hvalue (Value.same_refl value)), hcons]
    calc remove (ofRecords key pre ++ [(value, record.id)] ++ ofRecords key post) value
        = remove (ofRecords key pre) value ++ remove [(value, record.id)] value ++
            remove (ofRecords key post) value := by simp only [remove, List.filter_append]
      _ = remove (ofRecords key (pre ++ post)) value := by
          rw [hremove, List.append_nil, ofRecords_append, remove, remove, remove,
            List.filter_append]
      _ = ofRecords key (pre ++ post) := remove_ofRecords_eq_self hother
  · next hnone =>
    rw [ofRecords_append, ofRecords_append, ofRecords_cons_of_none hnone]

end Index

/-! ### The indexes of several keys -/

namespace Indexes

open Record (Distinct Rising)

/-- Who of the records holds which value, under each of the keys. -/
def ofRecords (keys : List String) (records : List Record) : Indexes :=
  keys.map fun key ↦ (key, Index.ofRecords key records)

variable {keys : List String} {pre post records : List Record} {record : Record}

theorem keys_ofRecords : (ofRecords keys records).keys = keys := by
  simp [ofRecords, Entries.keys, Function.comp_def]

theorem lookup_ofRecords {key : String} (h : key ∈ keys) :
    (ofRecords keys records).lookup key = some (Index.ofRecords key records) := by
  induction keys with
  | nil => simp at h
  | cons k rest ih =>
    by_cases heq : key = k
    · rw [heq, ofRecords, List.map_cons, List.lookup_cons_self]
    · have hrest : key ∈ rest := (List.mem_cons.1 h).resolve_left heq
      rw [ofRecords, List.map_cons, List.lookup_cons, beq_false_of_ne heq]
      exact ih hrest

theorem holder?_ofRecords {key : String} (h : key ∈ keys) (value : Value) :
    (ofRecords keys records).holder? key value = (Index.ofRecords key records).holder? value := by
  rw [holder?, lookup_ofRecords h, Option.bind_some]

theorem add_ofRecords (hrising : Rising (pre ++ record :: post))
    (hdistinct : Distinct keys (pre ++ record :: post)) :
    (ofRecords keys (pre ++ post)).add record = ofRecords keys (pre ++ record :: post) := by
  rw [add, ofRecords, List.map_map, ofRecords]
  refine List.map_congr_left fun key hkey ↦ ?_
  exact congrArg (key, ·) (Index.add_ofRecords hrising (hdistinct key hkey))

theorem remove_ofRecords (hdistinct : Distinct keys (pre ++ record :: post)) :
    (ofRecords keys (pre ++ record :: post)).remove record = ofRecords keys (pre ++ post) := by
  rw [remove, ofRecords, List.map_map, ofRecords]
  refine List.map_congr_left fun key hkey ↦ ?_
  exact congrArg (key, ·) (Index.leave_ofRecords (hdistinct key hkey))

end Indexes

/-! ### Whole changes -/

namespace Table

open Record (Distinct Rising)

variable {keys : List String} {pre records : List Record} {mask : List Bool}

/-- **Deleting** the picked records one after another leaves the index of the spared ones. -/
theorem foldl_remove_picked (hdistinct : Distinct keys (pre ++ records)) :
    (picked records mask).foldl Indexes.remove (Indexes.ofRecords keys (pre ++ records)) =
      Indexes.ofRecords keys (pre ++ spared records mask) := by
  induction records generalizing pre mask with
  | nil => cases mask <;> rfl
  | cons record rest ih =>
    cases mask with
    | nil => rfl
    | cons met mask =>
      cases met with
      | true =>
        -- the records that were spared so far are in `pre`, and the removed ones are gone
        have hrest : Distinct keys (pre ++ rest) :=
          hdistinct.sublist (List.Sublist.append_left (List.sublist_cons_self record rest) pre)
        rw [picked, List.foldl_cons, Indexes.remove_ofRecords hdistinct, spared]
        exact ih hrest
      | false =>
        rw [List.append_cons] at hdistinct ⊢
        rw [picked, spared, List.append_cons pre record (spared rest mask)]
        exact ih hdistinct

variable {writes : List (String × Value)}

/-- The records after values have been written into those that a mask picks. -/
def written (writes : List (String × Value)) : List Record → List Bool → List Record
  | record :: records, true :: mask => record.write writes :: written writes records mask
  | record :: records, false :: mask => record :: written writes records mask
  | records, _ => records

theorem overwrite_fst (indexes : Indexes) :
    (overwrite writes records mask indexes).1 = written writes records mask := by
  induction records generalizing mask indexes with
  | nil => cases mask <;> rfl
  | cons record rest ih =>
    cases mask with
    | nil => rfl
    | cons met mask =>
      cases met with
      | true => exact congrArg (record.write writes :: ·) (ih _)
      | false => exact congrArg (record :: ·) (ih _)

theorem map_id_written : (written writes records mask).map (·.id) = records.map (·.id) := by
  induction records generalizing mask with
  | nil => cases mask <;> rfl
  | cons record rest ih =>
    cases mask with
    | nil => rfl
    | cons met mask =>
      cases met with
      | true => rw [written, List.map_cons, ih, Record.id_write, List.map_cons]
      | false => rw [written, List.map_cons, ih, List.map_cons]

/-- Writing leaves what the records hold under a key, if it leaves it in those that are picked. -/
theorem map_value?_written {key : String}
    (hsame : ∀ r ∈ picked records mask, (r.write writes).value? key = r.value? key) :
    (written writes records mask).map (·.value? key) = records.map (·.value? key) := by
  induction records generalizing mask with
  | nil => cases mask <;> rfl
  | cons record rest ih =>
    cases mask with
    | nil => rfl
    | cons met mask =>
      cases met with
      | true =>
        have hrecord := hsame record List.mem_cons_self
        rw [written, List.map_cons, hrecord, ih fun r hr ↦ hsame r (List.mem_cons_of_mem _ hr),
          List.map_cons]
      | false => rw [written, List.map_cons, ih hsame, List.map_cons]

/-- The indexes after the picked records have been written are those of the records, as long as
the values under the keys are not among what is written. -/
theorem overwrite_of_unchanged (hrising : Rising (pre ++ records))
    (hdistinct : Distinct keys (pre ++ records))
    (hsame : ∀ r ∈ picked records mask, ∀ key ∈ keys, (r.write writes).value? key = r.value? key) :
    (overwrite writes records mask (Indexes.ofRecords keys (pre ++ records))).2 =
      Indexes.ofRecords keys (pre ++ written writes records mask) := by
  induction records generalizing pre mask with
  | nil => cases mask <;> rfl
  | cons record rest ih =>
    cases mask with
    | nil => rfl
    | cons met mask =>
      cases met with
      | true =>
        -- the record in its new form stands among the others as it did in the old one
        have hrising' : Rising (pre ++ record.write writes :: rest) :=
          (Record.rising_congr (by simp [Record.id_write])).2 hrising
        have hdistinct' : Distinct keys (pre ++ record.write writes :: rest) := by
          intro key hkey
          have hvalue := hsame record (by simp [picked]) key hkey
          exact (Record.pairwise_apart_congr (by simp [hvalue])).2 (hdistinct key hkey)
        have hrest : ∀ r ∈ picked rest mask, ∀ key ∈ keys,
            (r.write writes).value? key = r.value? key :=
          fun r hr ↦ hsame r (List.mem_cons_of_mem _ hr)
        rw [overwrite, written, Indexes.remove_ofRecords hdistinct,
          Indexes.add_ofRecords hrising' hdistinct', List.append_cons pre,
          List.append_cons pre _ (written writes rest mask)]
        rw [List.append_cons] at hrising' hdistinct'
        exact ih hrising' hdistinct' hrest
      | false =>
        rw [List.append_cons] at hrising hdistinct ⊢
        rw [overwrite, written, List.append_cons pre record (written writes rest mask)]
        exact ih hrising hdistinct hsame

theorem overwrite_of_picked_eq_nil (h : picked records mask = []) (indexes : Indexes) :
    overwrite writes records mask indexes = (records, indexes) := by
  induction records generalizing mask indexes with
  | nil => cases mask <;> rfl
  | cons record rest ih =>
    cases mask with
    | nil => rfl
    | cons met mask =>
      cases met with
      | true => cases h
      | false =>
        rw [picked] at h
        rw [overwrite, ih h]

/-- Where a mask picks a single record, that record is overwritten, and nothing else. -/
theorem overwrite_of_single {record : Record} (h : picked records mask = [record]) :
    ∃ before after, records = before ++ record :: after ∧ ∀ writes indexes,
      overwrite writes records mask indexes =
        (before ++ record.write writes :: after,
          (indexes.remove record).add (record.write writes)) := by
  induction records generalizing mask with
  | nil => cases mask <;> cases h
  | cons first rest ih =>
    cases mask with
    | nil => cases h
    | cons met mask =>
      cases met with
      | true =>
        rw [picked, List.cons.injEq] at h
        obtain ⟨rfl, hnone⟩ := h
        refine ⟨[], rest, rfl, fun writes indexes ↦ ?_⟩
        rw [overwrite, overwrite_of_picked_eq_nil hnone, List.nil_append]
      | false =>
        obtain ⟨before, after, hrest, hoverwrite⟩ := ih h
        refine ⟨first :: before, after, by rw [hrest, List.cons_append], fun writes indexes ↦ ?_⟩
        rw [overwrite, hoverwrite writes indexes, List.cons_append]

end Table

end RecordStore
