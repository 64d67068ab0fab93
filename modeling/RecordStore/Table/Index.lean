import RecordStore.Record

/-!
# Unique indexes

The index of a unique field tells which record holds a value, without a look at the records. Values
that count as the same are one to it. `holder?` after each change is given by the lemmas below, in
terms of `Value.same` only.

Entries are kept in the order of the records' numbers, so that indexes with the same entries are
equal, whatever changes led to them.
-/

namespace RecordStore

/-- Which record holds which value of a unique field. -/
abbrev Index : Type := List (Value × Nat)

namespace Index

/-- The number of the record that holds a value. -/
def holder? (index : Index) (value : Value) : Option Nat :=
  (index.find? (·.1.same value)).map (·.2)

/-- The index without a value. -/
def remove (index : Index) (value : Value) : Index := index.filter (!·.1.same value)

/-- Adds an entry before the first one of a record with a greater number. -/
def enter (value : Value) (id : Nat) : Index → Index
  | [] => [(value, id)]
  | (v, i) :: rest =>
    if id < i then (value, id) :: (v, i) :: rest else (v, i) :: enter value id rest

/-- The index in which a record holds a value. -/
def put (index : Index) (value : Value) (id : Nat) : Index := (index.remove value).enter value id

/-- Enters what a record holds under a key. -/
def add (key : String) (record : Record) (index : Index) : Index :=
  match record.value? key with
  | some value => index.put value record.id
  | none => index

/-- Removes what a record holds under a key, if it is entered as this record's. -/
def leave (key : String) (record : Record) (index : Index) : Index :=
  match record.value? key with
  | some value => if index.holder? value = some record.id then index.remove value else index
  | none => index

theorem holder?_enter_same {index : Index} {a b : Value} (h : a.same b = true)
    (hn : index.holder? b = none) (id : Nat) : (index.enter a id).holder? b = some id := by
  induction index with
  | nil => simp [enter, holder?, h]
  | cons e rest ih =>
    cases hb : e.1.same b with
    | true => simp [holder?, hb] at hn
    | false =>
      have hr : holder? rest b = none := by simpa [holder?, hb] using hn
      unfold enter
      split
      · simp [holder?, h]
      · simpa [holder?, hb] using ih hr

theorem holder?_enter_other {index : Index} {a b : Value} (h : a.same b = false) (id : Nat) :
    (index.enter a id).holder? b = index.holder? b := by
  induction index with
  | nil => simp [enter, holder?, h]
  | cons e rest ih =>
    simp only [holder?] at ih ⊢
    unfold enter
    split
    · simp [h]
    · cases hb : e.1.same b <;> simp_all

theorem holder?_congr {index : Index} {a b : Value} (h : a.same b = true) :
    index.holder? a = index.holder? b := by
  have : ∀ v : Value, v.same a = v.same b := fun v ↦ by
    rw [Bool.eq_iff_iff]
    exact ⟨fun hv ↦ Value.same_trans hv h, fun hv ↦ Value.same_trans hv (Value.same_symm h)⟩
  simp [holder?, this]

theorem holder?_remove_same {index : Index} {a b : Value} (h : a.same b = true) :
    (index.remove a).holder? b = none := by
  rw [← holder?_congr h]
  simp [holder?, remove]

theorem holder?_remove_other {index : Index} {a b : Value} (h : a.same b = false) :
    (index.remove a).holder? b = index.holder? b := by
  have distinct : ∀ v : Value, v.same b = true → v.same a = false := fun v hb ↦ by
    cases ha : v.same a with
    | false => rfl
    | true => rw [Value.same_trans (Value.same_symm ha) hb] at h; cases h
  unfold holder? remove
  congr 1
  induction index with
  | nil => rfl
  | cons e rest ih =>
    cases hb : e.1.same b with
    | true => simp [hb, distinct e.1 hb]
    | false => cases ha : e.1.same a <;> simp [hb, ha, ih]

theorem holder?_put_same {index : Index} {a b : Value} (h : a.same b = true) (id : Nat) :
    (index.put a id).holder? b = some id :=
  holder?_enter_same h (holder?_remove_same h) id

theorem holder?_put_other {index : Index} {a b : Value} (h : a.same b = false) (id : Nat) :
    (index.put a id).holder? b = index.holder? b :=
  (holder?_enter_other h id).trans (holder?_remove_other h)

end Index

/-- The index of each unique field, by the field's canonical name. -/
abbrev Indexes : Type := Entries String Index

namespace Indexes

/-- Adds the values of a record to every index. -/
def add (indexes : Indexes) (record : Record) : Indexes :=
  indexes.map fun (key, index) ↦ (key, index.add key record)

/-- Removes the values of a record from every index, but only where they are entered as this
record's. -/
def remove (indexes : Indexes) (record : Record) : Indexes :=
  indexes.map fun (key, index) ↦ (key, index.leave key record)

/-- The number of the record that holds a value in a field. -/
def holder? (indexes : Indexes) (key : String) (value : Value) : Option Nat :=
  (indexes.lookup key).bind (·.holder? value)

end Indexes

end RecordStore
