import RecordStore.Entries
import RecordStore.Value.Basic

/-!
# Records

A record holds a value for each field of its type, under the field's canonical name. Its number
tells it from all other records that its type ever held.
-/

namespace RecordStore

open RecordStore.Text

/-- An instance of a type. -/
structure Record where
  /-- The number of the record within its type. -/
  id : Nat
  /-- The values, by canonical name of the field. -/
  values : Entries String Value
  deriving DecidableEq

namespace Record

/-- The value under a canonical name. -/
def value? (record : Record) (key : String) : Option Value := record.values.lookup key

/-- The value of a field, by any spelling of its name. -/
def get? (record : Record) (name : String) : Option Value := record.value? (canonical name)

/-- The record with a value replaced. -/
def set (record : Record) (key : String) (value : Value) : Record :=
  { record with values := Entries.put key value record.values }

/-- The record with values replaced, one after another. -/
def write (record : Record) (writes : List (String × Value)) : Record :=
  writes.foldl (fun record (key, value) ↦ record.set key value) record

theorem value?_set_self (record : Record) (key : String) (value : Value) :
    (record.set key value).value? key = some value :=
  Entries.lookup_put_self key value record.values

theorem value?_set_of_ne (record : Record) {key other : String} (h : other ≠ key) (value : Value) :
    (record.set key value).value? other = record.value? other :=
  Entries.lookup_put_of_ne h value record.values

/-- Writing keeps the number of a record. -/
theorem id_write (record : Record) (writes : List (String × Value)) :
    (record.write writes).id = record.id := by
  induction writes generalizing record with
  | nil => rfl
  | cons w rest ih => exact ih (record.set w.1 w.2)

end Record

end RecordStore
