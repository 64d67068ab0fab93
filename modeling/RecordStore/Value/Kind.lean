import RecordStore.Entries
import RecordStore.Text.Canonical

/-!
# Kinds

The kind of a field says which values it holds. There are six kinds; each has one name under which
it is shown, and some have further names under which it may be declared.
-/

namespace RecordStore

open RecordStore.Text

/-- What a field holds. -/
inductive Kind where
  /-- A text. -/
  | text
  /-- A 64-bit integer. -/
  | int
  /-- A double. -/
  | double
  /-- A truth value. -/
  | bool
  /-- A moment. -/
  | time
  /-- A list of texts. -/
  | texts
  deriving DecidableEq, Repr

namespace Kind

/-- The name under which a kind is shown. -/
def name : Kind → String
  | text => "string"
  | int => "int"
  | double => "double"
  | bool => "bool"
  | time => "time"
  | texts => "string_list"

/-- The names under which kinds may be declared. -/
def declaredNames : Entries String Kind :=
  [("string", text), ("int", int), ("dbl", double), ("double", double), ("bool", bool),
   ("boolean", bool), ("time", time), ("arr_string", texts), ("list_string", texts),
   ("string_list", texts)]

/-- The kind of a name, whatever its case and the blanks around it. -/
def ofName? (s : String) : Option Kind := declaredNames.lookup (canonical s)

theorem ofName?_name (k : Kind) : ofName? k.name = some k := by
  cases k <;> decide +kernel

end Kind

end RecordStore
