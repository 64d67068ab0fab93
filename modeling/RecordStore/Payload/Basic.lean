import RecordStore.Entries

/-!
# Payloads

The data that a command carries: a tree of objects, arrays and scalars. Numbers are kept as they
were written, since only the kind of the field they are meant for tells how to read them.
-/

namespace RecordStore

/-- The data that a command carries. -/
inductive Payload where
  /-- The absence of a value. -/
  | null
  /-- A truth value. -/
  | bool (value : Bool)
  /-- A number, by its numeral. -/
  | number (numeral : String)
  /-- A text. -/
  | text (value : String)
  /-- Items in order. -/
  | array (items : List Payload)
  /-- Values by key, in the order of first mention. -/
  | object (entries : List (String × Payload))

namespace Payload

/-- The value under a key of an object; no other payload has keys. -/
def get? (p : Payload) (key : String) : Option Payload :=
  match p with
  | object entries => entries.lookup key
  | _ => none

/-- What a message calls a payload of this form. -/
def formName : Payload → String
  | null => "null"
  | bool _ => "boolean"
  | number _ => "number"
  | text _ => "string"
  | array _ => "array"
  | object _ => "object"

end Payload

end RecordStore
