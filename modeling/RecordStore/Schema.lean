import RecordStore.Value.Kind

/-!
# Schemas

A schema lists the fields of a type in the order of their declaration, which is the order in which
they are shown and checked. Fields are found by the canonical form of their names.
-/

namespace RecordStore

open RecordStore.Text

/-- The declaration of a field. -/
structure Field where
  /-- The name as it was declared. -/
  name : String
  /-- What the field holds. -/
  kind : Kind
  /-- Has every record to be given a value? -/
  required : Bool
  /-- Do no two records hold the same value? -/
  unique : Bool
  deriving DecidableEq, Repr

/-- The canonical name of a field, under which records and indexes keep its values. -/
def Field.key (field : Field) : String := canonical field.name

/-- The fields of a type. -/
structure Schema where
  /-- The fields in the order of their declaration. -/
  fields : List Field
  deriving DecidableEq, Repr

namespace Schema

/-- The schema without fields. -/
def empty : Schema := ⟨[]⟩

/-- The field of a name, in any of its spellings. -/
def field? (schema : Schema) (name : String) : Option Field :=
  schema.fields.find? (·.key == canonical name)

end Schema

end RecordStore
