import RecordStore.Fault

/-!
# Declarations of fields

A new type declares its fields in a payload: under the name of each field an object that may give
its `type`, whether it is `required` and whether it is `unique`. What is absent or null has a
default: a field holds texts, and is neither required nor unique.
-/

namespace RecordStore

/-- The kind of a name. -/
def Kind.named (name : String) : Except Fault Kind :=
  match ofName? name with
  | some kind => .ok kind
  | none => .error (.unknownKind name)

namespace Field

/-- The kind that a declaration gives to the field `name`. -/
def declaredKind (name : String) : Option Payload → Except Fault Kind
  | none | some .null => .ok .text
  | some (.text s) | some (.number s) => Kind.named s
  | some (.bool b) => Kind.named (if b then "true" else "false")
  | some _ => .error (.badField name)

/-- The truth value that a declaration gives to a property of the field `name`. -/
def declaredFlag (name : String) : Option Payload → Except Fault Bool
  | none | some .null => .ok false
  | some (.bool b) => .ok b
  | some (.text s) =>
    match boolOfText? s with
    | some b => .ok b
    | none => .error (.badField name)
  | some _ => .error (.badField name)

/-- The field that a declaration describes. -/
def declared (name : String) (properties : Payload) : Except Fault Field :=
  match properties with
  | .object _ => do
    let kind ← declaredKind name (properties.get? "type")
    let required ← declaredFlag name (properties.get? "required")
    let unique ← declaredFlag name (properties.get? "unique")
    return ⟨name, kind, required, unique⟩
  | _ => .error (.badField name)

/-- The fields that declarations describe, in order. -/
def declaredAll : List (String × Payload) → Except Fault (List Field)
  | [] => .ok []
  | (name, properties) :: rest => do
    let field ← declared name properties
    let fields ← declaredAll rest
    return field :: fields

end Field

end RecordStore
