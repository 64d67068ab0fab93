import RecordStore.Command.Verb
import RecordStore.Filter.Evaluation
import RecordStore.Filter.Parser

/-!
# Faults

The reasons for which a command is refused, each with its wording and its category. A command that
is refused changes nothing, so a fault is all there is to say about it.
-/

namespace RecordStore

/-- What is wrong with the shape of a command. -/
inductive CommandError where
  /-- There is no name of a type. -/
  | missingName
  /-- There is no object where the payload should be. -/
  | missingObject
  /-- The parentheses of the filter do not balance. -/
  | unbalancedFilter
  /-- Something follows the filter. -/
  | trailing (text : String)
  /-- The command asks for something else than rows. -/
  | noRows
  deriving DecidableEq, Repr

/-- The wording of the cause. -/
def CommandError.message : CommandError → String
  | missingName => "missing type name"
  | missingObject => "expected JSON object"
  | unbalancedFilter => "unbalanced parentheses in filter"
  | trailing text => "trailing characters: " ++ text
  | noRows => "only search commands return rows"

/-- Why a value cannot be stored in a field. -/
inductive ValueError where
  /-- The payload gives no value of the field's kind. -/
  | coercion (cause : CoercionError)
  /-- The value is of another kind than the field. -/
  | wrongKind (given expected : Kind)
  deriving DecidableEq, Repr

/-- The wording of the cause. -/
def ValueError.message : ValueError → String
  | coercion cause => cause.message
  | wrongKind given expected =>
    "value of kind " ++ given.name ++ " does not match field kind " ++ expected.name

/-- The reason for which a command is refused. -/
inductive Fault where
  /-- The command is blank. -/
  | emptyCommand
  /-- The command begins with no verb. -/
  | unknownCommand (word : String)
  /-- The command has the wrong shape. -/
  | badCommand (verb : Verb) (cause : CommandError)
  /-- The payload cannot be read. -/
  | badPayload
  /-- The filter cannot be read. -/
  | badFilter (cause : FilterSyntaxError)
  /-- A type of this name exists. -/
  | typeExists (name : String)
  /-- No type of this name exists. -/
  | typeNotFound (name : String)
  /-- A type is to have no fields. -/
  | noFields
  /-- A type is to have two fields of one name. -/
  | duplicateField (name : String)
  /-- There is no kind of this name. -/
  | unknownKind (name : String)
  /-- The declaration of a field cannot be understood, or its name is blank. -/
  | badField (name : String)
  /-- The field is declared for a type that has records. -/
  | lateField (name type : String)
  /-- The type has no field of this name. -/
  | fieldNotFound (name : String)
  /-- A value cannot be stored in a field. -/
  | badValue (field : String) (cause : ValueError)
  /-- A required field is given no value. -/
  | missingRequired (field : String)
  /-- Two records would hold one value in a unique field. -/
  | duplicateValue (field : String)
  /-- The filter cannot be evaluated. -/
  | filter (cause : FilterError)
  deriving DecidableEq

namespace Fault

/-- The wording of a fault. -/
def message : Fault → String
  | emptyCommand => "Invalid command format"
  | unknownCommand word => "Invalid command: " ++ word
  | badCommand verb cause => "Invalid " ++ verb.word ++ " syntax: " ++ cause.message
  | badPayload => "Invalid JSON format"
  | badFilter cause => "Invalid filter syntax: " ++ cause.message
  | typeExists name => "Data type already exists: " ++ name
  | typeNotFound name => "Data type not found: " ++ name
  | noFields => "Fields section is empty"
  | duplicateField name => "Duplicate field: " ++ name
  | unknownKind name => "Invalid data type: " ++ name
  | badField name => "Invalid field definition for: " ++ name
  | lateField name type =>
    "Invalid field definition for: " ++ name ++ " (type " ++ type ++ " already holds records)"
  | fieldNotFound name => "Field not found: " ++ name
  | badValue field cause => "Invalid value for field " ++ field ++ ": " ++ cause.message
  | missingRequired field => "Missing required field: " ++ field
  | duplicateValue field => "Duplicate value for unique field: " ++ field
  | filter cause => "Invalid filter: " ++ cause.message

/-- The broad categories of faults. -/
inductive Category where
  /-- The command, its payload or its filter cannot be read. -/
  | wording
  /-- A type or a field is declared wrongly, or does not exist. -/
  | schema
  /-- A payload gives no value of a field's kind. -/
  | value
  /-- A required or unique field forbids the change. -/
  | constraint
  /-- The filter has no meaning for the type. -/
  | filter
  deriving DecidableEq, Repr

/-- The category of a fault. -/
def category : Fault → Category
  | emptyCommand | unknownCommand _ | badCommand _ _ | badPayload | badFilter _ => .wording
  | typeExists _ | typeNotFound _ | noFields | duplicateField _ | unknownKind _ | badField _
  | lateField _ _ | fieldNotFound _ => .schema
  | badValue _ _ => .value
  | missingRequired _ | duplicateValue _ => .constraint
  | filter _ => .filter

end Fault

end RecordStore
