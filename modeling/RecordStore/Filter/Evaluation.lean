import RecordStore.Filter.Basic
import RecordStore.Record
import RecordStore.Schema
import RecordStore.Value.Coercion

/-!
# Evaluating filters

A comparison is about a field if one of its sides is a name that the schema knows; the other side
is then a literal of the field's kind, whatever it looks like. A comparison with the field on the
right is evaluated with the sides exchanged. Where no side names a field, names are refused, and
literals are compared as the values they look like.

`evaluate` goes from left to right and stops as soon as the result is known, so an error further to
the right does not show. `check` looks for unknown names everywhere, and needs no record.
-/

namespace RecordStore

open RecordStore.Text RecordStore.Number

/-- Why a filter cannot be evaluated. -/
inductive FilterError where
  /-- A name is no field's. -/
  | unknownField (name : String)
  /-- Membership is tested where there is no field. -/
  | includesWithoutField
  /-- Membership is tested of a field that holds no list. -/
  | includesOfScalar (field : String) (kind : Kind)
  /-- A list is compared by another operator than membership. -/
  | listCompared (field : String)
  /-- A literal is none of the field's kind. -/
  | badLiteral (field : String) (cause : CoercionError)
  /-- The values have no order. -/
  | unordered (left right : Value) (op : Operator)
  deriving DecidableEq

namespace FilterError

/-- The wording of the cause. -/
def message : FilterError → String
  | unknownField name => "unknown field in filter: " ++ name
  | includesWithoutField => "include expects a string list field"
  | includesOfScalar field kind =>
    "include is only supported for string lists, " ++ field ++ " is " ++ kind.name
  | listCompared field => "cannot compare list field " ++ field ++ " directly, use include"
  | badLiteral field cause => field ++ ": " ++ cause.message
  | unordered left right op =>
    "cannot compare " ++ left.display ++ " with " ++ right.display ++ " using " ++ op.symbol

end FilterError

namespace Value

/-- Are the values equal in a filter? Within a kind they have to be the same; an integer equals the
double that it rounds to. -/
def equals (a b : Value) : Bool :=
  if a.kind = b.kind then a.same b else a.compare b == some .eq

/-- The value that a text looks like: a truth value, an integer, a double, a moment, or else a
text. -/
def inferred (s : String) : Value :=
  let s := unquote s
  let found :=
    (boolOfText? s).map bool <|>
    (integer? s).map int <|>
    (if isNumeral s then (Double.ofText? s).map double else none) <|>
    (Time.Moment.ofText? s).map time
  found.getD (text s)

end Value

namespace Operator

/-- Do the values stand to each other as the operator says? -/
def holds (op : Operator) (left right : Value) : Except FilterError Bool :=
  let ordered (test : Ordering → Bool) : Except FilterError Bool :=
    match left.compare right with
    | some order => .ok (test order)
    | none => .error (.unordered left right op)
  match op with
  | equal => .ok (left.equals right)
  | notEqual => .ok (!left.equals right)
  | less => ordered (· == .lt)
  | lessEqual => ordered (· != .gt)
  | greater => ordered (· == .gt)
  | greaterEqual => ordered (· != .lt)
  | includes => .error .includesWithoutField

end Operator

namespace Operand

/-- The field that an operand names. -/
def field? (schema : Schema) : Operand → Option Field
  | name s => schema.field? s
  | _ => none

/-- The name that an operand is. -/
def name? : Operand → Option String
  | name s => some s
  | _ => none

end Operand

namespace Filter

/-- The name that a comparison has to do without: the first of its names, if neither is a
field's. -/
def unknownName? (schema : Schema) (left right : Operand) : Option String :=
  if (left.field? schema).isSome || (right.field? schema).isSome then none
  else left.name?.or right.name?

/-- Compares what a record holds in a field with a literal. -/
def compareField (record : Record) (field : Field) (op : Operator) (literal : Operand) :
    Except FilterError Bool :=
  match record.value? field.key with
  | none => .error (.unknownField field.name)
  | some value =>
    if op = .includes then
      if field.kind = .texts then .ok (value.contains literal.text)
      else .error (.includesOfScalar field.name field.kind)
    else if field.kind = .texts then .error (.listCompared field.name)
    else
      match field.kind.ofLiteral literal.literal with
      | .ok expected => op.holds value expected
      | .error cause => .error (.badLiteral field.name cause)

/-- Does a comparison hold of a record? -/
def compare (schema : Schema) (record : Record) (left : Operand) (op : Operator)
    (right : Operand) : Except FilterError Bool :=
  match left.field? schema, right.field? schema with
  | some field, _ => compareField record field op right
  | none, some field => compareField record field op.invert left
  | none, none =>
    match unknownName? schema left right with
    | some name => .error (.unknownField name)
    | none => op.holds (Value.inferred left.text) (Value.inferred right.text)

/-- Does the filter hold of a record? -/
def evaluate (schema : Schema) (record : Record) : Filter → Except FilterError Bool
  | comparison left op right => compare schema record left op right
  | and left right =>
    match left.evaluate schema record with
    | .ok true => right.evaluate schema record
    | result => result
  | or left right =>
    match left.evaluate schema record with
    | .ok false => right.evaluate schema record
    | result => result

/-- Refuses a filter with a comparison whose names are all unknown, wherever it stands. -/
def check (schema : Schema) : Filter → Except FilterError Unit
  | comparison left _ right =>
    match unknownName? schema left right with
    | some name => .error (.unknownField name)
    | none => .ok ()
  | and left right | or left right =>
    match left.check schema with
    | .ok () => right.check schema
    | result => result

end Filter

end RecordStore
