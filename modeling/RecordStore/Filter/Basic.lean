/-!
# Filters

A filter is a Boolean combination of comparisons. Each side of a comparison is an operand as it was
written; only when the filter meets a type does it show which operand names a field and which is a
literal to be read as that field's kind.
-/

namespace RecordStore

/-- How the sides of a comparison are to stand to each other. -/
inductive Operator where
  /-- The sides are equal. -/
  | equal
  /-- The sides are not equal. -/
  | notEqual
  /-- The left side is less. -/
  | less
  /-- The left side is less or equal. -/
  | lessEqual
  /-- The left side is greater. -/
  | greater
  /-- The left side is greater or equal. -/
  | greaterEqual
  /-- The left side is a list that holds the right side. -/
  | includes
  deriving DecidableEq, Repr

namespace Operator

/-- The operator as it is written. -/
def symbol : Operator → String
  | equal => "="
  | notEqual => "!="
  | less => "<"
  | lessEqual => "<="
  | greater => ">"
  | greaterEqual => ">="
  | includes => "include"

/-- The operator that says the same once the sides have changed places. -/
def invert : Operator → Operator
  | less => greater
  | lessEqual => greaterEqual
  | greater => less
  | greaterEqual => lessEqual
  | op => op

theorem invert_invert (op : Operator) : op.invert.invert = op := by cases op <;> rfl

end Operator

/-- One side of a comparison, as it was written. -/
inductive Operand where
  /-- A name, which may be that of a field. -/
  | name (s : String)
  /-- The contents of a quoted text. -/
  | quoted (s : String)
  /-- A plain numeral. -/
  | number (numeral : String)
  /-- A truth value. -/
  | bool (b : Bool)
  /-- Any other word. -/
  | bare (word : String)
  deriving DecidableEq, Repr

namespace Operand

/-- The operand as a text, a quoted one without its quotes. -/
def text : Operand → String
  | name s | quoted s | number s | bare s => s
  | bool b => if b then "true" else "false"

/-- The operand as a literal: a quoted text has its quotes again, around the contents as they
are. -/
def literal : Operand → String
  | quoted s => "\"" ++ s ++ "\""
  | operand => operand.text

end Operand

/-- A Boolean combination of comparisons. -/
inductive Filter where
  /-- The operands stand to each other as the operator says. -/
  | comparison (left : Operand) (op : Operator) (right : Operand)
  /-- Both filters hold. -/
  | and (left right : Filter)
  /-- At least one of the filters holds. -/
  | or (left right : Filter)
  deriving DecidableEq, Repr

end RecordStore
