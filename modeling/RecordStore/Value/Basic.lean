import RecordStore.Number.DoubleText
import RecordStore.Time.MomentText
import RecordStore.Value.Kind

/-!
# Values

What a record holds in a field: a value of one of the six kinds. There is no empty value; a field
that was not given one holds the default of its kind.

`same` is the equality that unique fields and filters go by. It is strict on the kind, and tells
doubles apart by their words once the two zeros are folded into one, so that even a NaN is the same
as itself.
-/

namespace RecordStore

open RecordStore.Number RecordStore.Time

/-- What a record holds in a field. -/
inductive Value where
  /-- A text. -/
  | text (s : String)
  /-- A 64-bit integer. -/
  | int (n : Int64)
  /-- A double. -/
  | double (d : Double)
  /-- A truth value. -/
  | bool (b : Bool)
  /-- A moment. -/
  | time (m : Moment)
  /-- A list of texts. -/
  | texts (items : List String)
  deriving DecidableEq

/-- The value of a field that was not given one. -/
def Kind.default : Kind → Value
  | text => .text ""
  | int => .int 0
  | double => .double Double.zero
  | bool => .bool false
  | time => .time Moment.epoch
  | texts => .texts []

namespace Value

/-- The kind of a value. -/
def kind : Value → Kind
  | text _ => .text
  | int _ => .int
  | double _ => .double
  | bool _ => .bool
  | time _ => .time
  | texts _ => .texts

/-- The value that stands for all that are the same: a negative zero becomes zero. -/
def folded : Value → Value
  | double d => double d.foldZero
  | v => v

/-- Do the two values count as one? -/
def same (a b : Value) : Bool := decide (a.folded = b.folded)

/-- The order of two values: texts by code point, moments by time, `false` before `true`, and
numbers by size, an integer being rounded to a double beside one. Lists and values of otherwise
different kinds have no order. -/
def compare : Value → Value → Option Ordering
  | int a, int b => some (Ord.compare a.toInt b.toInt)
  | double a, double b => some (a.foldZero.compare b.foldZero)
  | int a, double b => some ((Double.ofInt a.toInt).compare b.foldZero)
  | double a, int b => some (a.foldZero.compare (Double.ofInt b.toInt))
  | text a, text b => some (Ord.compare a b)
  | bool a, bool b => some (Ord.compare a b)
  | time a, time b => some (a.compare b)
  | _, _ => none

/-- Is the value a list that holds the text? -/
def contains (v : Value) (item : String) : Bool :=
  match v with
  | texts items => items.contains item
  | _ => false

/-- The text that shows a value. -/
def display : Value → String
  | text s => s
  | int n => toString n.toInt
  | double d => d.text
  | bool b => if b then "true" else "false"
  | time m => m.text
  | texts items => "[" ++ ", ".intercalate items ++ "]"

theorem kind_default (k : Kind) : k.default.kind = k := by cases k <;> rfl

theorem same_iff {a b : Value} : a.same b = true ↔ a.folded = b.folded := decide_eq_true_iff

theorem same_refl (v : Value) : v.same v = true := same_iff.2 rfl

theorem same_symm {a b : Value} (h : a.same b = true) : b.same a = true :=
  same_iff.2 (same_iff.1 h).symm

theorem same_trans {a b c : Value} (h₁ : a.same b = true) (h₂ : b.same c = true) :
    a.same c = true :=
  same_iff.2 ((same_iff.1 h₁).trans (same_iff.1 h₂))

end Value

end RecordStore
