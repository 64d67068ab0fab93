import RecordStore.Filter.Token

/-!
# Reading filters

A filter is a chain of conjunctions joined by `or`; a conjunction is a chain of atoms joined by
`and`; an atom is a comparison or a filter in parentheses. Both chains group to the left, and
parentheses leave nothing behind.

The reader takes the tokens one by one. What it has to remember is its place within a comparison,
the left sides that wait at the present level of parentheses, and those of the levels around it; so
it is one loop over the list, and a token that fits nowhere is named in the error.
-/

namespace RecordStore

/-- Why a text is no filter. -/
inductive FilterSyntaxError where
  /-- The text is no list of tokens. -/
  | token (cause : TokenError)
  /-- The token stands where no filter has it. -/
  | unexpected (token : Token)
  deriving DecidableEq, Repr

namespace FilterSyntaxError

open RecordStore.Text

/-- The wording of the cause. -/
def message : FilterSyntaxError → String
  | token (.unknownOperator symbol) => "unknown operator " ++ quoted symbol
  | token (.quoted (.unterminated decoded)) =>
    "unterminated string starting with " ++ quoted decoded
  | token (.quoted .badCodePoint) => "invalid unicode escape"
  | token (.quoted .unpairedSurrogate) => "unpaired surrogate in unicode escape"
  | unexpected t => "unexpected " ++ t.describe

end FilterSyntaxError

namespace Token

/-- The operand that a token is. -/
def operand? : Token → Option Operand
  | name s => some (.name s)
  | quoted s => some (.quoted s)
  | number s => some (.number s)
  | bool b => some (.bool b)
  | bare s => some (.bare s)
  | _ => none

/-- The operator that a token is. -/
def operator? : Token → Option Operator
  | operator op => some op
  | includes => some .includes
  | _ => none

end Token

namespace Filter

/-- The left sides that wait for a right side at one level of parentheses. -/
structure Level where
  /-- The left side of an `or`. -/
  disjunct : Option Filter
  /-- The left side of an `and`, which binds closer. -/
  conjunct : Option Filter

namespace Level

/-- A level at its beginning. -/
def start : Level := ⟨none, none⟩

/-- The conjunction that a new atom makes with the one that waits for it. -/
def conjoin (level : Level) (atom : Filter) : Filter :=
  match level.conjunct with
  | none => atom
  | some left => .and left atom

/-- All that a level makes once its last atom has been read. -/
def close (level : Level) (atom : Filter) : Filter :=
  match level.disjunct with
  | none => level.conjoin atom
  | some left => .or left (level.conjoin atom)

end Level

/-- What has been read of an atom. -/
inductive Place where
  /-- Nothing: an atom is due. -/
  | due
  /-- The left side of a comparison. -/
  | operand (left : Operand)
  /-- The left side and the operator of a comparison. -/
  | operator (left : Operand) (op : Operator)
  /-- The whole of it. -/
  | after (atom : Filter)

/-- Reads on at a place within the present level and those around it, the innermost first. -/
def readFrom (place : Place) (level : Level) (outer : List Level) :
    List Token → Except FilterSyntaxError Filter
  | [] => .error (.unexpected .finish)
  | t :: rest =>
    match place with
    | .due =>
      if t = .open then readFrom .due .start (level :: outer) rest
      else
        match t.operand? with
        | some left => readFrom (.operand left) level outer rest
        | none => .error (.unexpected t)
    | .operand left =>
      match t.operator? with
      | some op => readFrom (.operator left op) level outer rest
      | none => .error (.unexpected t)
    | .operator left op =>
      match t.operand? with
      | some right => readFrom (.after (.comparison left op right)) level outer rest
      | none => .error (.unexpected t)
    | .after atom =>
      match t, outer with
      | .and, _ => readFrom .due ⟨level.disjunct, some (level.conjoin atom)⟩ outer rest
      | .or, _ => readFrom .due ⟨some (level.close atom), none⟩ outer rest
      | .close, around :: outer => readFrom (.after (level.close atom)) around outer rest
      | .finish, [] => .ok (level.close atom)
      | t, _ => .error (.unexpected t)

/-- The filter that a list of tokens stands for. -/
def ofTokens (tokens : List Token) : Except FilterSyntaxError Filter :=
  readFrom .due .start [] tokens

/-- The filter that a text stands for. -/
def ofText (s : String) : Except FilterSyntaxError Filter :=
  match Token.ofText s with
  | .ok tokens => ofTokens tokens
  | .error cause => .error (.token cause)

end Filter

end RecordStore
