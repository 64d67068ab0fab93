import RecordStore.Command.Declaration
import RecordStore.Payload.Reader

/-!
# Statements

A command is one line of text: a verb, the name of a type, and what the verb asks for, a filter in
parentheses or a payload in braces or, to update, the one and then the other. The statement is what
the line says; whether it makes sense for the types that exist is not asked here.

The end of a filter is found before the filter is read: it is the first closing parenthesis that
balances the opening one, not counting what stands between quotes.
-/

namespace RecordStore

open RecordStore.Text

/-- What a command says. -/
inductive Statement where
  /-- There is a new type with these fields. -/
  | create (type : String) (fields : List Field)
  /-- There is a new record with these values. -/
  | insert (type : String) (values : Entries String Payload)
  /-- The records that the filter selects have these values. -/
  | update (type : String) (filter : Option Filter) (values : Entries String Payload)
  /-- The records that the filter selects are removed. -/
  | delete (type : String) (filter : Option Filter)
  /-- The records that the filter selects are shown. -/
  | search (type : String) (filter : Option Filter)

namespace Statement

/-! ### The parts of a command -/

/-- Does the name of a type end before the character? -/
def endsName (c : Char) : Bool := isBlank c || c = '{' || c = '('

/-- Takes the name of a type off the front, and the blanks off both ends of what follows it. -/
def splitName (verb : Verb) (cs : List Char) : Except Fault (String × List Char) :=
  let cs := skipBlanks cs
  match cs.takeWhile (!endsName ·) with
  | [] => .error (.badCommand verb .missingName)
  | name => .ok (String.ofList name, trimChars (cs.dropWhile (!endsName ·)))

/-- The entries of the object that the characters stand for. -/
def readPayload (verb : Verb) (cs : List Char) : Except Fault (Entries String Payload) :=
  match cs with
  | '{' :: _ =>
    match Payload.ofChars? cs with
    | none => .error .badPayload
    | some (.object entries) => .ok entries
    | some _ => .error (.badCommand verb .missingObject)
  | _ => .error (.badCommand verb .missingObject)

/-- Where a character stands in relation to quoted texts. -/
inductive Quotation where
  /-- Outside of them. -/
  | outside
  /-- Inside of one. -/
  | inside
  /-- Inside of one, after a backslash. -/
  | escaped
  deriving DecidableEq, Repr

/-- The relation to quoted texts after a character. -/
def Quotation.next (q : Quotation) (c : Char) : Quotation :=
  match q with
  | outside => if c = '"' then inside else outside
  | inside => if c = '\\' then escaped else if c = '"' then outside else inside
  | escaped => inside

/-- Splits at the parenthesis that closes the outermost of `depth + 1` open ones: the characters
before it, after those of `passed`, which has the latest first, and the characters after it. -/
def splitClosing (q : Quotation) (depth : Nat) (passed : List Char) :
    List Char → Option (List Char × List Char)
  | [] => none
  | c :: cs =>
    if q = .outside ∧ c = '(' then splitClosing q (depth + 1) (c :: passed) cs
    else if q = .outside ∧ c = ')' then
      match depth with
      | 0 => some (passed.reverse, cs)
      | depth + 1 => splitClosing q depth (c :: passed) cs
    else splitClosing (q.next c) depth (c :: passed) cs

/-- Nothing but the closing parenthesis is lost. -/
theorem append_of_splitClosing {q : Quotation} {depth : Nat} {passed cs inner rest : List Char}
    (h : splitClosing q depth passed cs = some (inner, rest)) :
    inner ++ ')' :: rest = passed.reverse ++ cs := by
  induction cs generalizing q depth passed with
  | nil => cases h
  | cons c cs ih =>
    unfold splitClosing at h
    split at h
    · simpa using ih h
    · split at h
      · next hc =>
        obtain ⟨-, rfl⟩ := hc
        cases depth with
        | zero => cases h; rfl
        | succ depth => simpa using ih h
      · simpa using ih h

/-- Takes an optional filter in parentheses off the front, and the blanks off both ends of what
follows it. Empty parentheses are no filter. -/
def readFilter (verb : Verb) (cs : List Char) : Except Fault (Option Filter × List Char) :=
  match cs with
  | '(' :: rest =>
    match splitClosing .outside 0 [] rest with
    | none => .error (.badCommand verb .unbalancedFilter)
    | some (inner, rest) =>
      if (skipBlanks inner).isEmpty then .ok (none, trimChars rest)
      else
        match Filter.ofText (String.ofList inner) with
        | .ok filter => .ok (some filter, trimChars rest)
        | .error cause => .error (.badFilter cause)
  | _ => .ok (none, cs)

/-- The name of a type and an optional filter, with nothing after it. -/
def readSelection (verb : Verb) (cs : List Char) : Except Fault (String × Option Filter) := do
  let (name, rest) ← splitName verb cs
  let (filter, rest) ← readFilter verb rest
  if !rest.isEmpty then
    throw (.badCommand verb (.trailing (String.ofList rest)))
  return (name, filter)

/-! ### Commands -/

/-- The statement that a verb and the characters after it make. -/
def ofVerb (verb : Verb) (cs : List Char) : Except Fault Statement := do
  match verb with
  | .create =>
    let (name, rest) ← splitName verb cs
    let entries ← readPayload verb rest
    if entries.isEmpty then
      throw .noFields
    let fields ← Field.declaredAll entries
    return create name fields
  | .insert =>
    let (name, rest) ← splitName verb cs
    let values ← readPayload verb rest
    return insert name values
  | .update =>
    let (name, rest) ← splitName verb cs
    let (filter, rest) ← readFilter verb rest
    let values ← readPayload verb rest
    return update name filter values
  | .delete =>
    let (name, filter) ← readSelection verb cs
    return delete name filter
  | .search =>
    let (name, filter) ← readSelection verb cs
    return search name filter

/-- The statement that a line of text makes. The verb may be written in any case. -/
def ofText (line : String) : Except Fault Statement :=
  let cs := trimChars line.toList
  if cs.isEmpty then .error .emptyCommand
  else
    let word := String.ofList (cs.takeWhile (!isBlank ·))
    match Verb.ofWord? (lowercase word) with
    | some verb => ofVerb verb (cs.dropWhile (!isBlank ·))
    | none => .error (.unknownCommand word)

end Statement

end RecordStore
