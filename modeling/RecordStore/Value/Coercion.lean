import RecordStore.Payload.Basic
import RecordStore.Text.Quoted
import RecordStore.Value.Basic

/-!
# Coercion

Texts and payloads become values of a kind in two places. A filter gives a *literal*, a text in
which a string is written between quotes and a moment with or without them; a command gives a
payload, whose form has to suit the kind. Numerals are read exactly: an integer that does not fit
into 64 bits is refused, and never passes through a double.
-/

namespace RecordStore

open RecordStore.Text RecordStore.Number RecordStore.Time

/-- Why a literal or a payload gives no value of a kind. -/
inductive CoercionError where
  /-- The literal of a text is not between quotes. -/
  | notQuoted (literal : String)
  /-- The literal of an integer is no integer numeral, or too great. -/
  | notInt (literal : String)
  /-- The literal of a double is no numeral. -/
  | notDouble (literal : String)
  /-- The literal of a truth value is neither of the two. -/
  | notBool (literal : String)
  /-- The text is no moment. -/
  | notTime (text : String)
  /-- No literal stands for a list. -/
  | listLiteral
  /-- The payload's number is no integer, or too great. -/
  | notIntNumber (numeral : String)
  /-- The payload's number is no double. -/
  | notDoubleNumber (numeral : String)
  /-- An item of the list is no text. -/
  | notTextItem
  /-- The payload has the wrong form for the kind. -/
  | wrongForm (kind : Kind) (form : String)
  deriving DecidableEq, Repr

namespace CoercionError

/-- The wording of the cause. -/
def message : CoercionError → String
  | notQuoted s => "invalid string literal " ++ quoted s ++ ", expected a quoted string"
  | notInt s => "invalid int literal " ++ quoted s
  | notDouble s => "invalid double literal " ++ quoted s
  | notBool s => "invalid boolean literal " ++ quoted s
  | notTime s =>
    "invalid time literal " ++ quoted s ++ ", use ISO local date-time like 2024-01-01T12:30:00"
  | listLiteral => "string lists cannot be parsed from a single literal"
  | notIntNumber s => "invalid int value " ++ s
  | notDoubleNumber s => "invalid double value " ++ s
  | notTextItem => "invalid string_list item, expected a string"
  | wrongForm kind form => "expected " ++ kind.name ++ ", found " ++ form

end CoercionError

/-- What stands between the first and the last character, if both are quotes. -/
def betweenQuotes? : List Char → Option (List Char)
  | '"' :: rest => if rest.getLast? = some '"' then some rest.dropLast else none
  | _ => none

/-- The text without blanks around it, and then without one pair of quotes around it. -/
def unquote (s : String) : String :=
  let cs := trimChars s.toList
  String.ofList ((betweenQuotes? cs).getD cs)

/-- The truth value that a text names, in any case of its letters. -/
def boolOfText? (s : String) : Option Bool :=
  if equalsIgnoringAsciiCase s "true" then some true
  else if equalsIgnoringAsciiCase s "false" then some false
  else none

/-- The moment of a text, as a value. -/
def timeOfText (s : String) : Except CoercionError Value :=
  match Moment.ofText? s with
  | some m => .ok (.time m)
  | none => .error (.notTime s)

namespace Kind

/-- The value of the kind that a literal stands for. -/
def ofLiteral (kind : Kind) (literal : String) : Except CoercionError Value :=
  let s := trim literal
  match kind with
  | text =>
    match betweenQuotes? s.toList with
    | some inner => .ok (.text (String.ofList inner))
    | none => .error (.notQuoted literal)
  | int =>
    match integer? s with
    | some n => .ok (.int n)
    | none => .error (.notInt literal)
  | double =>
    match (if isNumeral s then Double.ofText? s else none) with
    | some d => .ok (.double d)
    | none => .error (.notDouble literal)
  | bool =>
    match boolOfText? s with
    | some b => .ok (.bool b)
    | none => .error (.notBool literal)
  | time => timeOfText (unquote s)
  | texts => .error .listLiteral

/-- The texts of a payload's items, all of which have to be texts. -/
def textItems : List Payload → Except CoercionError (List String)
  | [] => .ok []
  | .text s :: items => (textItems items).map (s :: ·)
  | _ :: _ => .error .notTextItem

/-- The value of the kind that a payload stands for. -/
def ofPayload (kind : Kind) (payload : Payload) : Except CoercionError Value :=
  match kind, payload with
  | text, .text s => .ok (.text s)
  | int, .number numeral =>
    match integer? numeral with
    | some n => .ok (.int n)
    | none => .error (.notIntNumber numeral)
  | double, .number numeral =>
    match Double.ofText? numeral with
    | some d => .ok (.double d)
    | none => .error (.notDoubleNumber numeral)
  | bool, .bool b => .ok (.bool b)
  | time, .text s => timeOfText s
  | texts, .array items => (textItems items).map .texts
  | kind, payload => .error (.wrongForm kind payload.formName)

end Kind

end RecordStore
