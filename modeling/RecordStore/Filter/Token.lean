import RecordStore.Filter.Basic
import RecordStore.Number.Numeral
import RecordStore.Text.Blank
import RecordStore.Text.Escape
import RecordStore.Text.Lowercase
import RecordStore.Text.Quoted

/-!
# Tokens of a filter

A filter's text is cut into parentheses, operators, quoted texts and words. A word runs up to the
next blank, parenthesis or operator character, and is a keyword, a truth value, a plain numeral, a
name, or, failing all of these, a bare word such as a date. Keywords and truth values are known in
any case. The list of tokens is closed by one that marks the end of the filter.

Each token is taken off the front of the text and leaves a shorter one
(`length_readToken_lt`), which is why reading them all ends.
-/

namespace RecordStore

open RecordStore.Text RecordStore.Number

/-- A part of a filter's text. -/
inductive Token where
  /-- The keyword that joins filters of which both are to hold. -/
  | and
  /-- The keyword that joins filters of which one is to hold. -/
  | or
  /-- The operator that is written as a keyword. -/
  | includes
  /-- A name of ASCII letters, digits and underscores that begins with no digit. -/
  | name (s : String)
  /-- A plain numeral. -/
  | number (numeral : String)
  /-- The contents of a quoted text. -/
  | quoted (s : String)
  /-- A truth value. -/
  | bool (b : Bool)
  /-- Any other word. -/
  | bare (word : String)
  /-- An opening parenthesis. -/
  | open
  /-- A closing parenthesis. -/
  | close
  /-- An operator that is written as a symbol. -/
  | operator (op : Operator)
  /-- The end of the filter. -/
  | finish
  deriving DecidableEq, Repr

/-- Why a text is not a list of tokens. -/
inductive TokenError where
  /-- The operator characters make no operator. -/
  | unknownOperator (symbol : String)
  /-- A quoted text cannot be read. -/
  | quoted (cause : QuotedError)
  deriving DecidableEq, Repr

namespace Token

/-- What a message calls the token. -/
def describe : Token → String
  | and => "and"
  | or => "or"
  | includes => Operator.includes.symbol
  | name s | number s | bare s => s
  | quoted s => Text.quoted s
  | bool b => if b then "true" else "false"
  | «open» => "("
  | close => ")"
  | operator op => op.symbol
  | finish => "end of filter"

/-- Does an operator begin with the character? -/
def isOperatorChar (c : Char) : Bool := c = '<' || c = '>' || c = '=' || c = '!'

/-- Does a word end before the character? -/
def endsWord (c : Char) : Bool := isBlank c || c = '(' || c = ')' || isOperatorChar c

/-- The operator that is written with the characters. -/
def operatorOf? : List Char → Option Operator
  | ['='] => some .equal
  | ['!', '='] => some .notEqual
  | ['<'] => some .less
  | ['<', '='] => some .lessEqual
  | ['>'] => some .greater
  | ['>', '='] => some .greaterEqual
  | _ => none

/-- May the character begin a name? -/
def isNameStart (c : Char) : Bool := c.isAlpha || c = '_'

/-- May the character stand in a name? -/
def isNameChar (c : Char) : Bool := c.isAlphanum || c = '_'

/-- Is the word a name? -/
def isName (word : String) : Bool :=
  match word.toList with
  | [] => false
  | c :: cs => isNameStart c && cs.all isNameChar

/-- The words that are no literal and no name, in lower case. -/
def keywords : List (String × Token) :=
  [("and", and), ("or", or), ("include", includes), ("true", bool true), ("false", bool false)]

/-- The token that a word is. -/
def ofWord (word : String) : Token :=
  match keywords.lookup (lowercase word) with
  | some token => token
  | none =>
    if isNumeral word then number word
    else if isName word then name word
    else bare word

/-- Takes an operator off the front: the first character, and an equals sign after it. -/
def readOperator (c : Char) (cs : List Char) : Except TokenError (Token × List Char) :=
  let (symbol, rest) := match cs with
    | '=' :: rest => ([c, '='], rest)
    | rest => ([c], rest)
  match operatorOf? symbol with
  | some op => .ok (operator op, rest)
  | none => .error (.unknownOperator (String.ofList symbol))

/-- Takes the token that begins with `c` off the front of `c` and `cs`. -/
def readToken (c : Char) (cs : List Char) : Except TokenError (Token × List Char) :=
  if c = '(' then .ok («open», cs)
  else if c = ')' then .ok (close, cs)
  else if c = '"' then
    match readQuoted cs with
    | .ok (s, rest) => .ok (quoted s, rest)
    | .error cause => .error (.quoted cause)
  else if isOperatorChar c then readOperator c cs
  else
    .ok (ofWord (String.ofList (c :: cs.takeWhile (!endsWord ·))), cs.dropWhile (!endsWord ·))

theorem length_readOperator_le {c : Char} {cs rest : List Char} {t : Token}
    (h : readOperator c cs = .ok (t, rest)) : rest.length ≤ cs.length := by
  unfold readOperator at h
  split at h
  · next symbol r hs =>
    split at h
    · simp only [Except.ok.injEq, Prod.mk.injEq] at h
      rw [← h.2]
      split at hs <;> simp only [Prod.mk.injEq] at hs <;> simp [← hs.2]
    · cases h

/-- A token takes at least one character. -/
theorem length_readToken_le {c : Char} {cs rest : List Char} {t : Token}
    (h : readToken c cs = .ok (t, rest)) : rest.length ≤ cs.length := by
  unfold readToken at h
  split at h
  · cases h; exact Nat.le_refl _
  · split at h
    · cases h; exact Nat.le_refl _
    · split at h
      · split at h
        · next hq => cases h; exact Nat.le_of_lt (length_readQuoted_lt hq)
        · cases h
      · split at h
        · exact length_readOperator_le h
        · cases h; exact (List.dropWhile_sublist _).length_le

/-- The tokens of the characters, closed by the mark of the end. -/
def readAll (cs : List Char) : Except TokenError (List Token) :=
  match _h : skipBlanks cs with
  | [] => .ok [finish]
  | c :: rest =>
    match _ht : readToken c rest with
    | .error e => .error e
    | .ok (token, rest) => (readAll rest).map (token :: ·)
termination_by cs.length
decreasing_by
  have h₁ := length_skipBlanks_le cs
  have h₂ := length_readToken_le _ht
  rw [_h, List.length_cons] at h₁
  omega

/-- The tokens of a text end in the mark of the end. -/
theorem getLast?_readAll {cs : List Char} {tokens : List Token} (h : readAll cs = .ok tokens) :
    tokens.getLast? = some finish := by
  fun_induction readAll cs generalizing tokens with
  | case1 => cases h; rfl
  | case2 => cases h
  | case3 cs c rest hs token after ht ih =>
    cases hr : readAll after with
    | error e => rw [hr] at h; cases h
    | ok more =>
      rw [hr] at h
      cases h
      rw [List.getLast?_cons, ih hr]
      rfl

/-- The tokens of a filter's text, closed by the mark of the end. -/
def ofText (s : String) : Except TokenError (List Token) := readAll s.toList

end Token

end RecordStore
