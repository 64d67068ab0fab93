/-!
# Verbs

The five things that a command can ask for.
-/

namespace RecordStore

/-- What a command asks for. -/
inductive Verb where
  /-- A new type. -/
  | create
  /-- A new record of a type. -/
  | insert
  /-- New values in records. -/
  | update
  /-- That records be removed. -/
  | delete
  /-- That records be shown. -/
  | search
  deriving DecidableEq, Repr

/-- The word for a verb. -/
def Verb.word : Verb → String
  | create => "create"
  | insert => "insert"
  | update => "update"
  | delete => "delete"
  | search => "search"

/-- The verb of a word in lower case. -/
def Verb.ofWord? (word : String) : Option Verb :=
  [create, insert, update, delete, search].find? (·.word == word)

theorem Verb.ofWord?_word (v : Verb) : ofWord? v.word = some v := by cases v <;> decide

end RecordStore
