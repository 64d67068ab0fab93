import RecordStore.Proofs.Text.Escapes

/-!
# Texts between quotes

Any text can be put between quotes: it is enough to put a backslash in front of every quote and
every backslash in it (`inQuotes`). What stands between the quotes then decodes to the text
(`decodes_escape`), so reading it takes the backslashes away again and stops at the quote that was
put behind the text, whatever the text is and whatever follows (`readQuoted_escape`).
-/

namespace RecordStore.Text

/-- A character between quotes: a quote and a backslash have a backslash in front of them. -/
def escapeChar (c : Char) : List Char := if c = '"' ∨ c = '\\' then ['\\', c] else [c]

/-- Characters as they stand between quotes. -/
def escape (cs : List Char) : List Char := cs.flatMap escapeChar

/-- A text between quotes. -/
def inQuotes (s : String) : String := String.ofList ('"' :: escape s.toList ++ ['"'])

variable {c : Char} {cs : List Char}

theorem escape_cons_of_special (h : c = '"' ∨ c = '\\') :
    escape (c :: cs) = '\\' :: c :: escape cs := by
  rw [escape, List.flatMap_cons, escapeChar, if_pos h]
  rfl

theorem escape_cons_of_plain (h : ¬(c = '"' ∨ c = '\\')) : escape (c :: cs) = c :: escape cs := by
  rw [escape, List.flatMap_cons, escapeChar, if_neg h]
  rfl

/-- A quote or a backslash after a backslash stands for itself. -/
theorem escaped_of_special (h : c = '"' ∨ c = '\\') : Escaped [c] c := by
  rcases h with rfl | rfl <;> exact .self (by decide)

theorem decodes_escape (cs : List Char) : Decodes (escape cs) cs := by
  induction cs with
  | nil => exact .nil
  | cons c cs ih =>
    by_cases hspecial : c = '"' ∨ c = '\\'
    · rw [escape_cons_of_special hspecial]
      exact .escaped (escaped_of_special hspecial) ih
    · rw [escape_cons_of_plain hspecial]
      exact .plain hspecial ih

/-- **Reading a text between quotes** gives the text. -/
theorem readQuoted_escape (cs rest : List Char) :
    readQuoted (escape cs ++ '"' :: rest) = .ok (String.ofList cs, rest) :=
  readQuoted_eq_ok_iff.2 ⟨escape cs, by simpa using decodes_escape cs, rfl⟩

end RecordStore.Text
