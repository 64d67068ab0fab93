import RecordStore.Text.CharSet

/-!
# Blank characters and trimming

The blank characters are the twenty-five with the Unicode property *White_Space*. They separate
the parts of a command line and of a payload, and are cut off both ends of a name.
-/

namespace RecordStore.Text

/-- The characters with the property *White_Space*. -/
def blanks : CharSet := ⟨
  [(0x9, 0xD), (0x20, 0x20), (0x85, 0x85), (0xA0, 0xA0), (0x1680, 0x1680), (0x2000, 0x200A),
   (0x2028, 0x2029), (0x202F, 0x202F), (0x205F, 0x205F), (0x3000, 0x3000)]⟩

/-- Is the character a blank? -/
def isBlank (c : Char) : Bool := blanks.contains c

/-- What follows the leading blanks. -/
def skipBlanks (cs : List Char) : List Char := cs.dropWhile isBlank

/-- The characters without the trailing blanks. -/
def dropTrailingBlanks (cs : List Char) : List Char := (cs.reverse.dropWhile isBlank).reverse

/-- The characters without the blanks at either end. -/
def trimChars (cs : List Char) : List Char := dropTrailingBlanks (skipBlanks cs)

/-- The text without its trailing blanks. -/
def trimEnd (s : String) : String := String.ofList (dropTrailingBlanks s.toList)

/-- The text without the blanks at either end. -/
def trim (s : String) : String := String.ofList (trimChars s.toList)

theorem skipBlanks_nil : skipBlanks [] = [] := rfl

theorem length_skipBlanks_le (cs : List Char) : (skipBlanks cs).length ≤ cs.length :=
  (List.dropWhile_sublist isBlank).length_le

/-- What skipping leaves begins with no blank. -/
theorem isBlank_head_skipBlanks {cs : List Char} {c : Char} {rest : List Char}
    (h : skipBlanks cs = c :: rest) : isBlank c = false := by
  induction cs with
  | nil => simp [skipBlanks] at h
  | cons d ds ih =>
    rw [skipBlanks, List.dropWhile_cons] at h
    split at h
    · exact ih h
    · next hd => cases h; simpa using hd

end RecordStore.Text
