import Mathlib.Data.List.TakeWhile
import RecordStore.Proofs.Text.CanonicalName

/-!
# Words and the blanks between them

Commands and filters are taken apart in the same way: blanks are skipped, and then a word runs up
to the first character that ends it. What is taken off and what is left is said here once, for any
test of where a word ends.

Blanks that nobody asked for (`Blanks`) may stand around the parts of a command. They are gone after
`skipBlanks` and `trimChars`, and what is between two parts that are no blanks stays.
-/

namespace RecordStore.Text

variable {c : Char} {cs rest : List Char}

/-- A word runs up to the character that ends it, and the rest begins with that character. -/
theorem takeWhile_dropWhile_word {ends : Char → Bool} {word : List Char}
    (hword : ∀ d ∈ word, ends d = false) (hc : ends c = true) :
    (word ++ c :: rest).takeWhile (!ends ·) = word ∧
      (word ++ c :: rest).dropWhile (!ends ·) = c :: rest := by
  have hgo : ∀ d ∈ word, (!ends d) = true := fun d hd ↦ by rw [hword d hd, Bool.not_false]
  have hstop : ¬ (!true) = true := by decide
  constructor
  · rw [List.takeWhile_append_of_pos hgo, List.takeWhile_cons, hc, if_neg hstop, List.append_nil]
  · rw [List.dropWhile_append_of_pos hgo, List.dropWhile_cons, hc, if_neg hstop]

/-- The same up to the end of the text, which ends a word too. -/
theorem takeWhile_dropWhile_of_head {ends : Char → Bool} {word : List Char}
    (hword : ∀ d ∈ word, ends d = false) (hrest : ∀ d ∈ rest.head?, ends d = true) :
    (word ++ rest).takeWhile (!ends ·) = word ∧ (word ++ rest).dropWhile (!ends ·) = rest := by
  cases rest with
  | nil =>
    have hgo : ∀ d ∈ word, (!ends d) = true := fun d hd ↦ by rw [hword d hd, Bool.not_false]
    rw [List.append_nil]
    exact ⟨List.takeWhile_eq_self_iff.2 hgo, List.dropWhile_eq_nil_iff.2 hgo⟩
  | cons c rest => exact takeWhile_dropWhile_word hword (hrest c rfl)

theorem isBlank_space : isBlank ' ' = true := by decide

theorem skipBlanks_of_isBlank (h : isBlank c = true) : skipBlanks (c :: cs) = skipBlanks cs := by
  rw [skipBlanks, List.dropWhile_cons_of_pos h]
  rfl

theorem skipBlanks_of_not_isBlank (h : isBlank c = false) : skipBlanks (c :: cs) = c :: cs := by
  refine skipBlanks_eq_self fun d hd ↦ ?_
  cases hd
  exact h

/-- What begins and ends with characters that are not blank is trimmed. -/
theorem trimmed_of_ends {first last : Char} (hfirst : isBlank first = false)
    (hlast : isBlank last = false) (cs : List Char) : Trimmed (first :: (cs ++ [last])) := by
  constructor
  · intro c hc
    cases hc
    exact hfirst
  · intro c hc
    rw [← List.cons_append, List.getLast?_concat] at hc
    cases hc
    exact hlast

/-! ### Blanks around the parts -/

/-- Nothing but blanks. -/
def Blanks (cs : List Char) : Prop := ∀ c ∈ cs, isBlank c = true

variable {blanks : List Char}

theorem blanks_nil : Blanks [] := fun _ h ↦ absurd h List.not_mem_nil

theorem blanks_space : Blanks [' '] := fun c hc ↦ by
  rw [List.mem_singleton.1 hc]
  exact isBlank_space

theorem Blanks.append {more : List Char} (h : Blanks blanks) (hmore : Blanks more) :
    Blanks (blanks ++ more) := fun c hc ↦ (List.mem_append.1 hc).elim (h c) (hmore c)

/-- The characters `cs` are those of `core`, between blanks. -/
def Padded (core cs : List Char) : Prop :=
  ∃ before behind, Blanks before ∧ Blanks behind ∧ cs = before ++ (core ++ behind)

theorem padded_self (cs : List Char) : Padded cs cs :=
  ⟨[], [], blanks_nil, blanks_nil, by rw [List.append_nil, List.nil_append]⟩

theorem skipBlanks_append (h : Blanks blanks) (cs : List Char) :
    skipBlanks (blanks ++ cs) = skipBlanks cs :=
  List.dropWhile_append_of_pos h

theorem skipBlanks_eq_nil_iff : skipBlanks cs = [] ↔ Blanks cs := List.dropWhile_eq_nil_iff

/-- What is skipped is blank. -/
theorem exists_blanks_append (cs : List Char) : ∃ blanks, Blanks blanks ∧ blanks ++ skipBlanks cs = cs :=
  ⟨cs.takeWhile isBlank, fun _ hc ↦ List.mem_takeWhile_imp hc, List.takeWhile_append_dropWhile⟩

theorem dropTrailingBlanks_append (h : Blanks blanks) (cs : List Char) :
    dropTrailingBlanks (cs ++ blanks) = dropTrailingBlanks cs := by
  have hreverse : ∀ c ∈ blanks.reverse, isBlank c = true := fun c hc ↦ h c (List.mem_reverse.1 hc)
  rw [dropTrailingBlanks, List.reverse_append, List.dropWhile_append_of_pos hreverse]
  rfl

/-- What stands in front of a character that is no blank is not trailing. -/
theorem dropTrailingBlanks_append_of_last {front : List Char} (hne : front ≠ [])
    (hlast : ∀ c ∈ front.getLast?, isBlank c = false) (cs : List Char) :
    dropTrailingBlanks (front ++ cs) = front ++ dropTrailingBlanks cs := by
  obtain ⟨start, c, rfl⟩ := (List.eq_nil_or_concat' front).resolve_left hne
  have hc : isBlank c = false := hlast c List.getLast?_concat
  rw [dropTrailingBlanks, dropTrailingBlanks, List.reverse_append, List.dropWhile_append]
  split
  · next hblank =>
    -- nothing is left of what stands behind
    rw [List.isEmpty_iff.1 hblank]
    simp [hc]
  · rw [List.reverse_append, List.reverse_reverse]

theorem trimChars_append_left (h : Blanks blanks) (cs : List Char) :
    trimChars (blanks ++ cs) = trimChars cs := by
  rw [trimChars, skipBlanks_append h, trimChars]

theorem trimChars_append_right (h : Blanks blanks) (cs : List Char) :
    trimChars (cs ++ blanks) = trimChars cs := by
  rw [trimChars, trimChars]
  by_cases hcs : Blanks cs
  · -- all of it is blank
    have hnone : skipBlanks (cs ++ blanks) = skipBlanks cs := by
      rw [skipBlanks_append hcs, skipBlanks_eq_nil_iff.2 hcs, skipBlanks_eq_nil_iff.2 h]
    rw [hnone]
  · have hskip : skipBlanks (cs ++ blanks) = skipBlanks cs ++ blanks := by
      rw [← skipBlanks_eq_nil_iff, skipBlanks] at hcs
      rw [skipBlanks, List.dropWhile_append, if_neg (by simpa using hcs)]
      rfl
    rw [hskip, dropTrailingBlanks_append h]

/-- What is dropped at the end is blank. -/
theorem exists_append_blanks (cs : List Char) :
    ∃ blanks, Blanks blanks ∧ dropTrailingBlanks cs ++ blanks = cs := by
  refine ⟨(cs.reverse.takeWhile isBlank).reverse, fun c hc ↦ ?_, ?_⟩
  · exact List.mem_takeWhile_imp (List.mem_reverse.1 hc)
  · rw [dropTrailingBlanks, ← List.reverse_append, List.takeWhile_append_dropWhile,
      List.reverse_reverse]

/-- Trailing blanks may be dropped before. -/
theorem trimChars_dropTrailingBlanks (cs : List Char) :
    trimChars (dropTrailingBlanks cs) = trimChars cs := by
  obtain ⟨blanks, hblanks, hcs⟩ := exists_append_blanks cs
  conv_rhs => rw [← hcs]
  exact (trimChars_append_right hblanks _).symm

/-- What is trimmed stood between blanks. -/
theorem padded_trimChars (cs : List Char) : Padded (trimChars cs) cs := by
  obtain ⟨before, hbefore, hcs⟩ := exists_blanks_append cs
  obtain ⟨behind, hbehind, hskip⟩ := exists_append_blanks (skipBlanks cs)
  exact ⟨before, behind, hbefore, hbehind, by rw [trimChars, hskip, hcs]⟩

theorem trimChars_eq_nil_iff : trimChars cs = [] ↔ Blanks cs := by
  constructor
  · intro h
    obtain ⟨before, behind, hbefore, hbehind, hcs⟩ := padded_trimChars cs
    rw [hcs, h]
    exact hbefore.append hbehind
  · intro h
    rw [trimChars, skipBlanks_eq_nil_iff.2 h]
    rfl

theorem trimChars_space_cons (h : Trimmed cs) : trimChars (' ' :: cs) = cs := by
  rw [trimChars, skipBlanks_of_isBlank isBlank_space]
  exact h.trimChars_eq

end RecordStore.Text
