import RecordStore.Proofs.Time.MomentText
import RecordStore.Proofs.Value.Integers
import RecordStore.Proofs.Value.Literal

/-!
# Values that are read back from their texts

The text that shows an integer, a truth value or a moment is a literal of its kind, and stands for the
value that it shows (`Value.read_back`). What is lost of a moment is the part of its second that had
passed, which its text does not say.

The text of a moment has no blanks and no quotes in it, so it can be put into a filter as it is.
-/

namespace RecordStore

open RecordStore.Text RecordStore.Number RecordStore.Time

/-! ### The characters of a moment -/

namespace Time

variable {c : Char} {width n : Nat}

theorem isDigit_of_mem_padded (h : c ∈ (padded width n).toList) : c.isDigit = true :=
  (isDigits_iff.1 (isDigits_padded width n)).2 c h

theorem char_of_mem_yearText {year : Int} (h : c ∈ (yearText year).toList) :
    c.isDigit = true ∨ c = '-' ∨ c = '+' := by
  rw [yearText] at h
  split_ifs at h
  · rw [String.toList_append, List.mem_append] at h
    exact h.symm.imp isDigit_of_mem_padded fun h ↦ .inl (List.mem_singleton.1 h)
  · exact .inl (isDigit_of_mem_padded h)
  · rw [String.toList_append, List.mem_append] at h
    exact h.symm.imp isDigit_of_mem_padded fun h ↦ .inr (List.mem_singleton.1 h)

theorem Moment.char_of_mem_text {m : Moment} (h : c ∈ m.text.toList) :
    c.isDigit = true ∨ c = '-' ∨ c = '+' ∨ c = 'T' ∨ c = ':' := by
  simp only [toList_text, List.mem_append, List.mem_cons] at h
  have hdigit := @isDigit_of_mem_padded c 2
  grind [char_of_mem_yearText]

/-- The text of a moment has no blanks in it. -/
theorem Moment.isBlank_of_mem_text {m : Moment} (h : c ∈ m.text.toList) : isBlank c = false := by
  rcases char_of_mem_text h with hdigit | rfl | rfl | rfl | rfl
  · exact isBlank_of_isDigit hdigit
  all_goals decide

theorem Moment.quote_not_mem_text (m : Moment) : '"' ∉ m.text.toList := by
  intro h
  rcases char_of_mem_text h with hdigit | heq | heq | heq | heq
  · exact absurd hdigit (by decide)
  all_goals cases heq

end Time

/-! ### Texts of values as literals -/

namespace Kind

theorem ofLiteral_toString (n : Int64) : int.ofLiteral (toString n.toInt) = .ok (.int n) := by
  have hread := integer?_toString n
  have htrimmed := trimmed_of_denotes (integer?_eq_some_iff.1 hread)
  rw [ofLiteral_int, trim_eq_self htrimmed, hread]
  rfl

theorem ofLiteral_text (m : Moment) : time.ofLiteral m.text = .ok (.time m.secondStart) := by
  have htrimmed : Trimmed m.text.toList := trimmed_of_not_isBlank fun c ↦ Moment.isBlank_of_mem_text
  rw [ofLiteral, trim_eq_self htrimmed, unquote_of_not_mem htrimmed m.quote_not_mem_text, timeOfText,
    Moment.ofText?_text]

end Kind

/-- **What is shown can be read back.** The text of an integer or of a truth value is a literal for
it. The text of a moment, whatever its year, is a literal for the moment at which its second began,
which is a leap second if the moment was in one. -/
theorem Value.read_back :
    (∀ n, Kind.int.ofLiteral (int n).display = .ok (int n)) ∧
    (∀ b, Kind.bool.ofLiteral (bool b).display = .ok (bool b)) ∧
    ∀ m, Kind.time.ofLiteral (time m).display = .ok (time m.secondStart) := by
  refine ⟨Kind.ofLiteral_toString, fun b ↦ ?_, Kind.ofLiteral_text⟩
  cases b <;> decide +kernel

end RecordStore
