import RecordStore.Time.Moment

/-!
# The order of time

A moment is compared by its rank, a number whose digits in a mixed radix are the parts of the moment.
Each part is in the range of its digit (`Moment.digit_bounds`), so the ranks keep the order of the
parts (`Moment.rank_lt_iff`), and no two moments share one.
-/

namespace RecordStore.Time

section

variable {x y a b n : Int}

/-- In a mixed radix, the last digit decides where all before it are equal. -/
theorem radix_lt_iff (ha : 0 ≤ a ∧ a < n) (hb : 0 ≤ b ∧ b < n) :
    x * n + a < y * n + b ↔ x < y ∨ x = y ∧ a < b := by
  have hn : 0 ≤ n := by omega
  rcases Int.lt_trichotomy x y with h | rfl | h
  · have hstep := Int.mul_le_mul_of_nonneg_right (show x + 1 ≤ y from h) hn
    rw [Int.add_mul] at hstep
    omega
  · omega
  · have hstep := Int.mul_le_mul_of_nonneg_right (show y + 1 ≤ x from h) hn
    rw [Int.add_mul] at hstep
    omega

theorem radix_inj (ha : 0 ≤ a ∧ a < n) (hb : 0 ≤ b ∧ b < n) :
    x * n + a = y * n + b ↔ x = y ∧ a = b := by
  have hlt := @radix_lt_iff x y a b n ha hb
  have hgt := @radix_lt_iff y x b a n hb ha
  omega

end

theorem daysInMonth_le (year : Int) (month : Nat) : daysInMonth year month ≤ 31 := by
  unfold daysInMonth
  split <;> try decide
  split <;> decide

namespace Moment

/-- The parts of a moment, the greatest first. -/
def parts (m : Moment) : List Int :=
  [m.year, m.month, m.day, m.hour, m.minute, m.second, m.nanos]

/-- A month with a day in it is one of twelve. -/
theorem month_le (m : Moment) : m.month ≤ 12 := by
  have hday := m.day_bounds
  unfold daysInMonth at hday
  split at hday <;> omega

/-- Each part is a digit of the rank. -/
theorem digit_bounds (m : Moment) :
    (0 ≤ (m.month : Int) ∧ (m.month : Int) < 13) ∧ (0 ≤ (m.day : Int) ∧ (m.day : Int) < 32) ∧
      (0 ≤ (m.hour : Int) ∧ (m.hour : Int) < 24) ∧ (0 ≤ (m.minute : Int) ∧ (m.minute : Int) < 60) ∧
      (0 ≤ (m.second : Int) ∧ (m.second : Int) < 60) ∧
      (0 ≤ (m.nanos : Int) ∧ (m.nanos : Int) < (2 * nanosPerSecond : Nat)) := by
  have hday := m.day_bounds
  have hdays := daysInMonth_le m.year m.month
  have hmonth := m.month_le
  have hclock := m.clock_bounds
  have hnanos := m.nanos_bounds
  omega

variable {a b : Moment}

/-- **The order of time** is that of the parts. -/
theorem rank_lt_iff :
    a.rank < b.rank ↔ List.Lex (fun x y : Int ↦ x < y) a.parts b.parts := by
  obtain ⟨hmonth, hday, hhour, hminute, hsecond, hnanos⟩ := a.digit_bounds
  obtain ⟨hmonth', hday', hhour', hminute', hsecond', hnanos'⟩ := b.digit_bounds
  rw [rank, rank, radix_lt_iff hnanos hnanos', radix_inj hsecond hsecond',
    radix_lt_iff hsecond hsecond', radix_inj hminute hminute', radix_lt_iff hminute hminute',
    radix_inj hhour hhour', radix_lt_iff hhour hhour', radix_inj hday hday', radix_lt_iff hday hday',
    radix_inj hmonth hmonth', radix_lt_iff hmonth hmonth']
  simp only [parts, List.cons_lex_cons_iff, List.not_lex_nil, and_false, or_false, and_or_left,
    and_assoc, or_assoc]

theorem rank_inj : a.rank = b.rank ↔ a = b := by
  refine ⟨fun h ↦ ?_, congrArg rank⟩
  obtain ⟨hmonth, hday, hhour, hminute, hsecond, hnanos⟩ := a.digit_bounds
  obtain ⟨hmonth', hday', hhour', hminute', hsecond', hnanos'⟩ := b.digit_bounds
  rw [rank, rank, radix_inj hnanos hnanos', radix_inj hsecond hsecond', radix_inj hminute hminute',
    radix_inj hhour hhour', radix_inj hday hday', radix_inj hmonth hmonth'] at h
  simp only [Int.ofNat_inj, and_assoc] at h
  cases a
  cases b
  rw [Moment.mk.injEq]
  exact h

end Moment

end RecordStore.Time
