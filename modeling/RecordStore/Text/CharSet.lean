/-!
# Sets of characters

A set of characters is a list of inclusive ranges of code points in rising order. Membership
stops at the first range that begins after the character, so characters near the front of the
code space are decided after a few comparisons.
-/

namespace RecordStore.Text

/-- A set of characters, as inclusive ranges of code points in rising order. -/
structure CharSet where
  /-- The first and last code point of each range. -/
  ranges : List (Nat × Nat)

namespace CharSet

/-- Does one of the rising ranges hold the code point `n`? -/
def covers : List (Nat × Nat) → Nat → Bool
  | [], _ => false
  | (first, last) :: more, n =>
    if n < first then false
    else if n ≤ last then true
    else covers more n

/-- Membership of a character. -/
def contains (s : CharSet) (c : Char) : Bool := covers s.ranges c.toNat

/-- A covered code point lies in one of the ranges. -/
theorem exists_range_of_covers {ranges : List (Nat × Nat)} {n : Nat} (h : covers ranges n = true) :
    ∃ r ∈ ranges, r.1 ≤ n ∧ n ≤ r.2 := by
  induction ranges with
  | nil => simp [covers] at h
  | cons r more ih =>
    obtain ⟨first, last⟩ := r
    rw [covers] at h
    split at h
    · cases h
    · split at h
      · exact ⟨(first, last), by simp, by omega, by assumption⟩
      · obtain ⟨r, hr, hn⟩ := ih h
        exact ⟨r, List.mem_cons_of_mem _ hr, hn⟩

end CharSet

end RecordStore.Text
