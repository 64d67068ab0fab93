import RecordStore.Proofs.Number.Numeral
import RecordStore.Proofs.Time.Order
import RecordStore.Time.MomentText

/-!
# Moments are read back

The text of a moment is made of numbers with marks between them. Each number is filled up with zeros,
so that it has as many digits as the reader takes at most (`readNumber_padded`). Only a year may have
more, and then it has a sign in front, which lets the reader take all of them (`readYear_yearText`).

The text does not say which part of a second has passed, so what is read back is the moment at which
the second began. A leap second has a number of its own, and is read back as one
(`Moment.ofText?_text`).
-/

namespace RecordStore.Time

open RecordStore.Text RecordStore.Number

variable {digits rest : List Char} {width n : Nat}

/-! ### Numbers filled up with zeros -/

theorem toList_padded (width n : Nat) :
    (padded width n).toList =
      List.replicate (width - (Nat.toDigits 10 n).length) '0' ++ Nat.toDigits 10 n := by
  have hdigits : (toString n).toList = Nat.toDigits 10 n := Nat.toList_repr
  rw [padded, String.toList_append, String.toList_ofList, hdigits, ← String.length_toList, hdigits]

theorem isDigits_padded (width n : Nat) : isDigits (padded width n).toList = true := by
  rw [toList_padded]
  refine isDigits_iff.2 ⟨List.append_ne_nil_of_right_ne_nil _ Nat.toDigits_ne_nil, fun c hc ↦ ?_⟩
  rcases List.mem_append.1 hc with hc | hc
  · rw [List.eq_of_mem_replicate hc]
    rfl
  · exact (isDigits_iff.1 (isDigits_toDigits n)).2 c hc

/-- Zeros in front do not count. -/
theorem digitsValue_zeros (count : Nat) (ds : List Char) :
    digitsValue (List.replicate count '0' ++ ds) = digitsValue ds := by
  induction count with
  | zero => rfl
  | succ count ih => exact ih

theorem digitsValue_padded (width n : Nat) : digitsValue (padded width n).toList = n := by
  rw [toList_padded, digitsValue_zeros, digitsValue_toDigits]

theorem length_padded (h : (Nat.toDigits 10 n).length ≤ width) :
    (padded width n).toList.length = width := by
  rw [toList_padded, List.length_append, List.length_replicate]
  omega

/-! ### Reading numbers and years -/

theorem skipBlanks_of_isDigits (h : isDigits digits = true) (rest : List Char) :
    skipBlanks (digits ++ rest) = digits ++ rest := by
  obtain ⟨d, ds, rfl, hd, -, -⟩ := exists_cons_of_isDigits h
  exact skipBlanks_of_not_isBlank (isBlank_of_isDigit hd)

/-- A number is taken off at its width, whatever stands behind it. -/
theorem readNumber_of_isDigits (h : isDigits digits = true) (rest : List Char) :
    readNumber digits.length (digits ++ rest) = some (digitsValue digits, rest) := by
  have htake : digits.takeWhile Char.isDigit = digits :=
    List.takeWhile_eq_self_iff.2 (isDigits_iff.1 h).2
  rw [readNumber, skipBlanks_of_isDigits h, List.take_left, htake]
  split
  · cases h
  · rw [List.drop_left]

/-- **A number that was filled up to its width is read back.** -/
theorem readNumber_padded (h : (Nat.toDigits 10 n).length ≤ width) (rest : List Char) :
    readNumber width ((padded width n).toList ++ rest) = some (n, rest) := by
  have hread := readNumber_of_isDigits (isDigits_padded width n) rest
  rwa [length_padded h, digitsValue_padded] at hread

/-- A number has no more than two digits below a hundred. -/
theorem length_toDigits_two (h : n < 100) : (Nat.toDigits 10 n).length ≤ 2 :=
  (Nat.length_toDigits_le_iff (by decide) (by decide)).2 h

/-- Digits without a sign are read as a year of four. -/
theorem readYear_of_isDigits (h : isDigits digits = true) (rest : List Char) :
    readYear (digits ++ rest) =
      (readNumber 4 (digits ++ rest)).map fun found ↦ ((found.1 : Int), found.2) := by
  rw [readYear, skipBlanks_of_isDigits h]
  obtain ⟨d, ds, rfl, -, hminus, hplus⟩ := exists_cons_of_isDigits h
  split
  · next heq => exact absurd (List.cons.inj heq).1 hminus
  · next heq => exact absurd (List.cons.inj heq).1 hplus
  · rfl

theorem readYear_minus (cs : List Char) :
    readYear ('-' :: cs) =
      (readDigits cs).map fun found ↦ (-(digitsValue found.1 : Int), found.2) := by
  rw [readYear, skipBlanks_of_not_isBlank (by decide)]
  rfl

theorem readYear_plus (cs : List Char) :
    readYear ('+' :: cs) =
      (readDigits cs).map fun found ↦ ((digitsValue found.1 : Int), found.2) := by
  rw [readYear, skipBlanks_of_not_isBlank (by decide)]
  rfl

/-- **A year is read back**, with its sign or without, up to what is no digit. -/
theorem readYear_yearText (year : Int) (h : ∀ c ∈ rest.head?, c.isDigit = false) :
    readYear ((yearText year).toList ++ rest) = some (year, rest) := by
  have hdigits := readDigits_append (isDigits_padded 4 year.natAbs) h
  have hvalue := digitsValue_padded 4 year.natAbs
  rw [yearText]
  split_ifs with hneg hfour
  · have hyear : -(year.natAbs : Int) = year := by omega
    have hminus : "-".toList = ['-'] := rfl
    rw [String.toList_append, hminus, List.append_assoc, List.singleton_append, readYear_minus,
      hdigits, Option.map_some, hvalue, hyear]
  · have hyear : (year.natAbs : Int) = year := by omega
    have hlength : (Nat.toDigits 10 year.natAbs).length ≤ 4 :=
      (Nat.length_toDigits_le_iff (by decide) (by decide)).2 (by omega)
    rw [readYear_of_isDigits (isDigits_padded 4 year.natAbs), readNumber_padded hlength,
      Option.map_some, hyear]
  · have hyear : (year.natAbs : Int) = year := by omega
    have hplus : "+".toList = ['+'] := rfl
    rw [String.toList_append, hplus, List.append_assoc, List.singleton_append, readYear_plus,
      hdigits, Option.map_some, hvalue, hyear]

/-! ### Moments -/

theorem readMark_self (c : Char) (rest : List Char) : readMark c (c :: rest) = some rest := if_pos rfl

namespace Moment

/-- The moment at which the second of a moment began. A leap second began behind the last second of
its minute. -/
def secondStart (m : Moment) : Moment where
  year := m.year
  month := m.month
  day := m.day
  hour := m.hour
  minute := m.minute
  second := m.second
  nanos := if m.nanos < nanosPerSecond then 0 else nanosPerSecond
  year_bounds := m.year_bounds
  day_bounds := m.day_bounds
  clock_bounds := m.clock_bounds
  nanos_bounds := by
    have hnanos := m.nanos_bounds
    unfold nanosPerSecond at hnanos ⊢
    split <;> omega

/-- The parts of a moment make it up, where the second 60 is a leap second. -/
theorem ofParts?_eq_some (m : Moment) {second fraction : Nat}
    (hsecond : (if second = 60 then 59 else second) = m.second)
    (hnanos : (if second = 60 then nanosPerSecond + fraction else fraction) = m.nanos) :
    ofParts? m.year m.month m.day m.hour m.minute second fraction = some m := by
  obtain ⟨year, month, day, hour, minute, second', nanos, hyear, hday, hclock, hfraction⟩ := m
  dsimp only at hsecond hnanos
  subst hsecond hnanos
  exact dif_pos ⟨hyear, hday, hclock, hfraction⟩

/-- The second that is written is that of the start. -/
theorem ofParts?_shownSecond (m : Moment) :
    ofParts? m.year m.month m.day m.hour m.minute m.shownSecond 0 = some m.secondStart := by
  have hclock := m.clock_bounds
  have hnanos := m.nanos_bounds
  by_cases hleap : m.nanos < nanosPerSecond
  · have hshown : m.shownSecond = m.second := by
      rw [shownSecond, Nat.div_eq_of_lt hleap, Nat.add_zero]
    have hne : m.shownSecond ≠ 60 := by omega
    refine ofParts?_eq_some m.secondStart ((if_neg hne).trans hshown) ((if_neg hne).trans ?_)
    exact (if_pos hleap).symm
  · obtain ⟨hsecond, hlt⟩ := hnanos.resolve_left hleap
    have hshown : m.shownSecond = 60 := by
      rw [shownSecond, hsecond]
      unfold nanosPerSecond at hleap hlt ⊢
      omega
    refine ofParts?_eq_some m.secondStart ((if_pos hshown).trans hsecond.symm) ((if_pos hshown).trans ?_)
    exact (if_neg hleap).symm

theorem shownSecond_le (m : Moment) : m.shownSecond ≤ 60 := by
  have hclock := m.clock_bounds
  have hnanos := m.nanos_bounds
  unfold shownSecond
  unfold nanosPerSecond at hnanos ⊢
  omega

theorem toList_text (m : Moment) :
    m.text.toList = (yearText m.year).toList ++ '-' :: ((padded 2 m.month).toList ++
      '-' :: ((padded 2 m.day).toList ++ 'T' :: ((padded 2 m.hour).toList ++
      ':' :: ((padded 2 m.minute).toList ++ ':' :: (padded 2 m.shownSecond).toList)))) := by
  have hdash : "-".toList = ['-'] := rfl
  have hhour : "T".toList = ['T'] := rfl
  have hcolon : ":".toList = [':'] := rfl
  simp only [text, String.toList_append, List.append_assoc, hdash, hhour, hcolon,
    List.cons_append, List.nil_append]

/-- **A moment is read back** up to the part of its second that has passed. -/
theorem ofText?_text (m : Moment) : ofText? m.text = some m.secondStart := by
  have hday := m.day_bounds
  have hdays := daysInMonth_le m.year m.month
  have hmonth := m.month_le
  have hclock := m.clock_bounds
  have hsecond := m.shownSecond_le
  have hyear : ∀ rest, readYear ((yearText m.year).toList ++ '-' :: rest) = some (m.year, '-' :: rest) :=
    fun rest ↦ readYear_yearText m.year (by rintro c ⟨⟩; decide)
  have htwo : ∀ n < 100, ∀ rest, readNumber 2 ((padded 2 n).toList ++ rest) = some (n, rest) :=
    fun n hn rest ↦ readNumber_padded (length_toDigits_two hn) rest
  have hlast := htwo m.shownSecond (by omega) []
  rw [List.append_nil] at hlast
  have hnanos : readNanos [] = some (0, []) := rfl
  unfold ofText?
  simp only [toList_text, hyear, Option.bind_eq_bind, Option.bind_some, readMark_self,
    htwo m.month (by omega), htwo m.day (by omega), htwo m.hour (by omega),
    htwo m.minute (by omega), hlast, hnanos, List.isEmpty_nil, if_true]
  exact ofParts?_shownSecond m

end Moment

end RecordStore.Time
