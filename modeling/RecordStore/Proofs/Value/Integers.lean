import RecordStore.Proofs.Number.Numeral
import RecordStore.Value.Coercion

/-!
# Integers to their limits

An integer is written with decimal digits and perhaps a minus sign in front (`WritesInt`). That is all
there is to it: no plus sign, no point, no digit of another script, and as many zeros in front as one
likes. Of the integers that can be written like this, those of 64 bits are values, and each of them is
read as itself. The others are refused: none is brought into range, in filters or in payloads
(`integers_exact`).

A literal of a filter may have blanks around it. The number of a payload may not.
-/

namespace RecordStore

open RecordStore.Text RecordStore.Number

/-! ### Decimal digits -/

namespace Number

/-- The decimal digits with their values. -/
def decimalDigits : List (Char × Nat) := "0123456789".toList.zipIdx

/-- Decimal digits, and their number. -/
inductive InDecimal : List Char → Nat → Prop where
  /-- One digit. -/
  | digit {c : Char} {d : Nat} (h : (c, d) ∈ decimalDigits) : InDecimal [c] d
  /-- A digit behind others, which count ten times as much. -/
  | append {cs : List Char} {c : Char} {n d : Nat} (hcs : InDecimal cs n)
      (h : (c, d) ∈ decimalDigits) : InDecimal (cs ++ [c]) (10 * n + d)

/-- An integer in decimal digits. -/
inductive WritesInt : List Char → Int → Prop where
  /-- Digits alone. -/
  | digits {cs : List Char} {n : Nat} (h : InDecimal cs n) : WritesInt cs n
  /-- A minus sign and digits. -/
  | minus {cs : List Char} {n : Nat} (h : InDecimal cs n) : WritesInt ('-' :: cs) (-n)

variable {c : Char} {cs : List Char} {d n : Nat} {z : Int}

theorem mem_decimalDigits_iff :
    (c, d) ∈ decimalDigits ↔ c.isDigit = true ∧ c.toNat - '0'.toNat = d := by
  constructor
  · have hall : ∀ e ∈ decimalDigits, e.1.isDigit = true ∧ e.1.toNat - '0'.toNat = e.2 := by
      decide +kernel
    exact hall (c, d)
  · rintro ⟨hdigit, rfl⟩
    have hcode : 48 ≤ c.toNat ∧ c.toNat ≤ 57 := by
      simpa [Char.isDigit, UInt32.le_iff_toNat_le] using hdigit
    have hall : ∀ k < 58, 48 ≤ k → (Char.ofNat k, k - '0'.toNat) ∈ decimalDigits := by
      decide +kernel
    have hmem := hall c.toNat (by omega) hcode.1
    rwa [Char.ofNat_toNat] at hmem

theorem digitsValue_append (cs : List Char) (c : Char) :
    digitsValue (cs ++ [c]) = 10 * digitsValue cs + (c.toNat - '0'.toNat) := by
  rw [digitsValue, List.foldl_append]
  rfl

theorem isDigits_append (cs : List Char) (c : Char) :
    isDigits (cs ++ [c]) = true ↔ (cs = [] ∨ isDigits cs = true) ∧ c.isDigit = true := by
  simp only [isDigits_iff, List.forall_mem_append, List.forall_mem_singleton]
  by_cases hcs : cs = []
  · simp [hcs]
  · simp [hcs]

/-- **Decimal digits are the digits of numerals**, with the same number. -/
theorem inDecimal_iff : InDecimal cs n ↔ isDigits cs = true ∧ digitsValue cs = n := by
  constructor
  · intro h
    induction h with
    | digit h =>
      obtain ⟨hdigit, hvalue⟩ := mem_decimalDigits_iff.1 h
      exact ⟨(isDigits_append [] _).2 ⟨.inl rfl, hdigit⟩,
        (digitsValue_append [] _).trans ((Nat.zero_add _).trans hvalue)⟩
    | append _ h ih =>
      obtain ⟨hdigit, hvalue⟩ := mem_decimalDigits_iff.1 h
      refine ⟨(isDigits_append _ _).2 ⟨.inr ih.1, hdigit⟩, ?_⟩
      rw [digitsValue_append, ih.2, hvalue]
  · rintro ⟨hdigits, rfl⟩
    induction cs using List.reverseRecOn with
    | nil => cases hdigits
    | append_singleton cs c ih =>
      obtain ⟨hcs, hdigit⟩ := (isDigits_append cs c).1 hdigits
      have hmem := mem_decimalDigits_iff.2 ⟨hdigit, rfl⟩
      rw [digitsValue_append]
      rcases hcs with rfl | hcs
      · have hone := InDecimal.digit hmem
        rwa [← Nat.zero_add (c.toNat - '0'.toNat)] at hone
      · exact .append (ih hcs) hmem

theorem writesInt_iff : WritesInt cs z ↔ Denotes cs z := by
  constructor
  · rintro (h | h)
    · obtain ⟨hdigits, rfl⟩ := inDecimal_iff.1 h
      exact .mk (.inl rfl) hdigits
    · obtain ⟨hdigits, rfl⟩ := inDecimal_iff.1 h
      exact .mk (.inr rfl) hdigits
  · rintro @⟨minus, digits, hminus, hdigits⟩
    have hdecimal := inDecimal_iff.2 ⟨hdigits, rfl⟩
    rcases hminus with rfl | rfl
    · exact .digits hdecimal
    · exact .minus hdecimal

/-- No character of an integer is a blank. -/
theorem isBlank_of_denotes (h : Denotes cs z) (hc : c ∈ cs) : isBlank c = false := by
  obtain @⟨minus, digits, hminus, hdigits⟩ := h
  rcases List.mem_append.1 hc with hc | hc
  · rcases hminus with rfl | rfl
    · cases hc
    · rw [List.mem_singleton.1 hc]
      decide
  · exact isBlank_of_isDigit ((isDigits_iff.1 hdigits).2 c hc)

theorem trimmed_of_denotes (h : Denotes cs z) : Trimmed cs :=
  trimmed_of_not_isBlank fun _ ↦ isBlank_of_denotes h

end Number

/-! ### Integers as values -/

/-- The value is the integer that the characters write, which is one of 64 bits. -/
def StandsForInt (cs : List Char) (value : Value) : Prop :=
  ∃ z, WritesInt cs z ∧ (-9223372036854775808 ≤ z ∧ z ≤ 9223372036854775807) ∧
    ∃ n : Int64, n.toInt = z ∧ value = .int n

variable {cs : List Char} {s : String} {value : Value}

theorem standsForInt_iff :
    StandsForInt s.toList value ↔ ∃ n, integer? s = some n ∧ value = .int n := by
  simp only [StandsForInt, writesInt_iff, integer?_eq_some_iff]
  constructor
  · rintro ⟨_, hwrites, -, n, rfl, hvalue⟩
    exact ⟨n, hwrites, hvalue⟩
  · rintro ⟨n, hwrites, hvalue⟩
    exact ⟨n.toInt, hwrites, ⟨n.le_toInt, Int.le_of_lt_add_one n.toInt_lt⟩, n, rfl, hvalue⟩

/-- An integer stands between blanks exactly if it is what trimming leaves. -/
theorem exists_padded_iff {literal : String} :
    (∃ numeral, Padded numeral literal.toList ∧ StandsForInt numeral value) ↔
      StandsForInt (trim literal).toList value := by
  rw [trim, String.toList_ofList]
  constructor
  · rintro ⟨numeral, ⟨before, behind, hbefore, hbehind, hliteral⟩, h⟩
    obtain ⟨z, hwrites, -⟩ := id h
    rwa [hliteral, trimChars_append_left hbefore, trimChars_append_right hbehind,
      (trimmed_of_denotes (writesInt_iff.1 hwrites)).trimChars_eq]
  · intro h
    exact ⟨_, padded_trimChars literal.toList, h⟩

/-- What an integer is coerced to, and the complaint where there is none. -/
def intOr (cause : CoercionError) (found : Option Int64) : Except CoercionError Value :=
  found.elim (.error cause) fun n ↦ .ok (.int n)

variable {cause : CoercionError} {found : Option Int64}

theorem intOr_eq_ok_iff : intOr cause found = .ok value ↔ ∃ n, found = some n ∧ value = .int n := by
  cases found with
  | none => simp [intOr]
  | some n => simp [intOr, eq_comm]

theorem intOr_eq_error_iff {fault : CoercionError} :
    intOr cause found = .error fault ↔
      (¬∃ value n, found = some n ∧ value = Value.int n) ∧ fault = cause := by
  cases found with
  | none => simp [intOr, eq_comm]
  | some n => simp [intOr]

namespace Kind

theorem ofLiteral_int (literal : String) :
    int.ofLiteral literal = intOr (.notInt literal) (integer? (trim literal)) := by
  rw [ofLiteral, intOr]
  cases integer? (trim literal) <;> rfl

theorem ofPayload_int_number (numeral : String) :
    int.ofPayload (.number numeral) = intOr (.notIntNumber numeral) (integer? numeral) := by
  rw [ofPayload, intOr]
  cases integer? numeral <;> rfl

theorem ofPayload_int_of_ne {payload : Payload} (h : ∀ numeral, payload ≠ .number numeral) :
    int.ofPayload payload = .error (.wrongForm int payload.formName) := by
  cases payload with
  | number numeral => exact absurd rfl (h numeral)
  | null | bool | text | array | object => rfl

/-- **Integers are read exactly, to the limits of 64 bits.** A literal is read as the integer that
stands in it between blanks. The number of a payload is read as the integer that it is, without
blanks. Everything else is refused, with the complaint that belongs to it: integers that are too great
or too small, other numerals and other texts, and payloads that are no numbers. -/
theorem integers_exact :
    (∀ literal value, int.ofLiteral literal = .ok value ↔
      ∃ numeral, Padded numeral literal.toList ∧ StandsForInt numeral value) ∧
    (∀ literal, int.ofLiteral literal = .error (.notInt literal) ↔
      ¬∃ value numeral, Padded numeral literal.toList ∧ StandsForInt numeral value) ∧
    (∀ payload value, int.ofPayload payload = .ok value ↔
      ∃ numeral, payload = .number numeral ∧ StandsForInt numeral.toList value) ∧
    ∀ payload cause, int.ofPayload payload = .error cause ↔
      (∃ numeral, payload = .number numeral ∧ (¬∃ value, StandsForInt numeral.toList value) ∧
        cause = .notIntNumber numeral) ∨
      (∀ numeral, payload ≠ .number numeral) ∧ cause = .wrongForm int payload.formName := by
  refine ⟨fun literal value ↦ ?_, fun literal ↦ ?_, fun payload value ↦ ?_, fun payload cause ↦ ?_⟩
  · rw [exists_padded_iff, standsForInt_iff, ofLiteral_int, intOr_eq_ok_iff]
  · simp only [exists_padded_iff, standsForInt_iff]
    rw [ofLiteral_int, intOr_eq_error_iff, and_iff_left rfl]
  · simp only [standsForInt_iff]
    by_cases h : ∀ numeral, payload ≠ .number numeral
    · rw [ofPayload_int_of_ne h]
      simp [h]
    · push Not at h
      obtain ⟨numeral, rfl⟩ := h
      rw [ofPayload_int_number, intOr_eq_ok_iff]
      simp
  · simp only [standsForInt_iff]
    by_cases h : ∀ numeral, payload ≠ .number numeral
    · rw [ofPayload_int_of_ne h]
      simp [h, eq_comm]
    · push Not at h
      obtain ⟨numeral, rfl⟩ := h
      rw [ofPayload_int_number, intOr_eq_error_iff]
      simp

/-- The least integer is read, and the one below it is not. -/
example :
    int.ofLiteral " -09223372036854775808\n" = .ok (.int Int64.minValue) ∧
      int.ofLiteral "-9223372036854775809" = .error (.notInt "-9223372036854775809") := by
  decide +kernel

end Kind

end RecordStore
