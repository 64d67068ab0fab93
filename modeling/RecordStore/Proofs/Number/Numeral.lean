import RecordStore.Number.DoubleText
import RecordStore.Proofs.Text.Words

/-!
# Legal numerals

The numerals of payloads, part by part: a minus sign, digits, a fraction, an exponent, of which only
the digits are asked for (`Legal`). Such a numeral is taken off the front of a text as a whole,
unless the text goes on with a character that could belong to it (`readNumeral_of_legal`), and
nothing else is taken off (`legal_of_readNumeral`). It always stands for a double
(`isSome_ofText?_of_legal`). An integer in digits is read exactly, if it fits into 64 bits
(`integer?_eq_some_iff`), and how it is written by itself is a legal numeral that is read back
(`integer?_toString`).

The plain numerals of filters are the legal ones without an exponent (`legal_of_isNumeral`).
-/

namespace RecordStore.Number

open RecordStore.Text

variable {c : Char} {cs rest digits whole fraction exponent : List Char}

/-! ### The parts of a numeral -/

theorem isDigits_iff : isDigits cs = true ↔ cs ≠ [] ∧ ∀ c ∈ cs, c.isDigit = true := by
  simp [isDigits, List.isEmpty_eq_false_iff]

/-- Nothing, or a point and digits. -/
inductive IsFraction : List Char → Prop where
  /-- No fraction. -/
  | none : IsFraction []
  /-- A point and digits. -/
  | some {digits : List Char} (h : isDigits digits = true) : IsFraction ('.' :: digits)

/-- Nothing, or an `e` in either case, perhaps a sign, and digits. -/
inductive IsExponent : List Char → Prop where
  /-- No exponent. -/
  | none : IsExponent []
  /-- An `e`, a sign and digits. -/
  | some {e : Char} {sign digits : List Char} (he : e = 'e' ∨ e = 'E')
      (hsign : sign = [] ∨ sign = ['+'] ∨ sign = ['-']) (h : isDigits digits = true) :
    IsExponent (e :: (sign ++ digits))

/-- A numeral as payloads have it. -/
inductive Legal : List Char → Prop where
  /-- A minus sign, digits, a fraction and an exponent. -/
  | mk {minus whole fraction exponent : List Char} (hminus : minus = [] ∨ minus = ['-'])
      (hwhole : isDigits whole = true) (hfraction : IsFraction fraction)
      (hexponent : IsExponent exponent) : Legal (minus ++ (whole ++ (fraction ++ exponent)))

/-- May a numeral go on with the character? -/
def continuesNumeral (c : Char) : Bool := c.isDigit || c = '.' || c = 'e' || c = 'E'

theorem continuesNumeral_eq_false_iff :
    continuesNumeral c = false ↔ c.isDigit = false ∧ c ≠ '.' ∧ c ≠ 'e' ∧ c ≠ 'E' := by
  simp [continuesNumeral, and_assoc]

/-- No digit is a blank. -/
theorem isBlank_of_isDigit (h : c.isDigit = true) : isBlank c = false := by
  have hcode : 48 ≤ c.toNat ∧ c.toNat ≤ 57 := by
    simpa [Char.isDigit, UInt32.le_iff_toNat_le] using h
  simp [isBlank, blanks, CharSet.contains, CharSet.covers]
  omega

/-- A numeral does not go on with a blank. -/
theorem continuesNumeral_of_isBlank (h : isBlank c = true) : continuesNumeral c = false := by
  refine continuesNumeral_eq_false_iff.2 ⟨?_, ?_, ?_, ?_⟩
  · rw [Bool.eq_false_iff]
    intro hdigit
    rw [isBlank_of_isDigit hdigit] at h
    cases h
  all_goals
    rintro rfl
    exact absurd h (by decide)

/-! ### Taking a numeral off the front -/

/-- Digits are taken off up to what is no digit. -/
theorem span_digits (h : isDigits digits = true) (hrest : ∀ c ∈ rest.head?, c.isDigit = false) :
    (digits ++ rest).takeWhile Char.isDigit = digits ∧
      (digits ++ rest).dropWhile Char.isDigit = rest := by
  have hsplit := @takeWhile_dropWhile_of_head rest (fun c ↦ !c.isDigit) digits
    (fun c hc ↦ by simp [(isDigits_iff.1 h).2 c hc]) fun c hc ↦ by simp [hrest c hc]
  simpa only [Bool.not_not] using hsplit

theorem readDigits_append (h : isDigits digits = true)
    (hrest : ∀ c ∈ rest.head?, c.isDigit = false) :
    readDigits (digits ++ rest) = some (digits, rest) := by
  obtain ⟨htake, hdrop⟩ := span_digits h hrest
  exact readDigits_eq_some_iff.2 ⟨(isDigits_iff.1 h).1, htake.symm, hdrop.symm⟩

/-- Digits do not begin with a sign. -/
theorem exists_cons_of_isDigits (h : isDigits digits = true) :
    ∃ d ds, digits = d :: ds ∧ d.isDigit = true ∧ d ≠ '-' ∧ d ≠ '+' := by
  obtain ⟨hne, hdigits⟩ := isDigits_iff.1 h
  obtain ⟨d, ds, rfl⟩ := List.exists_cons_of_ne_nil hne
  have hd : d.isDigit = true := hdigits d List.mem_cons_self
  refine ⟨d, ds, rfl, hd, ?_, ?_⟩
  · rintro rfl
    exact absurd hd (by decide)
  · rintro rfl
    exact absurd hd (by decide)

theorem readSign_of_isDigits (h : isDigits digits = true) (rest : List Char) :
    readSign (digits ++ rest) = ([], digits ++ rest) := by
  obtain ⟨d, ds, rfl, -, hminus, hplus⟩ := exists_cons_of_isDigits h
  unfold readSign
  split
  · next heq => exact absurd (List.cons.inj heq).1 hplus
  · next heq => exact absurd (List.cons.inj heq).1 hminus
  · rfl

theorem readSign_append {sign : List Char} (hsign : sign = [] ∨ sign = ['+'] ∨ sign = ['-'])
    (h : isDigits digits = true) (rest : List Char) :
    readSign (sign ++ (digits ++ rest)) = (sign, digits ++ rest) := by
  rcases hsign with rfl | rfl | rfl
  · exact readSign_of_isDigits h rest
  · rfl
  · rfl

/-- What follows an exponent or stands instead of it goes on with no digit and no point. -/
theorem head_exponent (h : IsExponent exponent)
    (hrest : ∀ c ∈ rest.head?, c.isDigit = false ∧ c ≠ '.') :
    ∀ c ∈ (exponent ++ rest).head?, c.isDigit = false ∧ c ≠ '.' := by
  cases h with
  | none => exact hrest
  | some he _ _ =>
    intro c hc
    cases hc
    rcases he with rfl | rfl <;> decide

theorem head_fraction (h : IsFraction fraction)
    (hrest : ∀ c ∈ rest.head?, c.isDigit = false ∧ c ≠ '.') :
    ∀ c ∈ (fraction ++ rest).head?, c.isDigit = false := by
  cases h with
  | none => exact fun c hc ↦ (hrest c hc).1
  | some _ =>
    intro c hc
    cases hc
    decide

theorem readFraction_append (h : IsFraction fraction)
    (hrest : ∀ c ∈ rest.head?, c.isDigit = false ∧ c ≠ '.') :
    readFraction (fraction ++ rest) = some (fraction, rest) := by
  cases h with
  | none =>
    show readFraction rest = _
    unfold readFraction
    split
    · exact absurd rfl (hrest '.' rfl).2
    · rfl
  | some h =>
    rw [List.cons_append, readFraction, readDigits_append h fun c hc ↦ (hrest c hc).1]
    rfl

theorem readExponent_append (h : IsExponent exponent)
    (hrest : ∀ c ∈ rest.head?, continuesNumeral c = false) :
    readExponent (exponent ++ rest) = some (exponent, rest) := by
  cases h with
  | none =>
    show readExponent rest = _
    cases rest with
    | nil => rfl
    | cons c rest =>
      obtain ⟨-, -, hsmall, hcapital⟩ := continuesNumeral_eq_false_iff.1 (hrest c rfl)
      rw [readExponent, if_neg (by simp [hsmall, hcapital])]
  | @some e sign digits he hsign h =>
    have hdigits : ∀ c ∈ rest.head?, c.isDigit = false := fun c hc ↦
      (continuesNumeral_eq_false_iff.1 (hrest c hc)).1
    have hread := readSign_append hsign h rest
    rw [List.cons_append, readExponent, if_pos (by simpa using he), List.append_assoc, hread,
      readDigits_append h hdigits]
    rfl

/-- **A legal numeral is taken off as a whole.** -/
theorem readNumeral_of_legal (h : Legal cs) (hrest : ∀ c ∈ rest.head?, continuesNumeral c = false) :
    readNumeral (cs ++ rest) = some (String.ofList cs, rest) := by
  obtain @⟨minus, whole, fraction, exponent, hminus, hwhole, hfraction, hexponent⟩ := h
  have hbehind : ∀ c ∈ rest.head?, c.isDigit = false ∧ c ≠ '.' := fun c hc ↦
    (continuesNumeral_eq_false_iff.1 (hrest c hc)).imp_right And.left
  have hhead := head_exponent hexponent hbehind
  have hdigits := readDigits_append hwhole (head_fraction hfraction hhead)
  have hpoint := readFraction_append hfraction hhead
  have hmark := readExponent_append hexponent hrest
  unfold readNumeral
  split
  next sign after hsplit =>
  obtain ⟨rfl, rfl⟩ : minus = sign ∧ whole ++ (fraction ++ (exponent ++ rest)) = after := by
    simp only [List.append_assoc] at hsplit
    rcases hminus with rfl | rfl
    · obtain ⟨d, ds, rfl, -, hd, -⟩ := exists_cons_of_isDigits hwhole
      split at hsplit
      · next heq => exact absurd (List.cons.inj heq).1 hd
      · cases hsplit
        exact ⟨rfl, rfl⟩
    · cases hsplit
      exact ⟨rfl, rfl⟩
  simp only [hdigits, hpoint, hmark, List.append_assoc, Option.bind_eq_bind, Option.bind_some,
    Option.pure_def]

/-! ### Nothing else is taken off -/

theorem isDigits_of_readDigits (h : readDigits cs = some (digits, rest)) : isDigits digits = true := by
  obtain ⟨hne, rfl, -⟩ := readDigits_eq_some_iff.1 h
  exact isDigits_iff.2 ⟨hne, fun _ hc ↦ List.mem_takeWhile_imp hc⟩

theorem isFraction_of_readFraction (h : readFraction cs = some (fraction, rest)) :
    IsFraction fraction := by
  unfold readFraction at h
  split at h
  · obtain ⟨⟨digits, after⟩, hdigits, heq⟩ := Option.map_eq_some_iff.1 h
    cases heq
    exact .some (isDigits_of_readDigits hdigits)
  · cases h
    exact .none

theorem readSign_cases (cs : List Char) :
    (readSign cs).1 = [] ∨ (readSign cs).1 = ['+'] ∨ (readSign cs).1 = ['-'] := by
  unfold readSign
  split <;> simp

theorem isExponent_of_readExponent (h : readExponent cs = some (exponent, rest)) :
    IsExponent exponent := by
  unfold readExponent at h
  split at h
  · cases h
    exact .none
  · next e cs =>
    split at h
    · next he =>
      obtain ⟨⟨digits, after⟩, hdigits, heq⟩ := Option.map_eq_some_iff.1 h
      obtain ⟨rfl, -⟩ := Prod.mk.inj heq
      exact .some (by simpa using he) (readSign_cases cs) (isDigits_of_readDigits hdigits)
    · cases h
      exact .none

/-- **What is taken off is a legal numeral.** -/
theorem legal_of_readNumeral {s : String} (h : readNumeral cs = some (s, rest)) :
    Legal s.toList ∧ cs = s.toList ++ rest := by
  unfold readNumeral at h
  split at h
  next minus after hsplit =>
  obtain ⟨hminus, rfl⟩ : (minus = [] ∨ minus = ['-']) ∧ cs = minus ++ after := by
    split at hsplit <;> cases hsplit <;> simp
  simp only [Option.bind_eq_bind, Option.bind_eq_some_iff, Prod.exists, Option.pure_def,
    Option.some.injEq, Prod.mk.injEq] at h
  obtain ⟨whole, behind, hwhole, fraction, mid, hfraction, exponent, last, hexponent, rfl, rfl⟩ := h
  rw [← append_of_readDigits hwhole, ← append_of_readFraction hfraction,
    ← append_of_readExponent hexponent, String.toList_ofList]
  simp only [List.append_assoc, and_true]
  exact .mk hminus (isDigits_of_readDigits hwhole) (isFraction_of_readFraction hfraction)
    (isExponent_of_readExponent hexponent)

/-- The characters of a legal numeral. -/
theorem mem_of_legal (h : Legal cs) (hc : c ∈ cs) : c.isDigit = true ∨ c ∈ ['-', '+', '.', 'e', 'E'] := by
  obtain @⟨minus, whole, fraction, exponent, hminus, hwhole, hfraction, hexponent⟩ := h
  rw [List.mem_append, List.mem_append, List.mem_append] at hc
  rcases hc with hc | hc | hc | hc
  · rcases hminus with rfl | rfl
    · cases hc
    · simp [List.mem_singleton.1 hc]
  · exact .inl ((isDigits_iff.1 hwhole).2 c hc)
  · cases hfraction with
    | none => cases hc
    | some h =>
      rcases List.mem_cons.1 hc with rfl | hc
      · simp
      · exact .inl ((isDigits_iff.1 h).2 c hc)
  · cases hexponent with
    | none => cases hc
    | some he hsign h =>
      rw [List.mem_cons, List.mem_append] at hc
      rcases hc with rfl | hc | hc
      · rcases he with rfl | rfl <;> simp
      · rcases hsign with rfl | rfl | rfl
        · cases hc
        · simp [List.mem_singleton.1 hc]
        · simp [List.mem_singleton.1 hc]
      · exact .inl ((isDigits_iff.1 h).2 c hc)

/-! ### What a numeral stands for -/

theorem isSome_exponentOf? (h : IsExponent exponent) : (Double.exponentOf? exponent).isSome := by
  cases h with
  | none => rfl
  | @some e sign digits he hsign h =>
    have hread := readSign_append hsign h []
    rw [List.append_nil] at hread
    rw [Double.exponentOf?, if_pos (by simpa using he), hread]
    dsimp only
    rw [if_pos h]
    rfl

theorem isSome_ofDigits? (negative : Bool) (hwhole : isDigits whole = true)
    (hfraction : IsFraction fraction) (hexponent : IsExponent exponent) :
    (Double.ofDigits? negative (whole ++ (fraction ++ exponent))).isSome := by
  have hhead : ∀ c ∈ (exponent ++ []).head?, c.isDigit = false ∧ c ≠ '.' :=
    head_exponent hexponent nofun
  rw [List.append_nil] at hhead
  obtain ⟨htake, hdrop⟩ := span_digits hwhole (head_fraction hfraction hhead)
  have hne : whole.isEmpty = false := List.isEmpty_eq_false_iff.2 (isDigits_iff.1 hwhole).1
  unfold Double.ofDigits?
  dsimp only
  rw [htake, hdrop, hne]
  split
  · next more hpoint =>
    have hmore : more.dropWhile Char.isDigit = exponent := by
      cases hfraction with
      | none => exact absurd rfl (hhead '.' (by rw [show exponent = _ from hpoint]; rfl)).2
      | some h =>
        cases hpoint
        exact (span_digits h fun c hc ↦ (hhead c hc).1).2
    rw [Bool.false_and, if_neg (by decide), Option.isSome_map]
    dsimp only
    rw [hmore]
    exact isSome_exponentOf? hexponent
  · next hpoint =>
    cases hfraction with
    | none =>
      rw [Bool.false_and, if_neg (by decide), Option.isSome_map]
      exact isSome_exponentOf? hexponent
    | some h => exact absurd rfl (hpoint _)

/-- **A legal numeral stands for a double**, however large or small it is. -/
theorem isSome_ofText?_of_legal (h : Legal cs) : (Double.ofText? (String.ofList cs)).isSome := by
  obtain @⟨minus, whole, fraction, exponent, hminus, hwhole, hfraction, hexponent⟩ := h
  have hsign : minus = [] ∨ minus = ['+'] ∨ minus = ['-'] := hminus.imp_right .inr
  have hread := readSign_append hsign hwhole (fraction ++ exponent)
  unfold Double.ofText?
  rw [String.toList_ofList, hread]
  dsimp only
  split
  · rfl
  · exact isSome_ofDigits? _ hwhole hfraction hexponent

/-! ### Integers -/

theorem isDigits_toDigits (n : Nat) : isDigits (Nat.toDigits 10 n) = true :=
  isDigits_iff.2 ⟨Nat.toDigits_ne_nil, fun _ ↦ Nat.isDigit_of_mem_toDigits (by decide) (by decide)⟩

theorem digitsValue_toDigits (n : Nat) : digitsValue (Nat.toDigits 10 n) = n :=
  Nat.ofDigitChars_toDigits (by decide) (by decide)

/-- How an integer is written. -/
theorem toList_toString (n : Int) :
    (toString n).toList = (if n < 0 then ['-'] else []) ++ Nat.toDigits 10 n.natAbs := by
  rw [Int.toString_eq_repr]
  cases n with
  | ofNat n => exact Nat.toList_repr
  | negSucc n =>
    show ("-" ++ (n + 1).repr).toList = _
    rw [String.toList_append, Nat.toList_repr, if_pos (Int.negSucc_lt_zero n)]
    rfl

theorem legal_toString (n : Int) : Legal (toString n).toList := by
  have hminus : (if n < 0 then ['-'] else []) = [] ∨ (if n < 0 then ['-'] else []) = ['-'] := by
    split <;> simp
  have hlegal := Legal.mk hminus (isDigits_toDigits n.natAbs) .none .none
  rwa [List.append_nil, List.append_nil, ← toList_toString] at hlegal

theorem splitMinus_append {minus : List Char} (hminus : minus = [] ∨ minus = ['-'])
    (h : isDigits digits = true) : splitMinus (minus ++ digits) = (decide (minus = ['-']), digits) := by
  rcases hminus with rfl | rfl
  · obtain ⟨d, ds, rfl, -, hne, -⟩ := exists_cons_of_isDigits h
    rw [List.nil_append]
    unfold splitMinus
    split
    · next heq => exact absurd (List.cons.inj heq).1 hne
    · rfl
  · rfl

theorem exists_append_splitMinus (cs : List Char) :
    ∃ minus, (minus = [] ∨ minus = ['-']) ∧ cs = minus ++ (splitMinus cs).2 := by
  unfold splitMinus
  split
  · exact ⟨['-'], .inr rfl, rfl⟩
  · exact ⟨[], .inl rfl, rfl⟩

/-- An integer as it may be written: a minus sign or none, and digits, the first of which may be
zeros. -/
inductive Denotes : List Char → Int → Prop where
  /-- A minus sign and digits. -/
  | mk {minus digits : List Char} (hminus : minus = [] ∨ minus = ['-'])
      (hdigits : isDigits digits = true) :
    Denotes (minus ++ digits)
      (if minus = ['-'] then -(digitsValue digits : Int) else digitsValue digits)

/-- Only what fits into 64 bits is one of the integers of a store. -/
theorem ofInt_eq_some_iff {m : Int} {n : Int64} :
    (if fitsInt64 m then some (Int64.ofInt m) else none) = some n ↔ m = n.toInt := by
  constructor
  · intro h
    split at h
    · next hfits =>
      rw [fitsInt64, Bool.and_eq_true, decide_eq_true_iff, decide_eq_true_iff] at hfits
      rw [← Option.some.inj h, Int64.toInt_ofInt_of_le hfits.1 (by omega)]
    · cases h
  · rintro rfl
    have hmin := n.le_toInt
    have hmax := n.toInt_lt
    have hfits : fitsInt64 n.toInt = true := by
      rw [fitsInt64, Bool.and_eq_true, decide_eq_true_iff, decide_eq_true_iff]
      omega
    rw [if_pos hfits, Int64.ofInt_toInt]

/-- **Integers are read exactly**, and one that does not fit is not read. -/
theorem integer?_eq_some_iff {s : String} {n : Int64} :
    integer? s = some n ↔ Denotes s.toList n.toInt := by
  constructor
  · intro h
    obtain ⟨minus, hminus, hs⟩ := exists_append_splitMinus s.toList
    rw [integer?, isInteger] at h
    split at h
    · next hdigits =>
      have hsplit := splitMinus_append hminus hdigits
      rw [← hs] at hsplit
      rw [hsplit] at h hs
      rw [hs, ← ofInt_eq_some_iff.1 h]
      rw [hsplit] at hdigits
      simpa only [decide_eq_true_eq] using Denotes.mk hminus hdigits
    · cases h
  · generalize hs : s.toList = cs
    generalize hn : n.toInt = m
    rintro ⟨hminus, hdigits⟩
    rw [integer?, isInteger, hs, splitMinus_append hminus hdigits, if_pos hdigits]
    simpa only [decide_eq_true_eq] using ofInt_eq_some_iff.2 hn.symm

/-- How an integer is written denotes it. -/
theorem denotes_toString (n : Int) : Denotes (toString n).toList n := by
  have hdigits := isDigits_toDigits n.natAbs
  rw [toList_toString]
  by_cases hneg : n < 0
  · have hdenotes := Denotes.mk (.inr rfl) hdigits
    rw [digitsValue_toDigits, if_pos rfl, show -(n.natAbs : Int) = n by omega] at hdenotes
    rwa [if_pos hneg]
  · have hdenotes := Denotes.mk (.inl rfl) hdigits
    rw [digitsValue_toDigits, if_neg (by simp), show (n.natAbs : Int) = n by omega] at hdenotes
    rwa [if_neg hneg]

/-- **An integer is read back.** -/
theorem integer?_toString (n : Int64) : integer? (toString n.toInt) = some n :=
  integer?_eq_some_iff.2 (denotes_toString n.toInt)

/-! ### Plain numerals -/

/-- The parts of a plain numeral. -/
theorem exists_parts_of_isNumeral {s : String} (h : isNumeral s = true) :
    ∃ minus whole fraction, (minus = [] ∨ minus = ['-']) ∧ isDigits whole = true ∧
      IsFraction fraction ∧ s.toList = minus ++ (whole ++ fraction) := by
  obtain ⟨minus, hminus, hbody⟩ := exists_append_splitMinus s.toList
  rw [hbody]
  rw [isNumeral] at h
  generalize (splitMinus s.toList).2 = body at h
  split at h
  · exact ⟨minus, body, [], hminus, h, .none, by rw [List.append_nil]⟩
  · next c fraction hdrop =>
    rw [Bool.and_eq_true] at h
    obtain rfl : c = '.' := by
      have hhead := List.head?_dropWhile_not (· != '.') body
      rw [hdrop] at hhead
      simpa using hhead
    refine ⟨minus, body.takeWhile (· != '.'), '.' :: fraction, hminus, h.1, .some h.2, ?_⟩
    rw [← hdrop, List.takeWhile_append_dropWhile]

/-- A plain numeral is a legal one. -/
theorem legal_of_isNumeral {s : String} (h : isNumeral s = true) : Legal s.toList := by
  obtain ⟨minus, whole, fraction, hminus, hwhole, hfraction, hs⟩ := exists_parts_of_isNumeral h
  have hlegal := Legal.mk hminus hwhole hfraction .none
  rwa [List.append_nil, ← hs] at hlegal

/-- Every plain numeral is one of a double. -/
theorem isSome_ofText?_of_isNumeral {s : String} (h : isNumeral s = true) :
    (Double.ofText? s).isSome := by
  have hlegal := isSome_ofText?_of_legal (legal_of_isNumeral h)
  rwa [String.ofList_toList] at hlegal

/-- The characters of a plain numeral. -/
theorem mem_of_isNumeral {s : String} (h : isNumeral s = true) (hc : c ∈ s.toList) :
    c = '-' ∨ c = '.' ∨ c.isDigit = true := by
  obtain ⟨minus, whole, fraction, hminus, hwhole, hfraction, hs⟩ := exists_parts_of_isNumeral h
  rw [hs, List.mem_append, List.mem_append] at hc
  rcases hc with hc | hc | hc
  · rcases hminus with rfl | rfl
    · cases hc
    · exact .inl (List.mem_singleton.1 hc)
  · exact .inr (.inr ((isDigits_iff.1 hwhole).2 c hc))
  · cases hfraction with
    | none => cases hc
    | some h =>
      rcases List.mem_cons.1 hc with rfl | hc
      · exact .inr (.inl rfl)
      · exact .inr (.inr ((isDigits_iff.1 h).2 c hc))

end RecordStore.Number
