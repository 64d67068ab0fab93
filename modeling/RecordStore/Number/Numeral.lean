/-!
# Numerals

The written forms of numbers. A *plain numeral* is an optional minus sign, digits, and optionally a
point with more digits; an *integer numeral* has no point. Payloads also allow an exponent, and
`readNumeral` takes the longest such numeral off the front of a text.

Only the digits 0 to 9 count. `integer?` reads an integer numeral exactly and refuses what does not
fit into 64 bits, so no literal ever wraps or is rounded.
-/

namespace RecordStore.Number

/-- The number that a run of digits stands for. -/
def digitsValue (ds : List Char) : Nat :=
  ds.foldl (fun n d ↦ 10 * n + (d.toNat - '0'.toNat)) 0

/-- Is this a non-empty run of digits? -/
def isDigits (cs : List Char) : Bool := !cs.isEmpty && cs.all Char.isDigit

/-- The sign and what follows it: is there a minus sign at the front? -/
def splitMinus : List Char → Bool × List Char
  | '-' :: cs => (true, cs)
  | cs => (false, cs)

/-- Is the text a plain numeral, `-?digits(.digits)?`? -/
def isNumeral (s : String) : Bool :=
  let body := (splitMinus s.toList).2
  match body.dropWhile (· != '.') with
  | [] => isDigits body
  | _ :: fraction => isDigits (body.takeWhile (· != '.')) && isDigits fraction

/-- Is the text an integer numeral, `-?digits`? -/
def isInteger (s : String) : Bool := isDigits (splitMinus s.toList).2

/-- The least and the greatest 64-bit integer bound the integers a store can hold. -/
def fitsInt64 (n : Int) : Bool := -9223372036854775808 ≤ n && n ≤ 9223372036854775807

/-- The integer that an integer numeral stands for, if it fits into 64 bits. -/
def integer? (s : String) : Option Int64 :=
  if isInteger s then
    let (negative, digits) := splitMinus s.toList
    let n : Int := if negative then -(digitsValue digits : Int) else digitsValue digits
    if fitsInt64 n then some (Int64.ofInt n) else none
  else none

/-! ### Reading a numeral off the front of a text -/

/-- Takes a non-empty run of digits off the front. -/
def readDigits (cs : List Char) : Option (List Char × List Char) :=
  match cs.takeWhile Char.isDigit with
  | [] => none
  | digits => some (digits, cs.dropWhile Char.isDigit)

/-- Takes an optional fraction, a point and digits, off the front. A point without a digit fails. -/
def readFraction : List Char → Option (List Char × List Char)
  | '.' :: cs => (readDigits cs).map fun (digits, rest) ↦ ('.' :: digits, rest)
  | cs => some ([], cs)

/-- Takes an optional sign off the front. -/
def readSign : List Char → List Char × List Char
  | '+' :: cs => (['+'], cs)
  | '-' :: cs => (['-'], cs)
  | cs => ([], cs)

/-- Takes an optional exponent off the front. An `e` without digits fails. -/
def readExponent : List Char → Option (List Char × List Char)
  | [] => some ([], [])
  | c :: cs =>
    if c = 'e' || c = 'E' then
      (readDigits (readSign cs).2).map fun (digits, rest) ↦ (c :: (readSign cs).1 ++ digits, rest)
    else some ([], c :: cs)

/-- Takes the numeral `-?digits(.digits)?([eE][+-]?digits)?` off the front: its text, and what
follows it. -/
def readNumeral (cs : List Char) : Option (String × List Char) := do
  let (minus, rest) := match cs with
    | '-' :: rest => (['-'], rest)
    | rest => ([], rest)
  let (whole, rest) ← readDigits rest
  let (fraction, rest) ← readFraction rest
  let (exponent, rest) ← readExponent rest
  return (String.ofList (minus ++ whole ++ fraction ++ exponent), rest)

theorem readDigits_eq_some_iff {cs digits rest : List Char} :
    readDigits cs = some (digits, rest) ↔
      digits ≠ [] ∧ digits = cs.takeWhile Char.isDigit ∧ rest = cs.dropWhile Char.isDigit := by
  unfold readDigits
  split
  · next h => simp only [reduceCtorEq, false_iff, not_and]; intro hne heq; simp_all
  · next h => simp only [Option.some.injEq, Prod.mk.injEq]; grind

/-- A run of digits and what follows it make up the text they were read from. -/
theorem append_of_readDigits {cs digits rest : List Char} (h : readDigits cs = some (digits, rest)) :
    digits ++ rest = cs := by
  obtain ⟨-, rfl, rfl⟩ := readDigits_eq_some_iff.1 h
  exact List.takeWhile_append_dropWhile

theorem append_of_readFraction {cs digits rest : List Char}
    (h : readFraction cs = some (digits, rest)) : digits ++ rest = cs := by
  unfold readFraction at h
  split at h
  · obtain ⟨⟨ds, r⟩, hd, he⟩ := Option.map_eq_some_iff.1 h
    cases he
    simp [append_of_readDigits hd]
  · cases h; rfl

theorem append_readSign (cs : List Char) : (readSign cs).1 ++ (readSign cs).2 = cs := by
  unfold readSign; split <;> rfl

theorem append_of_readExponent {cs digits rest : List Char}
    (h : readExponent cs = some (digits, rest)) : digits ++ rest = cs := by
  unfold readExponent at h
  split at h
  · cases h; rfl
  · next c cs =>
    split at h
    · obtain ⟨⟨ds, r⟩, hd, he⟩ := Option.map_eq_some_iff.1 h
      simp only [Prod.mk.injEq] at he
      obtain ⟨rfl, rfl⟩ := he
      simp [append_of_readDigits hd, append_readSign]
    · cases h; rfl

/-- Reading a numeral consumes at least one character. -/
theorem length_readNumeral_lt {cs rest : List Char} {s : String}
    (h : readNumeral cs = some (s, rest)) : rest.length < cs.length := by
  unfold readNumeral at h
  simp only [Option.bind_eq_bind, Option.bind_eq_some_iff, Prod.exists, Option.pure_def,
    Option.some.injEq, Prod.mk.injEq] at h
  obtain ⟨w, r₁, h₁, f, r₂, h₂, e, r₃, h₃, -, rfl⟩ := h
  have hw : 0 < w.length := List.length_pos_iff.2 (readDigits_eq_some_iff.1 h₁).1
  have e₁ := congrArg List.length (append_of_readDigits h₁)
  have e₂ := congrArg List.length (append_of_readFraction h₂)
  have e₃ := congrArg List.length (append_of_readExponent h₃)
  simp only [List.length_append] at e₁ e₂ e₃
  split at e₁ <;> simp at * <;> omega

end RecordStore.Number
