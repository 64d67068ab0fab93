import Mathlib.Algebra.Group.Nat.Defs
import RecordStore.Proofs.Bounds.Cursor
import RecordStore.Proofs.Text.Escapes

/-!
# Quoted texts within bounds

Reading a quoted text at a position computes with what it reads: the four hexadecimal digits of a code
point are summed up in 32 bits, and the two halves of a pair are brought to zero before they are put
together. Neither subtraction is checked where it stands. Each is safe because the half was found to
lie in its range before, and then the sum is a character and fits (`gives_readCodePoint`).

So reading at a position comes to what reading from the front does, of any text
(`gives_readQuoted`).
-/

namespace RecordStore.Cursor

open RecordStore.Text
open Bounded (minus? word?)

/-! ### Reading at a position -/

/-- The character of a code, if it is the code of one. -/
def character? (code : Nat) : Option Char := if code.isValidChar then some (Char.ofNat code) else none

/-- The number of so many hexadecimal digits and of those before, which have given `code`. -/
def readHex : Nat → Nat → Cursor Char QuotedError Nat
  | 0, code => return code
  | count + 1, code => do
    match (← next?).bind hexDigit? with
    | none => throw .badCodePoint
    | some digit =>
      let shifted ← need (word? (code * 16))
      let code ← need (word? (shifted + digit))
      readHex count code

/-- The character that the two halves of a pair stand for. -/
def joined (high low : Nat) : Cursor Char QuotedError Char := do
  let lead ← need (minus? high 0xD800)
  let shifted ← need (word? (lead * 0x400))
  let base ← need (word? (0x10000 + shifted))
  let trail ← need (minus? low 0xDC00)
  let code ← need (word? (base + trail))
  match character? code with
  | some c => return c
  | none => throw .badCodePoint

/-- The character that begins with a high surrogate. The escape of the low one has to be next. -/
def readPaired (high : Nat) : Cursor Char QuotedError Char := do
  if (← next?) = some '\\' then
    if (← next?) = some 'u' then
      let low ← readHex 4 0
      if isLowSurrogate low then joined high low
      else throw .unpairedSurrogate
    else throw .unpairedSurrogate
  else throw .unpairedSurrogate

/-- The character of a code point escape, whose digits are next. -/
def readCodePoint : Cursor Char QuotedError Char := do
  let high ← readHex 4 0
  if isHighSurrogate high then readPaired high
  else
    match character? high with
    | some c => return c
    | none => throw .badCodePoint

/-- The character that a backslash and `c` stand for. -/
def unescape (c : Char) : Cursor Char QuotedError Char :=
  if c = 'b' then return '\x08'
  else if c = 'f' then return '\x0c'
  else if c = 'n' then return '\n'
  else if c = 'r' then return '\r'
  else if c = 't' then return '\t'
  else if c = 'u' then readCodePoint
  else return c

/-- Reads to the closing quote, with the characters decoded so far, the latest first. -/
def readQuotedFrom : Nat → List Char → Cursor Char QuotedError String
  | 0, _ => endless
  | turns + 1, decoded => do
    match ← next? with
    | none => throw (.unterminated (String.ofList decoded.reverse))
    | some c =>
      if c = '"' then return String.ofList decoded.reverse
      else if c = '\\' then
        match ← next? with
        | none => throw (.unterminated (String.ofList decoded.reverse))
        | some e =>
          let d ← unescape e
          readQuotedFrom turns (d :: decoded)
      else readQuotedFrom turns (c :: decoded)

/-- Reads a quoted text whose opening quote has been passed. -/
def readQuoted : Cursor Char QuotedError String := do
  readQuotedFrom (← turns) []

/-! ### Hexadecimal digits -/

/-- The number of so many digits at the front and of those before, which have given `code`. -/
def hexAfter : Nat → Nat → List Char → Option (Nat × List Char)
  | 0, code, cs => some (code, cs)
  | _ + 1, _, [] => none
  | count + 1, code, c :: cs => (hexDigit? c).bind fun digit ↦ hexAfter count (code * 16 + digit) cs

theorem hexAfter_four (cs : List Char) : hexAfter 4 0 cs = readHexFour cs := by
  rcases cs with _ | ⟨a, _ | ⟨b, _ | ⟨c, _ | ⟨d, rest⟩⟩⟩⟩
  case cons.cons.cons.cons =>
    rw [readHexFour]
    cases ha : hexDigit? a <;> cases hb : hexDigit? b <;> cases hc : hexDigit? c <;>
      cases hd : hexDigit? d <;> simp [hexAfter, ha, hb, hc, hd]
  all_goals simp [hexAfter, readHexFour]

theorem hexDigit?_lt {c : Char} {digit : Nat} (h : hexDigit? c = some digit) : digit < 16 := by
  have hall : ∀ e ∈ hexDigits, e.2 < 16 := by decide +kernel
  exact hall _ (hexDigit?_eq_some_iff.1 h)

variable {ts rest : List Char} {p : Nat}

/-- Four digits never leave the 32 bits. -/
theorem gives_readHex {count code : Nat} (hcode : (code + 1) * 16 ^ count ≤ 16 ^ 4)
    (h : Cut ts p rest) :
    Gives ts p (readHex count code)
      ((hexAfter count code rest).elim (.error .badCodePoint) .ok) := by
  induction count generalizing code p rest with
  | zero => exact gives_pure h code
  | succ count ih =>
    rw [readHex]
    rcases rest with _ | ⟨c, rest⟩
    · exact (gives_next?_nil h).bind_ok fun q hq ↦ gives_throw _
    refine (gives_next?_cons h).bind_ok fun q hq ↦ ?_
    rw [hexAfter, Option.bind_some]
    cases hdigit : hexDigit? c with
    | none => exact gives_throw _
    | some digit =>
      have hlt := hexDigit?_lt hdigit
      have hpow : 0 < 16 ^ count := Nat.pow_pos (by decide)
      have hnext : (code * 16 + digit + 1) * 16 ^ count ≤ 16 ^ 4 := by
        calc (code * 16 + digit + 1) * 16 ^ count
            ≤ ((code + 1) * 16) * 16 ^ count := Nat.mul_le_mul_right _ (by omega)
          _ = (code + 1) * 16 ^ (count + 1) := by rw [Nat.pow_succ']; ac_rfl
          _ ≤ 16 ^ 4 := hcode
      have hword : code * 16 + digit < 0x10000 := by
        have hle := Nat.le_mul_of_pos_right (code * 16 + digit + 1) hpow
        omega
      refine (gives_need hq (Bounded.word?_of_lt (by omega))).bind_ok fun q hq ↦ ?_
      refine (gives_need hq (Bounded.word?_of_lt (by omega))).bind_ok fun q hq ↦ ?_
      exact ih hnext hq

theorem gives_readHexFour (h : Cut ts p rest) :
    Gives ts p (readHex 4 0) ((readHexFour rest).elim (.error .badCodePoint) .ok) := by
  rw [← hexAfter_four]
  exact gives_readHex (by decide) h

/-! ### Code points -/

/-- A code of four digits, which is no surrogate, is that of a character. -/
theorem character?_of_hexFour {digits : List Char} {code : Nat} (h : HexFour digits code)
    (hhigh : isHighSurrogate code = false) :
    character? code = if isLowSurrogate code then none else some (Char.ofNat code) := by
  rw [character?]
  cases hlow : isLowSurrogate code with
  | true =>
    rw [if_neg]
    · rfl
    · rw [h.isValidChar_iff, hlow]
      exact fun hvalid ↦ Bool.noConfusion hvalid.2
  | false => rw [if_pos (h.isValidChar_iff.2 ⟨hhigh, hlow⟩), if_neg Bool.false_ne_true]

/-- A pair of surrogates is that of a character. -/
theorem character?_pairedCode {high low : Nat} (hhigh : isHighSurrogate high = true)
    (hlow : isLowSurrogate low = true) :
    character? (pairedCode high low) = some (Char.ofNat (pairedCode high low)) := by
  have hvalid : (pairedCode high low).isValidChar := by
    rw [isHighSurrogate_iff] at hhigh
    rw [isLowSurrogate_iff] at hlow
    unfold pairedCode
    exact .inr (by omega)
  rw [character?, if_pos hvalid]

/-- The halves of a pair are put together without leaving the 32 bits. -/
theorem gives_joined {high low : Nat} (hhigh : isHighSurrogate high = true)
    (hlow : isLowSurrogate low = true) (h : Cut ts p rest) :
    Gives ts p (joined high low) (.ok (Char.ofNat (pairedCode high low), rest)) := by
  have hcharacter := character?_pairedCode hhigh hlow
  rw [isHighSurrogate_iff] at hhigh
  rw [isLowSurrogate_iff] at hlow
  have hshifted : (high - 0xD800) * 0x400 < 0x100000 := by omega
  have htrail : low - 0xDC00 < 0x400 := by omega
  rw [joined]
  refine (gives_need h (Bounded.minus?_of_le hhigh.1)).bind_ok fun q hq ↦ ?_
  refine (gives_need hq (Bounded.word?_of_lt (by omega))).bind_ok fun q hq ↦ ?_
  refine (gives_need hq (Bounded.word?_of_lt (by omega))).bind_ok fun q hq ↦ ?_
  refine (gives_need hq (Bounded.minus?_of_le hlow.1)).bind_ok fun q hq ↦ ?_
  refine (gives_need hq (Bounded.word?_of_lt (by omega))).bind_ok fun q hq ↦ ?_
  unfold pairedCode at hcharacter ⊢
  rw [hcharacter]
  exact gives_pure hq _

/-- The escape of a low surrogate has to follow that of a high one. -/
theorem gives_readPaired {high : Nat} {behind : List Char}
    (hfour : readHexFour rest = some (high, behind)) (hhigh : isHighSurrogate high = true)
    (h : Cut ts p behind) : Gives ts p (readPaired high) (Text.readCodePoint rest) := by
  rw [readPaired, Text.readCodePoint, hfour]
  dsimp only
  rw [if_pos hhigh]
  rcases behind with _ | ⟨c, behind⟩
  · exact (gives_next?_nil h).bind_ok fun q hq ↦ gives_throw _
  refine (gives_next?_cons h).bind_ok fun q hq ↦ ?_
  by_cases hc : c = '\\'
  case neg =>
    rw [if_neg (mt Option.some.inj hc)]
    split
    · next heq => exact absurd (List.cons.inj heq).1 hc
    · exact gives_throw _
  rw [hc, if_pos rfl]
  rcases behind with _ | ⟨d, behind⟩
  · exact (gives_next?_nil hq).bind_ok fun q hq ↦ gives_throw _
  refine (gives_next?_cons hq).bind_ok fun q hbehind ↦ ?_
  by_cases hd : d = 'u'
  case neg =>
    rw [if_neg (mt Option.some.inj hd)]
    split
    · next heq => exact absurd (List.cons.inj (List.cons.inj heq).2).1 hd
    · exact gives_throw _
  subst hd
  rw [if_pos rfl]
  have hhex := gives_readHexFour hbehind
  split
  case h_2 hunpaired => exact absurd rfl (hunpaired behind)
  case h_1 heq =>
    cases heq
    cases hlowfour : readHexFour behind with
    | none =>
      rw [hlowfour] at hhex
      exact hhex.bind_error _
    | some found =>
      rw [hlowfour] at hhex
      refine hhex.bind_ok fun q hq ↦ ?_
      dsimp only
      by_cases hlow : isLowSurrogate found.1 = true
      · rw [if_pos hlow, if_pos hlow]
        exact gives_joined hhigh hlow hq
      · rw [if_neg hlow, if_neg hlow]
        exact gives_throw _

/-- **Code points stay within 32 bits**, and no surrogate is taken for another one. -/
theorem gives_readCodePoint (h : Cut ts p rest) :
    Gives ts p readCodePoint (Text.readCodePoint rest) := by
  have hhex := gives_readHexFour h
  rw [readCodePoint]
  cases hfour : readHexFour rest with
  | none =>
    rw [Text.readCodePoint, hfour]
    rw [hfour] at hhex
    exact hhex.bind_error _
  | some found =>
    obtain ⟨digits, hdigits, -⟩ := readHexFour_eq_some_iff.1 hfour
    rw [hfour] at hhex
    refine hhex.bind_ok fun q hq ↦ ?_
    by_cases hhigh : isHighSurrogate found.1 = true
    · rw [if_pos hhigh]
      exact gives_readPaired hfour hhigh hq
    · rw [if_neg hhigh, character?_of_hexFour hdigits (Bool.eq_false_iff.2 hhigh),
        Text.readCodePoint, hfour]
      dsimp only
      rw [if_neg hhigh]
      cases isLowSurrogate found.1 with
      | true => exact gives_throw _
      | false => exact gives_pure hq _

/-! ### Quoted texts -/

theorem gives_unescape (c : Char) (h : Cut ts p rest) :
    Gives ts p (unescape c) (Text.unescape c rest) := by
  rw [unescape, Text.unescape]
  split_ifs
  all_goals first
    | exact gives_pure h _
    | exact gives_readCodePoint h

/-- What is left to read gets shorter with every turn, so that there are turns enough for it. -/
theorem gives_readQuotedFrom {turns : Nat} (hturns : rest.length < turns) (decoded : List Char)
    (h : Cut ts p rest) :
    Gives ts p (readQuotedFrom turns decoded) (Text.readQuotedFrom decoded rest) := by
  induction turns generalizing p rest decoded with
  | zero => exact absurd hturns (Nat.not_lt_zero _)
  | succ turns ih =>
    rw [readQuotedFrom, Text.readQuotedFrom.eq_def]
    rcases rest with _ | ⟨c, rest⟩
    · exact (gives_next?_nil h).bind_ok fun q hq ↦ gives_throw _
    refine (gives_next?_cons h).bind_ok fun q hq ↦ ?_
    rw [List.length_cons] at hturns
    dsimp only
    by_cases hquote : c = '"'
    · rw [if_pos hquote, if_pos hquote]
      exact gives_pure hq _
    by_cases hback : c = '\\'
    · rw [if_neg hquote, if_neg hquote, if_pos hback, if_pos hback]
      rcases rest with _ | ⟨e, rest⟩
      · exact (gives_next?_nil hq).bind_ok fun q hq ↦ gives_throw _
      refine (gives_next?_cons hq).bind_ok fun q hq ↦ ?_
      have hescape := gives_unescape e hq
      dsimp only
      split
      · next fault hfault =>
        rw [hfault] at hescape
        exact hescape.bind_error _
      · next d after hd =>
        rw [hd] at hescape
        have hle := length_unescape_le hd
        rw [List.length_cons] at hturns
        exact hescape.bind_ok fun q hq ↦ ih (by omega) (d :: decoded) hq
    · rw [if_neg hquote, if_neg hquote, if_neg hback, if_neg hback]
      exact ih (by omega) (c :: decoded) hq

/-- **Reading a quoted text at a position** comes to what reading from the front does. -/
theorem gives_readQuoted (h : Cut ts p rest) :
    Gives ts p readQuoted (Text.readQuoted rest) := by
  rw [readQuoted, Text.readQuoted]
  exact (gives_turns h).bind_ok fun q hq ↦ gives_readQuotedFrom hq.length_lt [] hq

end RecordStore.Cursor
