/-!
# Quoted text with backslash escapes

A quoted text runs to the next double quote that no backslash precedes. A backslash followed by
one of `b f n r t` stands for a control character; `u` and four hexadecimal digits give a code
point, or half of one: a high surrogate has to be followed by the escape of a low one. Any other
character after a backslash stands for itself.

Payloads and filters read quoted text with the same function, so that a value can be matched by
the text it was stored with. Reading returns what follows the closing quote, which is shorter
than what it was given (`length_readQuoted_lt`).
-/

namespace RecordStore.Text

/-- Why a quoted text cannot be read. -/
inductive QuotedError where
  /-- The text ends before its closing quote, with `decoded` read so far. -/
  | unterminated (decoded : String)
  /-- A code point escape lacks a digit, or its code point is no character. -/
  | badCodePoint
  /-- The escape of a high surrogate is not followed by that of a low one. -/
  | unpairedSurrogate
  deriving DecidableEq, Repr

/-- The value of a hexadecimal digit in either case. -/
def hexDigit? (c : Char) : Option Nat :=
  if '0' ≤ c ∧ c ≤ '9' then some (c.toNat - '0'.toNat)
  else if 'a' ≤ c ∧ c ≤ 'f' then some (c.toNat - 'a'.toNat + 10)
  else if 'A' ≤ c ∧ c ≤ 'F' then some (c.toNat - 'A'.toNat + 10)
  else none

/-- The number that four hexadecimal digits at the front give, and what follows them. -/
def readHexFour : List Char → Option (Nat × List Char)
  | a :: b :: c :: d :: rest =>
    match hexDigit? a, hexDigit? b, hexDigit? c, hexDigit? d with
    | some a, some b, some c, some d => some (((a * 16 + b) * 16 + c) * 16 + d, rest)
    | _, _, _, _ => none
  | _ => none

/-- Is the code a high surrogate, the first half of a pair? -/
def isHighSurrogate (n : Nat) : Bool := 0xD800 ≤ n && n < 0xDC00

/-- Is the code a low surrogate, the second half of a pair? -/
def isLowSurrogate (n : Nat) : Bool := 0xDC00 ≤ n && n < 0xE000

/-- The code point that a pair of surrogates stands for. -/
def pairedCode (high low : Nat) : Nat := 0x10000 + (high - 0xD800) * 0x400 + (low - 0xDC00)

/-- The character of a code point escape, whose digits are at the front. -/
def readCodePoint (cs : List Char) : Except QuotedError (Char × List Char) :=
  match readHexFour cs with
  | none => .error .badCodePoint
  | some (code, rest) =>
    if isHighSurrogate code then
      match rest with
      | '\\' :: 'u' :: rest =>
        match readHexFour rest with
        | none => .error .badCodePoint
        | some (low, rest) =>
          if isLowSurrogate low then .ok (Char.ofNat (pairedCode code low), rest)
          else .error .unpairedSurrogate
      | _ => .error .unpairedSurrogate
    else if isLowSurrogate code then .error .badCodePoint
    else .ok (Char.ofNat code, rest)

/-- The character that a backslash and `c` stand for, with `rest` after them. -/
def unescape (c : Char) (rest : List Char) : Except QuotedError (Char × List Char) :=
  if c = 'b' then .ok ('\x08', rest)
  else if c = 'f' then .ok ('\x0c', rest)
  else if c = 'n' then .ok ('\n', rest)
  else if c = 'r' then .ok ('\r', rest)
  else if c = 't' then .ok ('\t', rest)
  else if c = 'u' then readCodePoint rest
  else .ok (c, rest)

theorem length_readHexFour {cs rest : List Char} {n : Nat} (h : readHexFour cs = some (n, rest)) :
    cs.length = rest.length + 4 := by
  unfold readHexFour at h
  split at h
  · split at h
    · cases h; rfl
    · cases h
  · cases h

theorem length_readCodePoint_le {cs rest : List Char} {c : Char}
    (h : readCodePoint cs = .ok (c, rest)) : rest.length ≤ cs.length := by
  unfold readCodePoint at h
  split at h
  · cases h
  · next code rest₁ h₁ =>
    have := length_readHexFour h₁
    split at h
    · split at h
      · next rest₂ =>
        split at h
        · cases h
        · next low rest₃ h₃ =>
          have := length_readHexFour h₃
          split at h
          · simp only [Except.ok.injEq, Prod.mk.injEq] at h
            rw [← h.2]
            simp only [List.length_cons] at *
            omega
          · cases h
      · cases h
    · split at h
      · cases h
      · simp only [Except.ok.injEq, Prod.mk.injEq] at h
        rw [← h.2]
        omega

theorem length_unescape_le {c d : Char} {rest after : List Char}
    (h : unescape c rest = .ok (d, after)) : after.length ≤ rest.length := by
  unfold unescape at h
  repeat' split at h
  all_goals first
    | exact length_readCodePoint_le h
    | (cases h; exact Nat.le_refl _)

/-- Reads to the closing quote, with the characters decoded so far in `decoded`, the latest
first. -/
def readQuotedFrom (decoded : List Char) (cs : List Char) :
    Except QuotedError (String × List Char) :=
  match cs with
  | [] => .error (.unterminated (String.ofList decoded.reverse))
  | c :: rest =>
    if c = '"' then .ok (String.ofList decoded.reverse, rest)
    else if c = '\\' then
      match rest with
      | [] => .error (.unterminated (String.ofList decoded.reverse))
      | e :: rest =>
        match _h : unescape e rest with
        | .error err => .error err
        | .ok (d, after) => readQuotedFrom (d :: decoded) after
    else readQuotedFrom (c :: decoded) rest
termination_by cs.length
decreasing_by
  · have := length_unescape_le _h; simp; omega
  · simp

/-- Reads a quoted text whose opening quote has been passed: its contents, and what follows the
closing quote. -/
def readQuoted (cs : List Char) : Except QuotedError (String × List Char) := readQuotedFrom [] cs

theorem length_readQuotedFrom_lt {decoded cs rest : List Char} {s : String}
    (h : readQuotedFrom decoded cs = .ok (s, rest)) : rest.length < cs.length := by
  fun_induction readQuotedFrom decoded cs with
  | case1 => cases h
  | case2 => cases h; simp
  | case3 => cases h
  | case4 => cases h
  | case5 decoded e rest₁ d after hu _ ih =>
    have h₁ := length_unescape_le hu
    have h₂ := ih h
    simp; omega
  | case6 decoded c rest₁ _ _ ih =>
    have h₂ := ih h
    simp; omega

theorem length_readQuoted_lt {cs rest : List Char} {s : String}
    (h : readQuoted cs = .ok (s, rest)) : rest.length < cs.length :=
  length_readQuotedFrom_lt h

end RecordStore.Text
