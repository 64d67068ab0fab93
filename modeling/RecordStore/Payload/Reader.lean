import RecordStore.Number.Numeral
import RecordStore.Payload.Basic
import RecordStore.Text.Alphanumeric
import RecordStore.Text.Blank
import RecordStore.Text.Escape

/-!
# Reading payloads

Objects, arrays, quoted texts, numerals, `true`, `false` and `null`, with blanks around each of
them. A key is quoted or a run of letters, digits and underscores. There is no comma before a
closing bracket, and a key given twice keeps its first place and its last value.

The brackets that are open are kept in a list of frames, so that the reader is one loop however
deep the brackets nest. Every turn of the loop takes at least one character
(`length_readScalar_lt`, `length_readKey_lt`), which is why it ends.
-/

namespace RecordStore.Payload

open RecordStore.Text RecordStore.Number

/-- May the character stand in a key without quotes? -/
def isBareKeyChar (c : Char) : Bool := isAlphanumeric c || c == '_'

/-- Takes a key off the front, after any blanks. -/
def readKey (cs : List Char) : Option (String × List Char) :=
  match skipBlanks cs with
  | '"' :: rest => (readQuoted rest).toOption
  | rest =>
    match rest.takeWhile isBareKeyChar with
    | [] => none
    | key => some (String.ofList key, rest.dropWhile isBareKeyChar)

/-- Takes the character `c` off the front, after any blanks. -/
def readMark (c : Char) (cs : List Char) : Option (List Char) :=
  match skipBlanks cs with
  | [] => none
  | d :: rest => if d = c then some rest else none

/-- Takes the characters of a word off the front. -/
def readWord : List Char → List Char → Option (List Char)
  | [], cs => some cs
  | _ :: _, [] => none
  | w :: word, c :: cs => if c = w then readWord word cs else none

/-- Takes a payload without brackets off the front. -/
def readScalar : List Char → Option (Payload × List Char)
  | [] => none
  | c :: cs =>
    if c = '"' then (readQuoted cs).toOption.map fun (s, rest) ↦ (text s, rest)
    else if c = 't' then (readWord ['r', 'u', 'e'] cs).map fun rest ↦ (bool true, rest)
    else if c = 'f' then (readWord ['a', 'l', 's', 'e'] cs).map fun rest ↦ (bool false, rest)
    else if c = 'n' then (readWord ['u', 'l', 'l'] cs).map fun rest ↦ (null, rest)
    else (readNumeral (c :: cs)).map fun (n, rest) ↦ (number n, rest)

/-- A bracket that is open, with what has been read inside it. -/
inductive Frame where
  /-- An array whose items so far are `before`, the latest first. -/
  | array (before : List Payload)
  /-- An object whose entries so far are `before`, and whose key `key` waits for its value. -/
  | object (before : Entries String Payload) (key : String)

/-- What is expected next. -/
inductive Place where
  /-- A payload. -/
  | due
  /-- A comma or bracket after the payload `p`. -/
  | after (p : Payload)

theorem length_readMark_lt {c : Char} {cs rest : List Char} (h : readMark c cs = some rest) :
    rest.length < cs.length := by
  have := length_skipBlanks_le cs
  unfold readMark at h
  split at h
  · cases h
  · next hs =>
    split at h
    · cases h; rw [hs] at this; exact this
    · cases h

theorem length_readKey_lt {cs rest : List Char} {key : String}
    (h : readKey cs = some (key, rest)) : rest.length < cs.length := by
  have := length_skipBlanks_le cs
  unfold readKey at h
  split at h
  · next r hs =>
    rw [hs] at this
    cases hq : readQuoted r with
    | error e => simp [hq, Except.toOption] at h
    | ok p =>
      simp only [hq, Except.toOption, Option.some.injEq] at h
      have := length_readQuoted_lt (h ▸ hq)
      simp only [List.length_cons] at *
      omega
  · split at h
    · cases h
    · next r _ hne =>
      simp only [Option.some.injEq, Prod.mk.injEq] at h
      obtain ⟨-, rfl⟩ := h
      have hsum := congrArg List.length
        (List.takeWhile_append_dropWhile (p := isBareKeyChar) (l := skipBlanks cs))
      have := List.length_pos_iff.2 hne
      simp only [List.length_append] at hsum
      omega

theorem length_readWord_le {word cs rest : List Char} (h : readWord word cs = some rest) :
    rest.length ≤ cs.length := by
  fun_induction readWord word cs with
  | case1 => cases h; exact Nat.le_refl _
  | case2 => cases h
  | case3 _ _ _ ih => exact Nat.le_succ_of_le (ih h)
  | case4 => cases h

theorem length_readScalar_lt {cs rest : List Char} {p : Payload}
    (h : readScalar cs = some (p, rest)) : rest.length < cs.length := by
  unfold readScalar at h
  split at h
  · cases h
  · next c cs =>
    split at h
    · obtain ⟨⟨s, r⟩, hs, he⟩ := Option.map_eq_some_iff.1 h
      cases hq : readQuoted cs with
      | error e => simp [hq, Except.toOption] at hs
      | ok q =>
        simp only [hq, Except.toOption, Option.some.injEq] at hs
        simp only [Prod.mk.injEq] at he
        have := length_readQuoted_lt (hs ▸ hq)
        simp only [List.length_cons, ← he.2]
        omega
    · split at h
      · obtain ⟨r, hr, he⟩ := Option.map_eq_some_iff.1 h
        simp only [Prod.mk.injEq] at he
        simpa [← he.2] using Nat.lt_succ_of_le (length_readWord_le hr)
      · split at h
        · obtain ⟨r, hr, he⟩ := Option.map_eq_some_iff.1 h
          simp only [Prod.mk.injEq] at he
          simpa [← he.2] using Nat.lt_succ_of_le (length_readWord_le hr)
        · split at h
          · obtain ⟨r, hr, he⟩ := Option.map_eq_some_iff.1 h
            simp only [Prod.mk.injEq] at he
            simpa [← he.2] using Nat.lt_succ_of_le (length_readWord_le hr)
          · obtain ⟨⟨n, r⟩, hr, he⟩ := Option.map_eq_some_iff.1 h
            simp only [Prod.mk.injEq] at he
            simpa [← he.2] using length_readNumeral_lt hr

/-- Reads on inside the open brackets `frames`, up to the end of the outermost payload. -/
def readFrom (frames : List Frame) (place : Place) (cs : List Char) :
    Option (Payload × List Char) :=
  match place with
  | .due =>
    match _h : skipBlanks cs with
    | '{' :: rest =>
      match _hm : readMark '}' rest with
      | some rest => readFrom frames (.after (object [])) rest
      | none =>
        match _hk : readKey rest with
        | none => none
        | some (key, rest) =>
          match _hc : readMark ':' rest with
          | none => none
          | some rest => readFrom (.object [] key :: frames) .due rest
    | '[' :: rest =>
      match _hm : readMark ']' rest with
      | some rest => readFrom frames (.after (array [])) rest
      | none => readFrom (.array [] :: frames) .due rest
    | rest =>
      match _hs : readScalar rest with
      | none => none
      | some (p, rest) => readFrom frames (.after p) rest
  | .after p =>
    match frames with
    | [] => some (p, cs)
    | .array before :: frames =>
      match _hm : readMark ']' cs with
      | some rest => readFrom frames (.after (array (p :: before).reverse)) rest
      | none =>
        match _hc : readMark ',' cs with
        | none => none
        | some rest => readFrom (.array (p :: before) :: frames) .due rest
    | .object before key :: frames =>
      match _hm : readMark '}' cs with
      | some rest => readFrom frames (.after (object (Entries.put key p before))) rest
      | none =>
        match _hc : readMark ',' cs with
        | none => none
        | some rest =>
          match _hk : readKey rest with
          | none => none
          | some (next, rest) =>
            match _hd : readMark ':' rest with
            | none => none
            | some rest => readFrom (.object (Entries.put key p before) next :: frames) .due rest
termination_by cs.length
decreasing_by
  all_goals
    have hb := length_skipBlanks_le cs
    try rw [_h] at hb
    try have hm := length_readMark_lt _hm
    try have hk := length_readKey_lt _hk
    try have hc := length_readMark_lt _hc
    try have hd := length_readMark_lt _hd
    try have hs := length_readScalar_lt _hs
    try simp only [List.length_cons] at hb
    omega

/-- The payload that the characters stand for, all of them. -/
def ofChars? (cs : List Char) : Option Payload :=
  match readFrom [] .due cs with
  | some (p, rest) => if (skipBlanks rest).isEmpty then some p else none
  | none => none

/-- The payload that a text stands for. -/
def ofText? (s : String) : Option Payload := ofChars? s.toList

end RecordStore.Payload
