import RecordStore.Proofs.Bounds.Escapes
import RecordStore.Proofs.Payload.Frames

/-!
# Payloads within bounds

Reading a payload at a position goes by calls: the reader of payloads is called again for what stands
in a bracket, and a reader for each part passes blanks, marks, words and digits. The text of a numeral
is cut out afterwards, from where it began to where it ended, and how many digits there were is the
difference of two positions.

All of this stays within the text, and comes to what reading from the front does
(`gives_readPayload`, `readDocument_onAll`). The two differ in one thing on the way: where a mark is
looked for and not found, blanks have been passed. Whatever is looked for next passes them as well.
-/

namespace RecordStore.Cursor

open RecordStore.Text RecordStore.Payload
open RecordStore.Number (readDigits readFraction readSign readExponent)
open Bounded (minus?)

/-! ### Reading at a position -/

/-- Passes the next character if it is of a kind. -/
def passIf (kind : Char → Bool) : Cursor Char Unit Bool := do
  if (← peek).any kind then
    advance
    return true
  else return false

/-- Passes the blanks that are next. -/
def passBlanks : Cursor Char Unit Unit := do
  let _ ← spanPeeked isBlank (← turns) []

/-- Passes a mark if it is next after any blanks, and passes the blanks in any case. -/
def findsMark (c : Char) : Cursor Char Unit Bool := do
  passBlanks
  passIf (· = c)

/-- Passes a mark, which has to be next after any blanks. -/
def passMark (c : Char) : Cursor Char Unit Unit := do
  if ← findsMark c then return () else throw ()

/-- Passes the characters of a word, which have to be next. -/
def passWord : List Char → Cursor Char Unit Unit
  | [] => return ()
  | w :: word => do
    if (← next?) = some w then passWord word else throw ()

/-- Passes the digits that are next: how many there are. -/
def passDigits : Cursor Char Unit Nat := do
  let start ← position
  let _ ← spanPeeked Char.isDigit (← turns) []
  need (minus? (← position) start)

/-- Passes digits, of which there has to be one. -/
def passSomeDigits : Cursor Char Unit Unit := do
  if (← passDigits) = 0 then throw () else return ()

/-- Passes a fraction if there is one. -/
def passFraction : Cursor Char Unit Unit := do
  if ← passIf (· = '.') then passSomeDigits else return ()

/-- Passes an exponent if there is one. -/
def passExponent : Cursor Char Unit Unit := do
  if ← passIf fun c ↦ c = 'e' || c = 'E' then
    let _ ← passIf fun c ↦ c = '+' || c = '-'
    passSomeDigits
  else return ()

/-- Reads on a numeral that began at `start`, behind its sign, and cuts its text out. -/
def readUnsigned (start : Nat) : Cursor Char Unit String := do
  passSomeDigits
  passFraction
  passExponent
  return String.ofList (← cut start)

/-- Reads a numeral. -/
def readNumeral : Cursor Char Unit String := do
  let start ← position
  let _ ← passIf (· = '-')
  readUnsigned start

/-- Reads a quoted text, after any blanks. -/
def readText : Cursor Char Unit String := do
  passMark '"'
  readQuoted.withFault fun _ ↦ ()

/-- Reads a key without quotes. -/
def readBareKey : Cursor Char Unit String := do
  let key ← spanPeeked isBareKeyChar (← turns) []
  if key.isEmpty then throw () else return String.ofList key

/-- Reads the key of an entry, after any blanks. -/
def readKey : Cursor Char Unit String := do
  passBlanks
  if (← peek) = some '"' then readText else readBareKey

/-- Reads the items of an array that are due, behind those before. -/
def readItems (payload : Cursor Char Unit Payload) : Nat → List Payload → Cursor Char Unit Payload
  | 0, _ => endless
  | turns + 1, before => do
    let p ← payload
    if ← findsMark ']' then return .array (p :: before).reverse
    else
      passMark ','
      readItems payload turns (p :: before)

/-- Reads the entries of an object that are due, behind those before. -/
def readEntries (payload : Cursor Char Unit Payload) :
    Nat → Entries String Payload → Cursor Char Unit Payload
  | 0, _ => endless
  | turns + 1, before => do
    let key ← readKey
    passMark ':'
    let p ← payload
    if ← findsMark '}' then return .object (Entries.put key p before)
    else
      passMark ','
      readEntries payload turns (Entries.put key p before)

/-- Reads an array. -/
def readArray (payload : Cursor Char Unit Payload) : Cursor Char Unit Payload := do
  passMark '['
  if ← findsMark ']' then return .array []
  else readItems payload (← turns) []

/-- Reads an object. -/
def readObject (payload : Cursor Char Unit Payload) : Cursor Char Unit Payload := do
  passMark '{'
  if ← findsMark '}' then return .object []
  else readEntries payload (← turns) []

/-- Reads `true` or `false`. -/
def readBool : Cursor Char Unit Payload := do
  if (← peek) = some 't' then
    passWord ['t', 'r', 'u', 'e']
    return .bool true
  else
    passWord ['f', 'a', 'l', 's', 'e']
    return .bool false

/-- Reads `null`. -/
def readNull : Cursor Char Unit Payload := do
  passWord ['n', 'u', 'l', 'l']
  return .null

/-- Reads a payload without brackets, whose first character is `c`. -/
def readScalar (c : Char) : Cursor Char Unit Payload := do
  if c = '"' then return .text (← readText)
  else if c = 't' || c = 'f' then readBool
  else if c = 'n' then readNull
  else if c = '-' || c.isDigit then return .number (← readNumeral)
  else throw ()

/-- Reads a payload, after any blanks, in which brackets nest no deeper than `depth`. -/
def readPayload : Nat → Cursor Char Unit Payload
  | 0 => endless
  | depth + 1 => do
    passBlanks
    match ← peek with
    | none => throw ()
    | some c =>
      if c = '{' then readObject (readPayload depth)
      else if c = '[' then readArray (readPayload depth)
      else readScalar c

/-- Reads a payload that is all of the text. -/
def readDocument : Cursor Char Unit Payload := do
  let p ← readPayload (← turns)
  passBlanks
  if ← atEnd then return p else throw ()

/-! ### What is found -/

variable {α β : Type} {ts rest : List Char} {p : Nat}

/-- Work at a position finds what a reader finds, or is refused where the reader finds nothing. -/
def Finds (ts : List Char) (p : Nat) (work : Cursor Char Unit α)
    (found : Option (α × List Char)) : Prop :=
  Gives ts p work (found.elim (.error ()) .ok)

theorem Finds.bind_none {work : Cursor Char Unit α} (h : Finds ts p work none)
    (more : α → Cursor Char Unit β) : Finds ts p (work >>= more) none :=
  Gives.bind_error h more

/-- What is left to do once something has been found. -/
theorem Finds.bind {work : Cursor Char Unit α} {more : α → Cursor Char Unit β}
    {found : Option (α × List Char)} {further : α × List Char → Option (β × List Char)}
    (h : Finds ts p work found)
    (hmore : ∀ e q, found = some e → Cut ts q e.2 → Finds ts q (more e.1) (further e)) :
    Finds ts p (work >>= more) (found.bind further) := by
  cases found with
  | none => exact h.bind_none more
  | some e => exact Gives.bind_ok h fun q hq ↦ hmore e q rfl hq

/-- What is left to do once something has been passed. -/
theorem Finds.pass {γ : Type} {work : Cursor Char Unit Unit} {more : Unit → Cursor Char Unit β}
    {found : Option γ} {behind : γ → List Char} {further : γ → Option (β × List Char)}
    (h : Finds ts p work (found.map fun e ↦ ((), behind e)))
    (hmore : ∀ e q, found = some e → Cut ts q (behind e) → Finds ts q (more ()) (further e)) :
    Finds ts p (work >>= more) (found.bind further) := by
  cases found with
  | none => exact h.bind_none more
  | some e => exact Gives.bind_ok h fun q hq ↦ hmore e q rfl hq

theorem Finds.map {work : Cursor Char Unit α} {found : Option (α × List Char)} (f : α → β)
    (h : Finds ts p work found) :
    Finds ts p (work >>= fun a ↦ pure (f a)) (found.map fun e ↦ (f e.1, e.2)) := by
  rw [Option.map_eq_bind]
  exact h.bind fun e q _ hq ↦ gives_pure hq (f e.1)

/-! ### Blanks, marks and words -/

theorem gives_passBlanks (h : Cut ts p rest) :
    Gives ts p passBlanks (.ok ((), Text.skipBlanks rest)) := by
  rw [passBlanks]
  refine (gives_turns h).bind_ok fun q hq ↦ ?_
  exact (gives_spanPeeked hq hq.length_lt []).bind_ok fun q hq ↦ gives_pure hq ()

theorem gives_passIf_nil (kind : Char → Bool) (h : Cut ts p []) :
    Gives ts p (passIf kind) (.ok (false, [])) :=
  (gives_peek_nil h).bind_ok fun _ hq ↦ gives_pure hq false

theorem gives_passIf_cons (kind : Char → Bool) {c : Char} (h : Cut ts p (c :: rest)) :
    Gives ts p (passIf kind) (.ok (if kind c then (true, rest) else (false, c :: rest))) := by
  rw [passIf]
  refine (gives_peek_cons h).bind_ok fun q hq ↦ ?_
  rw [Option.any_some]
  by_cases hkind : kind c = true
  · rw [if_pos hkind, if_pos hkind]
    exact (gives_advance hq).bind_ok fun q hq ↦ gives_pure hq true
  · rw [if_neg hkind, if_neg hkind]
    exact gives_pure hq false

theorem gives_findsMark (c : Char) (h : Cut ts p rest) :
    Gives ts p (findsMark c)
      (.ok ((readMark c rest).elim (false, Text.skipBlanks rest) fun after ↦ (true, after))) := by
  rw [findsMark, readMark]
  refine (gives_passBlanks h).bind_ok fun q hq ↦ ?_
  cases hskip : Text.skipBlanks rest with
  | nil =>
    rw [hskip] at hq
    exact gives_passIf_nil _ hq
  | cons d after =>
    rw [hskip] at hq
    have hpass := gives_passIf_cons (· = c) hq
    by_cases hd : d = c <;> simpa [hd] using hpass

/-- What is left to do where a mark may be next. -/
theorem finds_ifMark {c : Char} {yes no : Cursor Char Unit α} {found : Option (α × List Char)}
    (h : Cut ts p rest)
    (hyes : ∀ after q, readMark c rest = some after → Cut ts q after → Finds ts q yes found)
    (hno : ∀ q, readMark c rest = none → Cut ts q (Text.skipBlanks rest) → Finds ts q no found) :
    Finds ts p (do if ← findsMark c then yes else no) found := by
  have hmark := gives_findsMark c h
  cases hnext : readMark c rest with
  | none =>
    rw [hnext] at hmark
    exact hmark.bind_ok fun q hq ↦ hno q hnext hq
  | some after =>
    rw [hnext] at hmark
    exact hmark.bind_ok fun q hq ↦ hyes after q hnext hq

theorem finds_passMark (c : Char) (h : Cut ts p rest) :
    Finds ts p (passMark c) ((readMark c rest).map fun after ↦ ((), after)) := by
  refine finds_ifMark h (fun after q hnext hq ↦ ?_) fun q hnext hq ↦ ?_
  · rw [hnext]
    exact gives_pure hq ()
  · rw [hnext]
    exact gives_throw ()

theorem finds_passWord (word : List Char) (h : Cut ts p rest) :
    Finds ts p (passWord word) ((readWord word rest).map fun after ↦ ((), after)) := by
  induction word generalizing p rest with
  | nil => exact gives_pure h ()
  | cons w word ih =>
    rw [passWord]
    rcases rest with _ | ⟨c, rest⟩
    · exact (gives_next?_nil h).bind_ok fun q hq ↦ gives_throw ()
    refine (gives_next?_cons h).bind_ok fun q hq ↦ ?_
    rw [readWord]
    by_cases hc : c = w
    · rw [if_pos (congrArg some hc), if_pos hc]
      exact ih hq
    · rw [if_neg (mt Option.some.inj hc), if_neg hc]
      exact gives_throw ()

/-! ### Numerals -/

/-- Positions stand in the order in which things are read. -/
theorem Cut.minus? {part : List Char} {q : Nat} (h : Cut ts p (part ++ rest)) (hq : Cut ts q rest) :
    minus? q p = some part.length := by
  have hp := h.length
  have hlength := hq.length
  rw [List.length_append] at hp
  rw [Bounded.minus?_of_le (by omega)]
  congr 1
  omega

theorem gives_passDigits (h : Cut ts p rest) :
    Gives ts p passDigits
      (.ok ((rest.takeWhile Char.isDigit).length, rest.dropWhile Char.isDigit)) := by
  rw [passDigits]
  refine (gives_position h).bind_ok fun q hq ↦ ?_
  refine (gives_turns hq).bind_ok fun q hq ↦ ?_
  refine (gives_spanPeeked hq hq.length_lt []).bind_ok fun q hq ↦ ?_
  refine (gives_position hq).bind_ok fun q' hq' ↦ ?_
  refine gives_need hq' (Cut.minus? ?_ hq)
  rwa [List.takeWhile_append_dropWhile]

theorem finds_passSomeDigits (h : Cut ts p rest) :
    Finds ts p passSomeDigits ((readDigits rest).map fun e ↦ ((), e.2)) := by
  rw [passSomeDigits, readDigits]
  refine (gives_passDigits h).bind_ok fun q hq ↦ ?_
  cases rest.takeWhile Char.isDigit with
  | nil => exact gives_throw ()
  | cons d digits => exact gives_pure hq ()

theorem finds_passFraction (h : Cut ts p rest) :
    Finds ts p passFraction ((readFraction rest).map fun e ↦ ((), e.2)) := by
  rw [passFraction]
  rcases rest with _ | ⟨c, rest⟩
  · exact (gives_passIf_nil _ h).bind_ok fun q hq ↦ gives_pure hq ()
  have hpass := gives_passIf_cons (· = '.') h
  by_cases hc : c = '.'
  · subst hc
    rw [readFraction, Option.map_map]
    exact hpass.bind_ok fun q hq ↦ finds_passSomeDigits hq
  · rw [if_neg (by simpa using hc)] at hpass
    have hread : readFraction (c :: rest) = some ([], c :: rest) := by
      unfold readFraction
      split
      · next heq => exact absurd (List.cons.inj heq).1 hc
      · rfl
    rw [hread]
    exact hpass.bind_ok fun q hq ↦ gives_pure hq ()

/-- A sign is passed if there is one. -/
theorem gives_passSign (h : Cut ts p rest) :
    ∃ signed, Gives ts p (passIf fun c ↦ c = '+' || c = '-') (.ok (signed, (readSign rest).2)) := by
  rcases rest with _ | ⟨c, rest⟩
  · exact ⟨false, gives_passIf_nil _ h⟩
  have hpass := gives_passIf_cons (fun c ↦ c = '+' || c = '-') h
  unfold readSign
  split
  · next heq =>
    cases heq
    exact ⟨true, hpass⟩
  · next heq =>
    cases heq
    exact ⟨true, hpass⟩
  · next hplus hminus =>
    have hc : ¬(c = '+' || c = '-') = true := by
      rw [Bool.or_eq_true, decide_eq_true_iff, decide_eq_true_iff]
      rintro (rfl | rfl)
      · exact hplus rest rfl
      · exact hminus rest rfl
    rw [if_neg hc] at hpass
    exact ⟨false, hpass⟩

theorem finds_passExponent (h : Cut ts p rest) :
    Finds ts p passExponent ((readExponent rest).map fun e ↦ ((), e.2)) := by
  rw [passExponent]
  rcases rest with _ | ⟨c, rest⟩
  · exact (gives_passIf_nil _ h).bind_ok fun q hq ↦ gives_pure hq ()
  have hpass := gives_passIf_cons (fun c ↦ c = 'e' || c = 'E') h
  rw [readExponent]
  by_cases hc : (c = 'e' || c = 'E') = true
  · rw [if_pos hc] at hpass
    rw [if_pos hc, Option.map_map]
    refine hpass.bind_ok fun q hq ↦ ?_
    obtain ⟨signed, hsign⟩ := gives_passSign hq
    exact hsign.bind_ok fun q hq ↦ finds_passSomeDigits hq
  · rw [if_neg hc] at hpass
    rw [if_neg hc]
    exact hpass.bind_ok fun q hq ↦ gives_pure hq ()

/-- What a reader makes of a numeral behind its sign. -/
def unsigned (minus cs : List Char) : Option (String × List Char) :=
  (readDigits cs).bind fun whole ↦
    (readFraction whole.2).bind fun fraction ↦
      (readExponent fraction.2).map fun exponent ↦
        (String.ofList (minus ++ whole.1 ++ fraction.1 ++ exponent.1), exponent.2)

theorem readNumeral_minus (cs : List Char) : Number.readNumeral ('-' :: cs) = unsigned ['-'] cs := by
  rw [unsigned]
  simp only [Option.map_eq_bind]
  rfl

theorem readNumeral_digits {cs : List Char} (h : ∀ rest, cs ≠ '-' :: rest) :
    Number.readNumeral cs = unsigned [] cs := by
  unfold Number.readNumeral
  split
  · next heq =>
    split at heq
    · exact absurd rfl (h _)
    · cases heq
      rw [unsigned]
      simp only [Option.map_eq_bind]
      rfl

/-- **The text of a numeral is cut out** between the positions of its ends. -/
theorem finds_readUnsigned {start : Nat} (minus : List Char) (hstart : Cut ts start (minus ++ rest))
    (h : Cut ts p rest) : Finds ts p (readUnsigned start) (unsigned minus rest) := by
  rw [readUnsigned, unsigned]
  refine (finds_passSomeDigits h).pass fun whole q hwhole hq ↦ ?_
  refine (finds_passFraction hq).pass fun fraction q hfraction hq ↦ ?_
  rw [Option.map_eq_bind]
  refine (finds_passExponent hq).pass fun exponent q hexponent hq ↦ ?_
  have htext : minus ++ rest = minus ++ whole.1 ++ fraction.1 ++ exponent.1 ++ exponent.2 := by
    rw [← Number.append_of_readDigits hwhole, ← Number.append_of_readFraction hfraction,
      ← Number.append_of_readExponent hexponent]
    simp only [List.append_assoc]
  rw [htext] at hstart
  exact (gives_cut hstart hq).bind_ok fun q hq ↦ gives_pure hq _

theorem finds_readNumeral (h : Cut ts p rest) :
    Finds ts p readNumeral (Number.readNumeral rest) := by
  rw [readNumeral]
  refine (gives_position h).bind_ok fun q hq ↦ ?_
  rcases rest with _ | ⟨c, rest⟩
  · rw [readNumeral_digits fun rest ↦ (List.cons_ne_nil _ rest).symm]
    exact (gives_passIf_nil _ hq).bind_ok fun q hq ↦ finds_readUnsigned [] h hq
  have hpass := gives_passIf_cons (· = '-') hq
  by_cases hc : c = '-'
  · subst hc
    rw [readNumeral_minus]
    exact hpass.bind_ok fun q hq ↦ finds_readUnsigned ['-'] h hq
  · rw [if_neg (by simpa using hc)] at hpass
    rw [readNumeral_digits fun rest heq ↦ hc (List.cons.inj heq).1]
    exact hpass.bind_ok fun q hq ↦ finds_readUnsigned [] h hq

/-! ### Keys and words -/

theorem finds_readText (h : Cut ts p ('"' :: rest)) :
    Finds ts p readText (Text.readQuoted rest).toOption := by
  have hmark := finds_passMark '"' h
  rw [readMark, skipBlanks_of_not_isBlank (by decide)] at hmark
  rw [readText]
  refine Gives.bind_ok hmark fun q hq ↦ ?_
  have hquoted := (gives_readQuoted hq).withFault fun _ ↦ ()
  cases hread : Text.readQuoted rest with
  | error fault =>
    rw [hread] at hquoted
    exact hquoted
  | ok found =>
    rw [hread] at hquoted
    exact hquoted

/-- What a reader makes of a key without quotes. -/
def bareKey (cs : List Char) : Option (String × List Char) :=
  if (cs.takeWhile isBareKeyChar).isEmpty then none
  else some (String.ofList (cs.takeWhile isBareKeyChar), cs.dropWhile isBareKeyChar)

theorem readKey_bare (h : ∀ after, Text.skipBlanks rest ≠ '"' :: after) :
    Payload.readKey rest = bareKey (Text.skipBlanks rest) := by
  rw [Payload.readKey, bareKey]
  split
  · next heq => exact absurd heq (h _)
  · split
    · next heq => rw [heq]; rfl
    · next hne => rw [if_neg (mt List.isEmpty_iff.1 hne)]

theorem readKey_quoted {after : List Char} (h : Text.skipBlanks rest = '"' :: after) :
    Payload.readKey rest = (Text.readQuoted after).toOption := by
  unfold Payload.readKey
  split
  · next heq =>
    cases h.symm.trans heq
    rfl
  · next hne => exact absurd h (hne after)

theorem finds_readBareKey (h : Cut ts p rest) : Finds ts p readBareKey (bareKey rest) := by
  rw [readBareKey, bareKey]
  refine (gives_turns h).bind_ok fun q hq ↦ ?_
  refine (gives_spanPeeked hq hq.length_lt []).bind_ok fun q hq ↦ ?_
  rw [List.reverse_nil, List.nil_append]
  cases rest.takeWhile isBareKeyChar with
  | nil => exact gives_throw ()
  | cons k key => exact gives_pure hq _

theorem finds_readKey (h : Cut ts p rest) : Finds ts p readKey (Payload.readKey rest) := by
  rw [readKey]
  refine (gives_passBlanks h).bind_ok fun q hq ↦ ?_
  cases hskip : Text.skipBlanks rest with
  | nil =>
    rw [hskip] at hq
    rw [readKey_bare fun after ↦ hskip ▸ (List.cons_ne_nil _ after).symm, hskip]
    exact (gives_peek_nil hq).bind_ok fun q hq ↦ finds_readBareKey hq
  | cons c after =>
    rw [hskip] at hq
    refine (gives_peek_cons hq).bind_ok fun q hq ↦ ?_
    by_cases hc : c = '"'
    · subst hc
      rw [if_pos rfl, readKey_quoted hskip]
      exact finds_readText hq
    · rw [if_neg (mt Option.some.inj hc),
        readKey_bare fun _ heq ↦ hc (List.cons.inj (hskip.symm.trans heq)).1, hskip]
      exact finds_readBareKey hq

/-! ### Payloads without brackets -/

theorem readNumeral_of_head {c : Char} (hminus : c ≠ '-') (hdigit : ¬c.isDigit = true) :
    Number.readNumeral (c :: rest) = none := by
  rw [readNumeral_digits fun _ heq ↦ hminus (List.cons.inj heq).1, unsigned, readDigits,
    List.takeWhile_cons, if_neg hdigit]
  rfl

/-- A payload that one word stands for. -/
theorem finds_word (c : Char) (word : List Char) (value : Payload) (h : Cut ts p (c :: rest)) :
    Finds ts p (do
        passWord (c :: word)
        return value)
      ((readWord word rest).map fun after ↦ (value, after)) := by
  have hword := finds_passWord (c :: word) h
  rw [readWord, if_pos rfl] at hword
  rw [Option.map_eq_bind]
  exact hword.pass fun after q _ hq ↦ gives_pure hq value

theorem finds_readBool {c : Char} (hc : c = 't' ∨ c = 'f') (h : Cut ts p (c :: rest)) :
    Finds ts p readBool (Payload.readScalar (c :: rest)) := by
  rw [readBool]
  refine (gives_peek_cons h).bind_ok fun q hq ↦ ?_
  rcases hc with rfl | rfl
  · rw [if_pos rfl]
    exact finds_word 't' ['r', 'u', 'e'] (.bool true) hq
  · rw [if_neg (by decide)]
    exact finds_word 'f' ['a', 'l', 's', 'e'] (.bool false) hq

theorem finds_readScalar (c : Char) (h : Cut ts p (c :: rest)) :
    Finds ts p (readScalar c) (Payload.readScalar (c :: rest)) := by
  rw [readScalar]
  by_cases hquote : c = '"'
  · subst hquote
    rw [if_pos rfl]
    exact (finds_readText h).map Payload.text
  rw [if_neg hquote]
  by_cases hbool : c = 't' ∨ c = 'f'
  · rw [if_pos (by simpa using hbool)]
    exact finds_readBool hbool h
  rw [if_neg (by simpa using hbool)]
  rw [not_or] at hbool
  by_cases hnull : c = 'n'
  · subst hnull
    rw [if_pos rfl]
    exact finds_word 'n' ['u', 'l', 'l'] .null h
  rw [if_neg hnull, Payload.readScalar, if_neg hquote, if_neg hbool.1, if_neg hbool.2, if_neg hnull]
  by_cases hnumeral : c = '-' ∨ c.isDigit = true
  · rw [if_pos (by simpa using hnumeral)]
    exact (finds_readNumeral h).map Payload.number
  · rw [if_neg (by simpa using hnumeral)]
    rw [not_or] at hnumeral
    rw [readNumeral_of_head hnumeral.1 hnumeral.2]
    exact gives_throw ()

/-! ### Brackets -/

section

variable {payload : Cursor Char Unit Payload} {depth : Nat}

/-- The items of an array are those that the reader reads in the frame of the array. -/
theorem finds_readItems
    (hpayload : ∀ q cs, cs.length < depth → Cut ts q cs → Finds ts q payload (readFrom [] .due cs))
    {turns : Nat} (hturns : rest.length < turns) (hdepth : rest.length < depth)
    (before : List Payload) (h : Cut ts p rest) :
    Finds ts p (readItems payload turns before) (readFrom [.array before] .due rest) := by
  induction turns generalizing p rest before with
  | zero => exact absurd hturns (Nat.not_lt_zero _)
  | succ turns ih =>
    rw [readItems, readFrom_due]
    refine (hpayload p rest hdepth h).bind fun e q hfound hq ↦ ?_
    have hshorter := length_readFrom_lt hfound
    refine finds_ifMark hq (fun after q hclose hq ↦ ?_) fun q hopen hq ↦ ?_
    · rw [readFrom_array_close hclose, readFrom_nil]
      exact gives_pure hq _
    have hcomma := finds_passMark ',' hq
    rw [readMark_skipBlanks] at hcomma
    rw [readFrom_after_array hopen]
    refine hcomma.pass fun after q hnext hq ↦ ?_
    have hafter := length_readMark_lt hnext
    exact ih (by omega) (by omega) (e.1 :: before) hq

/-- The entries of an object are those that the reader reads in the frame of the object. -/
theorem finds_readEntries
    (hpayload : ∀ q cs, cs.length < depth → Cut ts q cs → Finds ts q payload (readFrom [] .due cs))
    {turns : Nat} (hturns : rest.length < turns) (hdepth : rest.length < depth)
    (before : Entries String Payload) (h : Cut ts p rest) :
    Finds ts p (readEntries payload turns before) (readEntriesFrom [] before rest) := by
  induction turns generalizing p rest before with
  | zero => exact absurd hturns (Nat.not_lt_zero _)
  | succ turns ih =>
    rw [readEntries, readEntriesFrom]
    refine (finds_readKey h).bind fun named q hkey hq ↦ ?_
    have hnamed := length_readKey_lt hkey
    refine (finds_passMark ':' hq).pass fun after q hcolon hq ↦ ?_
    have hafter := length_readMark_lt hcolon
    rw [readFrom_due]
    refine (hpayload q after (by omega) hq).bind fun e q hfound hq ↦ ?_
    have hshorter := length_readFrom_lt hfound
    refine finds_ifMark hq (fun behind q hclose hq ↦ ?_) fun q hopen hq ↦ ?_
    · rw [readFrom_object_close hclose, readFrom_nil]
      exact gives_pure hq _
    have hcomma := finds_passMark ',' hq
    rw [readMark_skipBlanks] at hcomma
    rw [readFrom_after_object hopen]
    refine hcomma.pass fun behind q hnext hq ↦ ?_
    have hbehind := length_readMark_lt hnext
    exact ih (by omega) (by omega) (Entries.put named.1 e.1 before) hq

theorem finds_readArray
    (hpayload : ∀ q cs, cs.length < depth → Cut ts q cs → Finds ts q payload (readFrom [] .due cs))
    {after : List Char} (hskip : Text.skipBlanks rest = '[' :: after) (hdepth : after.length < depth)
    (h : Cut ts p ('[' :: after)) : Finds ts p (readArray payload) (readFrom [] .due rest) := by
  have hopen := finds_passMark '[' h
  rw [readMark_self_cons (by decide)] at hopen
  rw [readArray]
  refine Gives.bind_ok hopen fun q hq ↦ ?_
  refine finds_ifMark hq (fun behind q hclose hq ↦ ?_) fun q hopen hq ↦ ?_
  · rw [readFrom_arrayNil hskip hclose, readFrom_nil]
    exact gives_pure hq _
  · rw [readFrom_array hskip hopen, ← readFrom_skipBlanks]
    have hle := length_skipBlanks_le after
    exact (gives_turns hq).bind_ok fun q hq ↦
      finds_readItems hpayload hq.length_lt (by omega) [] hq

theorem finds_readObject
    (hpayload : ∀ q cs, cs.length < depth → Cut ts q cs → Finds ts q payload (readFrom [] .due cs))
    {after : List Char} (hskip : Text.skipBlanks rest = '{' :: after) (hdepth : after.length < depth)
    (h : Cut ts p ('{' :: after)) : Finds ts p (readObject payload) (readFrom [] .due rest) := by
  have hopen := finds_passMark '{' h
  rw [readMark_self_cons (by decide)] at hopen
  rw [readObject]
  refine Gives.bind_ok hopen fun q hq ↦ ?_
  refine finds_ifMark hq (fun behind q hclose hq ↦ ?_) fun q hopen hq ↦ ?_
  · rw [readFrom_objectNil hskip hclose, readFrom_nil]
    exact gives_pure hq _
  · rw [readFrom_due_object hskip hopen, ← readEntriesFrom_skipBlanks]
    have hle := length_skipBlanks_le after
    exact (gives_turns hq).bind_ok fun q hq ↦
      finds_readEntries hpayload hq.length_lt (by omega) [] hq

end

/-- **Reading a payload at a position** comes to what reading from the front does, whatever it nests
in what: there are never more brackets to open than characters left. -/
theorem finds_readPayload {depth : Nat} (hdepth : rest.length < depth) (h : Cut ts p rest) :
    Finds ts p (readPayload depth) (readFrom [] .due rest) := by
  induction depth generalizing p rest with
  | zero => exact absurd hdepth (Nat.not_lt_zero _)
  | succ depth ih =>
    have hpayload : ∀ q cs, cs.length < depth → Cut ts q cs →
        Finds ts q (readPayload depth) (readFrom [] .due cs) := fun q cs ↦ ih
    have hle := length_skipBlanks_le rest
    rw [readPayload]
    refine (gives_passBlanks h).bind_ok fun q hq ↦ ?_
    cases hskip : Text.skipBlanks rest with
    | nil =>
      rw [hskip] at hq
      rw [readFrom_due_scalar (fun _ heq ↦ List.cons_ne_nil _ _ (heq.symm.trans hskip))
        fun _ heq ↦ List.cons_ne_nil _ _ (heq.symm.trans hskip), hskip]
      exact (gives_peek_nil hq).bind_ok fun q hq ↦ gives_throw ()
    | cons c after =>
      rw [hskip] at hq
      rw [hskip, List.length_cons] at hle
      refine (gives_peek_cons hq).bind_ok fun q hq ↦ ?_
      dsimp only
      by_cases hbrace : c = '{'
      · subst hbrace
        rw [if_pos rfl]
        exact finds_readObject hpayload hskip (by omega) hq
      by_cases hbracket : c = '['
      · subst hbracket
        rw [if_neg hbrace, if_pos rfl]
        exact finds_readArray hpayload hskip (by omega) hq
      rw [if_neg hbrace, if_neg hbracket,
        readFrom_due_scalar (fun _ heq ↦ hbrace (List.cons.inj (hskip.symm.trans heq)).1)
          fun _ heq ↦ hbracket (List.cons.inj (hskip.symm.trans heq)).1, hskip]
      have hscalar := finds_readScalar c hq
      cases hread : Payload.readScalar (c :: after) with
      | none =>
        rw [hread] at hscalar
        exact hscalar
      | some e =>
        rw [hread] at hscalar
        rw [Option.bind_some, readFrom_nil]
        exact hscalar

/-- A text is read to its end without going out of range, as the payload that it stands for. -/
theorem readDocument_onAll (cs : List Char) :
    readDocument.onAll cs = some ((ofChars? cs).elim (.error ()) .ok) := by
  have hread : Finds cs 0 readDocument ((ofChars? cs).map fun p ↦ (p, [])) := by
    rw [readDocument, ofChars?]
    refine (gives_turns (Cut.front cs)).bind_ok fun q hq ↦ ?_
    have hpayload := finds_readPayload hq.length_lt hq
    cases hfound : readFrom [] .due cs with
    | none =>
      rw [hfound] at hpayload
      exact hpayload.bind_none _
    | some e =>
      rw [hfound] at hpayload
      refine Gives.bind_ok hpayload fun q hq ↦ ?_
      refine (gives_passBlanks hq).bind_ok fun q hq ↦ ?_
      refine (gives_atEnd hq).bind_ok fun q hq ↦ ?_
      dsimp only
      by_cases hend : (Text.skipBlanks e.2).isEmpty = true
      · rw [if_pos hend, if_pos hend]
        rw [List.isEmpty_iff.1 hend] at hq
        exact gives_pure hq e.1
      · rw [if_neg hend, if_neg hend]
        exact gives_throw ()
  rw [hread.onAll]
  cases ofChars? cs <;> rfl

end RecordStore.Cursor
