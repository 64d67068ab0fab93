import RecordStore.Proofs.Bounds.QuotedTexts

/-!
# Where tokens are refused

Work at a position that is refused says why, but not where. For what reads a token, here is the same
with the position in every fault (`Located`). Leaving the positions out gives what reads a token,
and the work ends behind its beginning and inside the text, whether it is done or refused
(`locates_readToken`).

The first character of a token is always passed. From there on the work never goes back, and it asks
whether there is a character before it passes one. So both are shown together, part by part
(`Locates`).
-/

namespace RecordStore.Cursor

open RecordStore.Text
open Bounded (minus? word?)

variable {τ ε α β : Type} {ts : List τ} {least p q : Nat}

/-- What is left to do once work is done. -/
theorem bind_of_done {work : Cursor τ ε α} {a : α} (h : work ts p = some (.ok (a, q)))
    (more : α → Cursor τ ε β) : (work >>= more) ts p = more a ts q := by
  show ((work ts p : Bounded ε (α × Nat)) >>= fun b ↦ more b.1 ts b.2) = _
  rw [h]
  rfl

/-! ### Faults with positions -/

/-- Refuses work at the position. -/
def refuse (fault : ε) : Cursor τ (ε × Nat) α := do
  throw (fault, ← position)

/-- Two results are the same but for the position in a fault, and the work ends somewhere from
`least` to `stop`, whether it is done or refused. -/
inductive SameWithin (least stop : Nat) :
    Option (Except (ε × Nat) (α × Nat)) → Option (Except ε (α × Nat)) → Prop where
  /-- Both come to nothing. -/
  | nothing : SameWithin least stop none none
  /-- Both are done. -/
  | done {a : α} {q : Nat} (hleast : least ≤ q) (hstop : q ≤ stop) :
    SameWithin least stop (some (.ok (a, q))) (some (.ok (a, q)))
  /-- Both are refused. -/
  | refused {fault : ε} {q : Nat} (hleast : least ≤ q) (hstop : q ≤ stop) :
    SameWithin least stop (some (.error (fault, q))) (some (.error fault))

/-- Work with located faults comes to what other work comes to, and ends somewhere from `least` to
the end of the list. -/
def Locates (ts : List τ) (least p : Nat) (work : Cursor τ (ε × Nat) α) (plain : Cursor τ ε α) :
    Prop :=
  SameWithin least ts.length (work ts p) (plain ts p)

section

variable {work : Cursor τ (ε × Nat) α} {plain : Cursor τ ε α} {more : α → Cursor τ (ε × Nat) β}
  {plainly : α → Cursor τ ε β} {a : α}

theorem Locates.behind (hwork : work ts p = some (.ok (a, q)))
    (hplain : plain ts p = some (.ok (a, q))) (h : Locates ts least q (more a) (plainly a)) :
    Locates ts least p (work >>= more) (plain >>= plainly) := by
  rw [Locates, bind_of_done hwork, bind_of_done hplain]
  exact h

theorem Locates.bind (h : Locates ts least p work plain)
    (hmore : ∀ a q, least ≤ q → q ≤ ts.length → Locates ts least q (more a) (plainly a)) :
    Locates ts least p (work >>= more) (plain >>= plainly) := by
  show SameWithin least ts.length
    ((work ts p : Bounded (ε × Nat) (α × Nat)) >>= fun b ↦ more b.1 ts b.2 : Bounded _ (β × Nat))
    ((plain ts p : Bounded ε (α × Nat)) >>= fun b ↦ plainly b.1 ts b.2 : Bounded _ (β × Nat))
  unfold Locates at h
  generalize work ts p = result at h
  generalize plain ts p = plainResult at h
  cases h with
  | nothing => exact .nothing
  | done hleast hstop => exact hmore _ _ hleast hstop
  | refused hleast hstop => exact .refused hleast hstop

/-- The same in other words for the faults. -/
theorem Locates.withFault {ε' : Type} (h : Locates ts least p work plain) (f : ε → ε') :
    Locates ts least p (work.withFault fun fault ↦ (f fault.1, fault.2)) (plain.withFault f) := by
  show SameWithin least ts.length (Option.map _ (work ts p)) (Option.map _ (plain ts p))
  unfold Locates at h
  generalize work ts p = result at h
  generalize plain ts p = plainResult at h
  cases h with
  | nothing => exact .nothing
  | done hleast hstop => exact .done hleast hstop
  | refused hleast hstop => exact .refused hleast hstop

theorem locates_pure (a : α) (hleast : least ≤ p) (hp : p ≤ ts.length) :
    Locates (ε := ε) ts least p (pure a) (pure a) := .done hleast hp

theorem locates_refuse (fault : ε) (hleast : least ≤ p) (hp : p ≤ ts.length) :
    Locates (α := α) ts least p (refuse fault) (throw fault) := .refused hleast hp

/-- A number or part that must be there. -/
theorem locates_need (found : Option α) (hleast : least ≤ p) (hp : p ≤ ts.length) :
    Locates (ε := ε) ts least p (need found) (need found) := by
  cases found with
  | none => exact .nothing
  | some a => exact .done hleast hp

theorem locates_turns (hleast : least ≤ p) (hp : p ≤ ts.length) :
    Locates (ε := ε) ts least p turns turns := .done hleast hp

theorem next?_eq (ts : List τ) (p : Nat) :
    (next? : Cursor τ ε (Option τ)) ts p =
      some (.ok (ts[p]?, if p < ts.length then p + 1 else p)) := by
  rw [next?, bind_of_done (show peek ts p = some (.ok (ts[p]?, p)) from rfl)]
  by_cases hp : p < ts.length
  · rw [if_pos hp, List.getElem?_eq_getElem hp]
    rfl
  · rw [if_neg hp, List.getElem?_eq_none (Nat.le_of_not_lt hp)]
    rfl

/-- What is next is only passed if it is there. -/
theorem locates_next? (hleast : least ≤ p) (hp : p ≤ ts.length) :
    Locates (ε := ε) ts least p next? next? := by
  unfold Locates
  rw [next?_eq, next?_eq]
  split
  · exact .done (by omega) (by omega)
  · exact .done hleast hp

theorem current_of_getElem? {t : τ} (ht : ts[p]? = some t) :
    (current : Cursor τ ε τ) ts p = some (.ok (t, p)) := by
  rw [current, ht]
  rfl

/-- Looking at what is there. -/
theorem Locates.current {t : τ} {more : τ → Cursor τ (ε × Nat) β} {plainly : τ → Cursor τ ε β}
    (ht : ts[p]? = some t) (h : Locates ts least p (more t) (plainly t)) :
    Locates ts least p (current >>= more) (current >>= plainly) :=
  h.behind (current_of_getElem? ht) (current_of_getElem? ht)

/-- Passing what is there. -/
theorem Locates.advance {more : Unit → Cursor τ (ε × Nat) β} {plainly : Unit → Cursor τ ε β}
    (h : Locates ts least (p + 1) (more ()) (plainly ())) :
    Locates ts least p (advance >>= more) (advance >>= plainly) :=
  h.behind rfl rfl

end

/-! ### Reading a token -/

namespace Located

/-- The number of so many hexadecimal digits and of those before, which have given `code`. -/
def readHex : Nat → Nat → Cursor Char (QuotedError × Nat) Nat
  | 0, code => return code
  | count + 1, code => do
    match (← next?).bind hexDigit? with
    | none => refuse .badCodePoint
    | some digit =>
      let shifted ← need (word? (code * 16))
      let code ← need (word? (shifted + digit))
      readHex count code

/-- The character that the two halves of a pair stand for. -/
def joined (high low : Nat) : Cursor Char (QuotedError × Nat) Char := do
  let lead ← need (minus? high 0xD800)
  let shifted ← need (word? (lead * 0x400))
  let base ← need (word? (0x10000 + shifted))
  let trail ← need (minus? low 0xDC00)
  let code ← need (word? (base + trail))
  match character? code with
  | some c => return c
  | none => refuse .badCodePoint

/-- The character that begins with a high surrogate. The escape of the low one has to be next. -/
def readPaired (high : Nat) : Cursor Char (QuotedError × Nat) Char := do
  if (← next?) = some '\\' then
    if (← next?) = some 'u' then
      let low ← readHex 4 0
      if isLowSurrogate low then joined high low
      else refuse .unpairedSurrogate
    else refuse .unpairedSurrogate
  else refuse .unpairedSurrogate

/-- The character of a code point escape, whose digits are next. -/
def readCodePoint : Cursor Char (QuotedError × Nat) Char := do
  let high ← readHex 4 0
  if isHighSurrogate high then readPaired high
  else
    match character? high with
    | some c => return c
    | none => refuse .badCodePoint

/-- The character that a backslash and `c` stand for. -/
def unescape (c : Char) : Cursor Char (QuotedError × Nat) Char :=
  if c = 'b' then return '\x08'
  else if c = 'f' then return '\x0c'
  else if c = 'n' then return '\n'
  else if c = 'r' then return '\r'
  else if c = 't' then return '\t'
  else if c = 'u' then readCodePoint
  else return c

/-- Reads to the closing quote, with the characters decoded so far, the latest first. -/
def readQuotedFrom : Nat → List Char → Cursor Char (QuotedError × Nat) String
  | 0, _ => endless
  | turns + 1, decoded => do
    match ← next? with
    | none => refuse (.unterminated (String.ofList decoded.reverse))
    | some c =>
      if c = '"' then return String.ofList decoded.reverse
      else if c = '\\' then
        match ← next? with
        | none => refuse (.unterminated (String.ofList decoded.reverse))
        | some e =>
          let d ← unescape e
          readQuotedFrom turns (d :: decoded)
      else readQuotedFrom turns (c :: decoded)

/-- Reads a quoted text whose opening quote has been passed. -/
def readQuoted : Cursor Char (QuotedError × Nat) String := do
  readQuotedFrom (← turns) []

/-- The characters of an operator of which the first has been passed. -/
def readSymbol (c : Char) : Cursor Char (TokenError × Nat) (List Char) := do
  if ← atEnd then return [c]
  else if (← current) = '=' then
    advance
    return [c, '=']
  else return [c]

/-- Reads an operator, whose first character is at the position. -/
def readOperator : Cursor Char (TokenError × Nat) Token := do
  let c ← current
  advance
  let symbol ← readSymbol c
  match Token.operatorOf? symbol with
  | some op => return .operator op
  | none => refuse (.unknownOperator (String.ofList symbol))

/-- Reads a word, whose first character is at the position. -/
def readWord : Cursor Char (TokenError × Nat) Token := do
  let word ← span (!Token.endsWord ·) (← turns) []
  return Token.ofWord (String.ofList word)

/-- Reads a quoted text, whose opening quote is at the position. -/
def readString : Cursor Char (TokenError × Nat) Token := do
  advance
  return .quoted (← readQuoted.withFault fun fault ↦ (.quoted fault.1, fault.2))

/-- Reads the token at the position. -/
def readToken : Cursor Char (TokenError × Nat) Token := do
  let c ← current
  if c = '(' then
    advance
    return .open
  else if c = ')' then
    advance
    return .close
  else if c = '"' then readString
  else if Token.isOperatorChar c then readOperator
  else readWord

end Located

variable {cs : List Char}

theorem locates_readHex (count code : Nat) (hleast : least ≤ p) (hp : p ≤ cs.length) :
    Locates cs least p (Located.readHex count code) (readHex count code) := by
  induction count generalizing code p with
  | zero => exact locates_pure code hleast hp
  | succ count ih =>
    rw [Located.readHex, readHex]
    refine (locates_next? hleast hp).bind fun found q hleast hp ↦ ?_
    cases found.bind hexDigit? with
    | none => exact locates_refuse _ hleast hp
    | some digit =>
      refine (locates_need _ hleast hp).bind fun shifted q hleast hp ↦ ?_
      exact (locates_need _ hleast hp).bind fun code q hleast hp ↦ ih code hleast hp

theorem locates_character (found : Option Char) (hleast : least ≤ p) (hp : p ≤ cs.length) :
    Locates cs least p
      (match found with
        | some c => pure c
        | none => refuse QuotedError.badCodePoint)
      (match found with
        | some c => pure c
        | none => throw QuotedError.badCodePoint) := by
  cases found with
  | none => exact locates_refuse _ hleast hp
  | some c => exact locates_pure c hleast hp

theorem locates_joined (high low : Nat) (hleast : least ≤ p) (hp : p ≤ cs.length) :
    Locates cs least p (Located.joined high low) (joined high low) := by
  rw [Located.joined, joined]
  refine (locates_need _ hleast hp).bind fun lead q hleast hp ↦ ?_
  refine (locates_need _ hleast hp).bind fun shifted q hleast hp ↦ ?_
  refine (locates_need _ hleast hp).bind fun base q hleast hp ↦ ?_
  refine (locates_need _ hleast hp).bind fun trail q hleast hp ↦ ?_
  exact (locates_need _ hleast hp).bind fun code q hleast hp ↦ locates_character _ hleast hp

theorem locates_readPaired (high : Nat) (hleast : least ≤ p) (hp : p ≤ cs.length) :
    Locates cs least p (Located.readPaired high) (readPaired high) := by
  rw [Located.readPaired, readPaired]
  refine (locates_next? hleast hp).bind fun backslash q hleast hp ↦ ?_
  split
  case isFalse => exact locates_refuse _ hleast hp
  refine (locates_next? hleast hp).bind fun letter q hleast hp ↦ ?_
  split
  case isFalse => exact locates_refuse _ hleast hp
  refine (locates_readHex 4 0 hleast hp).bind fun low q hleast hp ↦ ?_
  split
  · exact locates_joined high low hleast hp
  · exact locates_refuse _ hleast hp

theorem locates_readCodePoint (hleast : least ≤ p) (hp : p ≤ cs.length) :
    Locates cs least p Located.readCodePoint readCodePoint := by
  rw [Located.readCodePoint, readCodePoint]
  refine (locates_readHex 4 0 hleast hp).bind fun high q hleast hp ↦ ?_
  split
  · exact locates_readPaired high hleast hp
  · exact locates_character _ hleast hp

theorem locates_unescape (c : Char) (hleast : least ≤ p) (hp : p ≤ cs.length) :
    Locates cs least p (Located.unescape c) (unescape c) := by
  rw [Located.unescape, unescape]
  split_ifs
  all_goals first
    | exact locates_pure _ hleast hp
    | exact locates_readCodePoint hleast hp

theorem locates_readQuotedFrom (turns : Nat) (decoded : List Char) (hleast : least ≤ p)
    (hp : p ≤ cs.length) :
    Locates cs least p (Located.readQuotedFrom turns decoded) (readQuotedFrom turns decoded) := by
  induction turns generalizing decoded p with
  | zero => exact .nothing
  | succ turns ih =>
    rw [Located.readQuotedFrom, readQuotedFrom]
    refine (locates_next? hleast hp).bind fun found q hleast hp ↦ ?_
    cases found with
    | none => exact locates_refuse _ hleast hp
    | some c =>
      dsimp only
      split_ifs with hquote hback
      · exact locates_pure _ hleast hp
      · refine (locates_next? hleast hp).bind fun found q hleast hp ↦ ?_
        cases found with
        | none => exact locates_refuse _ hleast hp
        | some e =>
          exact (locates_unescape e hleast hp).bind fun d q hleast hp ↦ ih (d :: decoded) hleast hp
      · exact ih (c :: decoded) hleast hp

theorem locates_readQuoted (hleast : least ≤ p) (hp : p ≤ cs.length) :
    Locates cs least p Located.readQuoted readQuoted := by
  rw [Located.readQuoted, readQuoted]
  exact (locates_turns hleast hp).bind fun turns q hleast hp ↦
    locates_readQuotedFrom turns [] hleast hp

theorem locates_readSymbol (c : Char) (hleast : least ≤ p) (hp : p ≤ cs.length) :
    Locates cs least p (Located.readSymbol c) (readSymbol c) := by
  rw [Located.readSymbol, readSymbol]
  refine .behind (q := p) rfl rfl ?_
  split
  · exact locates_pure _ hleast hp
  next hend =>
  have hlt : p < cs.length := by simpa using hend
  refine .current (List.getElem?_eq_getElem hlt) ?_
  split
  · exact .advance (locates_pure _ (by omega) hlt)
  · exact locates_pure _ hleast hp

/-- What takes things of a kind ends behind the first of them, in a place that does not depend on
the faults it may have. -/
theorem span_of_kind (kind : Char → Bool) {c : Char} (hc : cs[p]? = some c)
    (hkind : kind c = true) :
    ∃ word q, p < q ∧ q ≤ cs.length ∧ ∀ ε,
      (span kind (cs.length + 1) [] : Cursor Char ε (List Char)) cs p = some (.ok (word, q)) := by
  obtain ⟨hp, rfl⟩ := List.getElem?_eq_some_iff.1 hc
  have hcut : Cut cs p (cs[p] :: cs.drop (p + 1)) := ⟨hp.le, List.drop_eq_getElem_cons hp⟩
  have hpassed := (List.dropWhile_suffix kind (l := cs.drop (p + 1))).length_le
  rw [List.length_drop] at hpassed
  refine ⟨(cs[p] :: cs.drop (p + 1)).takeWhile kind,
    cs.length - ((cs.drop (p + 1)).dropWhile kind).length, by omega, by omega, fun ε ↦ ?_⟩
  obtain ⟨q, hq, hspan⟩ := gives_span (ε := ε) hcut hcut.length_lt []
  rw [List.dropWhile_cons_of_pos hkind] at hq
  rw [hspan, ← hq.length, Nat.add_sub_cancel, List.reverse_nil, List.nil_append]

/-- A word goes on with the character that it begins with. -/
theorem locates_readWord {c : Char} (hc : cs[p]? = some c) (hword : Token.endsWord c = false) :
    Locates cs (p + 1) p Located.readWord readWord := by
  have hkind : (!Token.endsWord c) = true := by rw [hword]; rfl
  obtain ⟨word, q, hleast, hstop, hspan⟩ :=
    span_of_kind (!Token.endsWord ·) hc hkind
  rw [Located.readWord, readWord]
  refine .behind (q := p) rfl rfl (.behind (hspan _) (hspan _) ?_)
  exact locates_pure _ hleast hstop

/-- **A token is passed or refused behind its first character**, and not behind the text. -/
theorem locates_readToken {c : Char} (hc : cs[p]? = some c) (hblank : isBlank c = false) :
    Locates cs (p + 1) p Located.readToken readToken := by
  have hp : p + 1 ≤ cs.length := (List.getElem?_eq_some_iff.1 hc).1
  rw [Located.readToken, readToken]
  refine .current hc ?_
  split_ifs with hopen hclose hquote hoperator
  · exact .advance (locates_pure _ (Nat.le_refl _) hp)
  · exact .advance (locates_pure _ (Nat.le_refl _) hp)
  · rw [Located.readString, readString]
    refine .advance ?_
    exact ((locates_readQuoted (Nat.le_refl _) hp).withFault _).bind fun s q hleast hp ↦
      locates_pure _ hleast hp
  · rw [Located.readOperator, readOperator]
    refine .current hc (.advance ?_)
    refine (locates_readSymbol c (Nat.le_refl _) hp).bind fun symbol q hleast hp ↦ ?_
    cases Token.operatorOf? symbol with
    | none => exact locates_refuse _ hleast hp
    | some op => exact locates_pure _ hleast hp
  · refine locates_readWord hc ?_
    simp [Token.endsWord, hblank, hopen, hclose, hoperator]

end RecordStore.Cursor
