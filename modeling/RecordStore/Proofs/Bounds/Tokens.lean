import RecordStore.Proofs.Bounds.Escapes
import RecordStore.Proofs.Filter.Sides

/-!
# Tokens within bounds

Cutting a filter's text into tokens at a position, the character there is looked at without asking
whether there is one. Whoever looks has asked before: the loop over the tokens asks twice, before the
blanks and behind them, and what reads a token relies on it.

So the character is always there, and the tokens are those that reading from the front gives
(`readTokens_onAll`). Each of them takes a character, and the last one marks the end.
-/

namespace RecordStore.Cursor

open RecordStore.Text

/-! ### Reading at a position -/

/-- Passes the blanks that are next. -/
def skipBlanks : Cursor Char TokenError Unit := do
  let _ ← span isBlank (← turns) []

/-- The characters of an operator of which the first has been passed. -/
def readSymbol (c : Char) : Cursor Char TokenError (List Char) := do
  if ← atEnd then return [c]
  else if (← current) = '=' then
    advance
    return [c, '=']
  else return [c]

/-- Reads an operator, whose first character is at the position. -/
def readOperator : Cursor Char TokenError Token := do
  let c ← current
  advance
  let symbol ← readSymbol c
  match Token.operatorOf? symbol with
  | some op => return .operator op
  | none => throw (.unknownOperator (String.ofList symbol))

/-- Reads a word, whose first character is at the position. -/
def readWord : Cursor Char TokenError Token := do
  let word ← span (!Token.endsWord ·) (← turns) []
  return Token.ofWord (String.ofList word)

/-- Reads a quoted text, whose opening quote is at the position. -/
def readString : Cursor Char TokenError Token := do
  advance
  return .quoted (← readQuoted.withFault .quoted)

/-- Reads the token at the position. -/
def readToken : Cursor Char TokenError Token := do
  let c ← current
  if c = '(' then
    advance
    return .open
  else if c = ')' then
    advance
    return .close
  else if c = '"' then readString
  else if Token.isOperatorChar c then readOperator
  else readWord

/-- Reads the tokens that are left, behind those before, and closes them with the mark of the end. -/
def readTokensFrom : Nat → List Token → Cursor Char TokenError (List Token)
  | 0, _ => endless
  | turns + 1, before => do
    if ← atEnd then return (.finish :: before).reverse
    else
      skipBlanks
      if ← atEnd then return (.finish :: before).reverse
      else
        let token ← readToken
        readTokensFrom turns (token :: before)

/-- Reads all tokens of a text. -/
def readTokens : Cursor Char TokenError (List Token) := do
  readTokensFrom (← turns) []

/-! ### One token -/

variable {ts rest : List Char} {p : Nat}

theorem gives_skipBlanks (h : Cut ts p rest) :
    Gives ts p skipBlanks (.ok ((), Text.skipBlanks rest)) := by
  rw [skipBlanks]
  refine (gives_turns h).bind_ok fun q hq ↦ ?_
  exact (gives_span hq hq.length_lt []).bind_ok fun q hq ↦ gives_pure hq ()

/-- The characters of an operator that begins with `c`, and what follows them. -/
def symbolAt (c : Char) : List Char → List Char × List Char
  | '=' :: rest => ([c, '='], rest)
  | rest => ([c], rest)

theorem readOperator_eq (c : Char) (cs : List Char) :
    Token.readOperator c cs =
      (Token.operatorOf? (symbolAt c cs).1).elim
        (.error (.unknownOperator (String.ofList (symbolAt c cs).1)))
        fun op ↦ .ok (.operator op, (symbolAt c cs).2) := by
  unfold Token.readOperator
  split
  next symbol rest heq =>
    have hsymbol : symbolAt c cs = (symbol, rest) := heq
    rw [hsymbol]
    cases Token.operatorOf? symbol <;> rfl

theorem gives_readSymbol (c : Char) (h : Cut ts p rest) :
    Gives ts p (readSymbol c) (.ok ((symbolAt c rest).1, (symbolAt c rest).2)) := by
  rw [readSymbol]
  refine (gives_atEnd h).bind_ok fun q hq ↦ ?_
  rcases rest with _ | ⟨d, rest⟩
  · exact gives_pure hq [c]
  refine (gives_current hq).bind_ok fun q hq ↦ ?_
  by_cases hd : d = '='
  · subst hd
    rw [if_pos rfl]
    exact (gives_advance hq).bind_ok fun q hq ↦ gives_pure hq [c, '=']
  · have hsymbol : symbolAt c (d :: rest) = ([c], d :: rest) := by
      unfold symbolAt
      split
      · next heq => exact absurd (List.cons.inj heq).1 hd
      · rfl
    rw [if_neg hd, hsymbol]
    exact gives_pure hq [c]

theorem gives_readOperator (c : Char) (h : Cut ts p (c :: rest)) :
    Gives ts p readOperator (Token.readOperator c rest) := by
  rw [readOperator, readOperator_eq]
  refine (gives_current h).bind_ok fun q hq ↦ ?_
  refine (gives_advance hq).bind_ok fun q hq ↦ ?_
  refine (gives_readSymbol c hq).bind_ok fun q hq ↦ ?_
  cases Token.operatorOf? (symbolAt c rest).1 with
  | none => exact gives_throw _
  | some op => exact gives_pure hq _

theorem gives_readString (h : Cut ts p ('"' :: rest)) :
    Gives ts p readString (Token.readToken '"' rest) := by
  rw [readString]
  refine (gives_advance h).bind_ok fun q hq ↦ ?_
  have hquoted := (gives_readQuoted hq).withFault TokenError.quoted
  rw [Token.readToken, if_neg (by decide), if_neg (by decide), if_pos rfl]
  cases hread : Text.readQuoted rest with
  | error fault =>
    rw [hread] at hquoted
    exact hquoted.bind_error _
  | ok found =>
    rw [hread] at hquoted
    exact hquoted.bind_ok fun q hq ↦ gives_pure hq _

/-- A word goes on with the character that it begins with. -/
theorem gives_readWord {c : Char} (hword : Token.endsWord c = false) (h : Cut ts p (c :: rest)) :
    Gives ts p readWord
      (.ok (Token.ofWord (String.ofList (c :: rest.takeWhile (!Token.endsWord ·))),
        rest.dropWhile (!Token.endsWord ·))) := by
  have hkind : (!Token.endsWord c) = true := by rw [hword]; rfl
  rw [readWord]
  refine (gives_turns h).bind_ok fun q hq ↦ ?_
  rw [← List.takeWhile_cons_of_pos (p := fun c ↦ !Token.endsWord c) hkind,
    ← List.dropWhile_cons_of_pos (p := fun c ↦ !Token.endsWord c) hkind]
  exact (gives_span hq hq.length_lt []).bind_ok fun q hq ↦ gives_pure hq _

theorem gives_readToken {c : Char} (hblank : isBlank c = false) (h : Cut ts p (c :: rest)) :
    Gives ts p readToken (Token.readToken c rest) := by
  rw [readToken]
  refine (gives_current h).bind_ok fun q hq ↦ ?_
  by_cases hopen : c = '('
  · subst hopen
    rw [if_pos rfl]
    exact (gives_advance hq).bind_ok fun q hq ↦ gives_pure hq _
  by_cases hclose : c = ')'
  · subst hclose
    rw [if_neg hopen, if_pos rfl]
    exact (gives_advance hq).bind_ok fun q hq ↦ gives_pure hq _
  by_cases hquote : c = '"'
  · subst hquote
    rw [if_neg hopen, if_neg hclose, if_pos rfl]
    exact gives_readString hq
  rw [if_neg hopen, if_neg hclose, if_neg hquote, Token.readToken, if_neg hopen, if_neg hclose,
    if_neg hquote]
  by_cases hoperator : Token.isOperatorChar c = true
  · rw [if_pos hoperator, if_pos hoperator]
    exact gives_readOperator c hq
  · rw [if_neg hoperator, if_neg hoperator]
    refine gives_readWord ?_ hq
    simp [Token.endsWord, hblank, hopen, hclose, hoperator]

/-! ### All tokens -/

theorem gives_readTokensFrom {turns : Nat} (hturns : rest.length < turns) (before : List Token)
    (h : Cut ts p rest) :
    Gives ts p (readTokensFrom turns before)
      ((Token.readAll rest).map fun tokens ↦ (before.reverse ++ tokens, [])) := by
  induction turns generalizing p rest before with
  | zero => exact absurd hturns (Nat.not_lt_zero _)
  | succ turns ih =>
    have hend {q : Nat} (hq : Cut ts q []) : Gives (ε := TokenError) ts q
        (pure (Token.finish :: before).reverse) (.ok (before.reverse ++ [.finish], [])) := by
      rw [List.reverse_cons]
      exact gives_pure hq _
    rw [readTokensFrom]
    refine (gives_atEnd h).bind_ok fun q hq ↦ ?_
    rcases rest with _ | ⟨d, more⟩
    · rw [Token.readAll_of_blank skipBlanks_nil]
      exact hend hq
    refine (gives_skipBlanks hq).bind_ok fun q hq ↦ ?_
    refine (gives_atEnd hq).bind_ok fun q hq ↦ ?_
    cases hskip : Text.skipBlanks (d :: more) with
    | nil =>
      rw [hskip] at hq
      rw [Token.readAll_of_blank hskip]
      exact hend hq
    | cons c rest =>
      rw [hskip] at hq
      have htoken := gives_readToken (isBlank_head_skipBlanks hskip) hq
      cases hread : Token.readToken c rest with
      | error fault =>
        rw [hread] at htoken
        rw [Token.readAll_of_error hskip hread]
        exact htoken.bind_error _
      | ok found =>
        rw [hread] at htoken
        rw [Token.readAll_of_readToken hskip hread]
        refine htoken.bind_ok fun q hq ↦ ?_
        have hle := length_skipBlanks_le (d :: more)
        have hshorter := Token.length_readToken_le hread
        rw [hskip, List.length_cons] at hle
        have hmore := ih (by omega) (found.1 :: before) hq
        rw [List.reverse_cons] at hmore
        cases hall : Token.readAll found.2 with
        | error fault =>
          rw [hall] at hmore
          exact hmore
        | ok tokens =>
          rw [hall] at hmore
          simpa [Except.map] using hmore

/-- A text is cut into tokens without going out of range, and into those that a reader gives. -/
theorem readTokens_onAll (cs : List Char) : readTokens.onAll cs = some (Token.readAll cs) := by
  have hread : Gives cs 0 readTokens ((Token.readAll cs).map fun tokens ↦ (tokens, [])) := by
    rw [readTokens]
    exact (gives_turns (Cut.front cs)).bind_ok fun q hq ↦ gives_readTokensFrom hq.length_lt [] hq
  rw [hread.onAll]
  cases Token.readAll cs <;> rfl

end RecordStore.Cursor
