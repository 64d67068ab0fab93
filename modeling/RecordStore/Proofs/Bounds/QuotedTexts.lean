import RecordStore.Proofs.Bounds.Payloads
import RecordStore.Proofs.Bounds.Tokens
import RecordStore.Proofs.Text.Encodings

/-!
# Quoted texts of payloads and of filters

Payloads and filters each have a loop of their own that takes a quoted text at a position. They share
what a backslash escapes, which takes as many characters as it needs, and differ in what they say of a
text that ends too early: that of filters has one complaint for it, and that of payloads has another one
if a backslash is the last character (`TextFault`). But for what they complain of, the two loops are
one (`withFault_readTextFrom`).

So a quoted text means the same in both places (`taken_or_refused_by_both`): what a filter takes for
one is what a payload does, up to the same quote and with the same contents, and these are the texts
that may be written like this.
-/

namespace RecordStore

open RecordStore.Text

namespace Cursor

variable {τ ε ε' ε'' α β : Type} {ts : List τ} {p q : Nat} {work : Cursor τ ε α} {a : α}

/-! ### Faults in other words -/

theorem withFault_bind (f : ε → ε') (work : Cursor τ ε α) (more : α → Cursor τ ε β) :
    (work >>= more).withFault f = work.withFault f >>= fun a ↦ (more a).withFault f := by
  funext ts p
  show Option.map (Except.mapError f)
      ((work ts p : Bounded ε (α × Nat)) >>= fun b ↦ more b.1 ts b.2 : Bounded ε (β × Nat)) =
    ((Option.map (Except.mapError f) (work ts p) : Bounded ε' (α × Nat)) >>= fun b ↦
      (more b.1).withFault f ts b.2 : Bounded ε' (β × Nat))
  rcases work ts p with _ | _ | _ <;> rfl

theorem withFault_withFault (f : ε → ε') (g : ε' → ε'') (work : Cursor τ ε α) :
    (work.withFault f).withFault g = work.withFault (g ∘ f) := by
  funext ts p
  show Option.map _ (Option.map _ (work ts p)) = Option.map _ (work ts p)
  rcases work ts p with _ | _ | _ <;> rfl

theorem withFault_next? (f : ε → ε') : (next? : Cursor τ ε (Option τ)).withFault f = next? := by
  rw [next?, withFault_bind, next?]
  refine congrArg₂ (· >>= ·) rfl (funext fun found ↦ ?_)
  cases found <;> rfl

/-- What work results in does not depend on the words for its faults. -/
theorem eq_ok_of_withFault {f : ε → ε'} (h : work.withFault f ts p = some (.ok (a, q))) :
    work ts p = some (.ok (a, q)) := by
  obtain ⟨result, hwork, hresult⟩ := Option.map_eq_some_iff.1 h
  rw [hwork]
  cases result with
  | error fault => cases hresult
  | ok found =>
    cases hresult
    rfl

theorem exists_fault_of_withFault {f : ε → ε'} {fault : ε'}
    (h : work.withFault f ts p = some (.error fault)) : ∃ cause, work ts p = some (.error cause) := by
  obtain ⟨result, hwork, hresult⟩ := Option.map_eq_some_iff.1 h
  rw [hwork]
  cases result with
  | error cause => exact ⟨cause, rfl⟩
  | ok found => cases hresult

/-! ### The loop of payloads -/

/-- Why a payload has no quoted text at a position. -/
inductive TextFault where
  /-- There is no opening quote. -/
  | noQuote
  /-- The text ends before its closing quote. -/
  | unterminated
  /-- The text ends behind a backslash. -/
  | unterminatedEscape
  /-- A backslash escapes nothing. -/
  | escape (cause : QuotedError)

/-- Reads to the closing quote as payloads do, with the characters decoded so far, the latest first. -/
def readTextFrom : Nat → List Char → Cursor Char TextFault String
  | 0, _ => endless
  | turns + 1, decoded => do
    match ← next? with
    | none => throw .unterminated
    | some c =>
      if c = '"' then return String.ofList decoded.reverse
      else if c = '\\' then
        match ← next? with
        | none => throw .unterminatedEscape
        | some e =>
          let d ← (unescape e).withFault .escape
          readTextFrom turns (d :: decoded)
      else readTextFrom turns (c :: decoded)

/-- Reads the quoted text of a payload, after any blanks. -/
def readPayloadText : Cursor Char TextFault String := do
  (passMark '"').withFault fun _ ↦ .noQuote
  readTextFrom (← turns) []

/-- **The loops of payloads and filters are one**, but for what they complain of. -/
theorem withFault_readTextFrom (turns : Nat) (decoded : List Char) :
    (readTextFrom turns decoded).withFault (fun _ ↦ ()) =
      (readQuotedFrom turns decoded).withFault fun _ ↦ () := by
  induction turns generalizing decoded with
  | zero => rfl
  | succ turns ih =>
    rw [readTextFrom, readQuotedFrom, withFault_bind, withFault_bind, withFault_next?,
      withFault_next?]
    refine congrArg (next? >>= ·) (funext fun found ↦ ?_)
    cases found with
    | none => rfl
    | some c =>
      dsimp only
      split_ifs with hquote hback
      · rfl
      · rw [withFault_bind, withFault_bind, withFault_next?, withFault_next?]
        refine congrArg (next? >>= ·) (funext fun found ↦ ?_)
        cases found with
        | none => rfl
        | some e =>
          dsimp only
          rw [withFault_bind, withFault_bind, withFault_withFault]
          exact congrArg ((unescape e).withFault (fun _ ↦ ()) >>= ·)
            (funext fun d ↦ ih (d :: decoded))
      · exact ih (c :: decoded)

/-- Payloads read a quoted text as `readText` does. -/
theorem withFault_readPayloadText : readPayloadText.withFault (fun _ ↦ ()) = readText := by
  have hmark : (passMark '"').withFault ((fun _ ↦ ()) ∘ fun _ ↦ TextFault.noQuote) = passMark '"' := by
    funext ts p
    show Option.map _ (passMark '"' ts p) = _
    rcases passMark '"' ts p with _ | _ | _ <;> rfl
  rw [readPayloadText, withFault_bind, withFault_withFault, hmark, withFault_bind, readText, readQuoted,
    withFault_bind]
  exact congrArg (passMark '"' >>= ·) (funext fun _ ↦
    congrArg (turns >>= ·) (funext fun turns ↦ withFault_readTextFrom turns []))

/-! ### At the position of the opening quote -/

variable {cs rest : List Char} {s : String} {chars : List Char}

theorem readToken_of_readQuoted (h : Text.readQuoted cs = .ok (s, rest)) :
    Token.readToken '"' cs = .ok (.quoted s, rest) := by
  rw [Token.readToken, if_neg (by decide), if_neg (by decide), if_pos rfl, h]

theorem readToken_of_readQuoted_error {cause : QuotedError} (h : Text.readQuoted cs = .error cause) :
    Token.readToken '"' cs = .error (.quoted cause) := by
  rw [Token.readToken, if_neg (by decide), if_neg (by decide), if_pos rfl, h]

/-- What stands behind the first part of a list is cut off at the length of that part. -/
theorem Cut.behind (before rest : List τ) : Cut (before ++ rest) before.length rest :=
  ⟨by rw [List.length_append]; exact Nat.le_add_right _ _, List.drop_left⟩

/-- There is one position that leaves a given rest. -/
theorem Cut.eq {rest : List τ} {q' : Nat} (h : Cut ts q rest) (h' : Cut ts q' rest) : q = q' := by
  have hq := h.length
  have hq' := h'.length
  omega

/-- Filters and payloads move to the same position, with the same text. -/
theorem exists_position_of_readQuoted (h : Cut chars p ('"' :: cs))
    (hread : Text.readQuoted cs = .ok (s, rest)) :
    ∃ q, Cut chars q rest ∧ readString chars p = some (.ok (.quoted s, q)) ∧
      readPayloadText chars p = some (.ok (s, q)) := by
  have hfilter := gives_readString h
  rw [readToken_of_readQuoted hread] at hfilter
  have hpayload := finds_readText h
  rw [hread] at hpayload
  obtain ⟨q, hq, hstring⟩ := hfilter
  obtain ⟨q', hq', htext⟩ := hpayload
  rw [← hq.eq hq', ← withFault_readPayloadText] at htext
  exact ⟨q, hq, hstring, eq_ok_of_withFault htext⟩

/-- Where filters refuse a quoted text, payloads do. -/
theorem exists_faults_of_readQuoted {cause : QuotedError} (h : Cut chars p ('"' :: cs))
    (hread : Text.readQuoted cs = .error cause) :
    readString chars p = some (.error (.quoted cause)) ∧
      ∃ fault, readPayloadText chars p = some (.error fault) := by
  have hfilter := gives_readString h
  rw [readToken_of_readQuoted_error hread] at hfilter
  have hpayload := finds_readText h
  rw [hread, ← withFault_readPayloadText] at hpayload
  exact ⟨hfilter, exists_fault_of_withFault hpayload⟩

end Cursor

/-! ### Filters and payloads -/

namespace Text

open Cursor (Cut readString readPayloadText readToken_of_readQuoted readToken_of_readQuoted_error)

/-- Filters and payloads take what stands behind an opening quote for the text `s`, and go on with
`rest`, whether they read from the front or at the position of the quote. -/
structure TakenByBoth (before cs : List Char) (s : String) (rest : List Char) : Prop where
  /-- Filters take it for a token. -/
  filter : Token.readToken '"' cs = .ok (.quoted s, rest)
  /-- Payloads take it for a text. -/
  payload : Payload.readScalar ('"' :: cs) = some (.text s, rest)
  /-- Payloads take it for the key of an entry. -/
  key : Payload.readKey ('"' :: cs) = some (s, rest)
  /-- At a position, both move to the same one. -/
  inPlace : ∃ q, Cut (before ++ '"' :: cs) q rest ∧
    readString (before ++ '"' :: cs) before.length = some (.ok (.quoted s, q)) ∧
    readPayloadText (before ++ '"' :: cs) before.length = some (.ok (s, q))

/-- Filters and payloads refuse what stands behind an opening quote, whether they read from the front
or at the position of the quote. -/
structure RefusedByBoth (before cs : List Char) : Prop where
  /-- Filters refuse it as a token. -/
  filter : ∃ cause, Token.readToken '"' cs = .error (.quoted cause)
  /-- Payloads refuse it as a text. -/
  payload : Payload.readScalar ('"' :: cs) = none
  /-- Payloads refuse it as the key of an entry. -/
  key : Payload.readKey ('"' :: cs) = none
  /-- At a position, both complain. -/
  inPlace : (∃ cause,
      readString (before ++ '"' :: cs) before.length = some (.error (.quoted cause))) ∧
    ∃ fault, readPayloadText (before ++ '"' :: cs) before.length = some (.error fault)

variable {cs rest : List Char} {s : String}

theorem takenByBoth_iff_readQuoted (before : List Char) :
    TakenByBoth before cs s rest ↔ readQuoted cs = .ok (s, rest) := by
  constructor
  · intro h
    cases hread : readQuoted cs with
    | ok found =>
      have hfilter := h.filter
      rw [readToken_of_readQuoted hread] at hfilter
      cases hfilter
      rfl
    | error cause =>
      have hfilter := h.filter
      rw [readToken_of_readQuoted_error hread] at hfilter
      cases hfilter
  · intro h
    refine ⟨readToken_of_readQuoted h, ?_, ?_,
      Cursor.exists_position_of_readQuoted (Cut.behind before _) h⟩
    · rw [Payload.readScalar, if_pos rfl, h]
      rfl
    · rw [Cursor.readKey_quoted (skipBlanks_of_not_isBlank (by decide)), h]
      rfl

theorem refusedByBoth_of_readQuoted (before : List Char) {cause : QuotedError}
    (h : readQuoted cs = .error cause) : RefusedByBoth before cs := by
  obtain ⟨hfilter, hpayload⟩ := Cursor.exists_faults_of_readQuoted (Cut.behind before _) h
  refine ⟨⟨cause, readToken_of_readQuoted_error h⟩, ?_, ?_, ⟨cause, hfilter⟩, hpayload⟩
  · rw [Payload.readScalar, if_pos rfl, h]
    rfl
  · rw [Cursor.readKey_quoted (skipBlanks_of_not_isBlank (by decide)), h]
    rfl

/-- **A quoted text means the same in filters and in payloads.** Whatever stands behind an opening
quote, and whatever in front of it, both take the same text and go on behind the same characters, or
both refuse it. They take a text in all the forms in which it may be written between quotes, and
nothing else; and they refuse what has half a character in it, wherever it stands. -/
theorem taken_or_refused_by_both :
    (∀ before cs, (∃ s rest, TakenByBoth before cs s rest) ∨ RefusedByBoth before cs) ∧
    (∀ before cs s rest, TakenByBoth before cs s rest ↔
      ∃ body, Encoded body s.toList ∧ cs = body ++ '"' :: rest) ∧
    ∀ before front s es, Encoded front s → Unpaired es →
      RefusedByBoth before (front ++ '\\' :: 'u' :: es) := by
  refine ⟨fun before cs ↦ ?_, fun before cs s rest ↦ ?_, fun before front s es hfront hes ↦ ?_⟩
  · cases hread : readQuoted cs with
    | ok found => exact .inl ⟨found.1, found.2, (takenByBoth_iff_readQuoted before).2 hread⟩
    | error cause => exact .inr (refusedByBoth_of_readQuoted before hread)
  · rw [takenByBoth_iff_readQuoted, readQuoted_eq_ok_iff_encoded]
  · obtain ⟨cause, hcause⟩ := readQuoted_of_unpaired hfront hes
    exact refusedByBoth_of_readQuoted before hcause

/-- An `é` and a smile, one by its code and the other by its halves, in mixed digits, and half of the
smile. -/
theorem refused_by_both_half_smile :
    Encoded "\\u00E9\\ud83D\\uDe00".toList "é😀".toList ∧
      RefusedByBoth "name = ".toList
        ("\\u00E9\\ud83D\\uDe00".toList ++ '\\' :: 'u' :: "d83d\\u0041\"".toList) := by
  have haccent : HexFour ['0', '0', 'E', '9'] ('é' : Char).toNat :=
    @HexFour.mk _ _ _ _ 0 0 14 9 (by decide) (by decide) (by decide) (by decide)
  have hhigh : HexFour ['d', '8', '3', 'D'] 0xD83D :=
    @HexFour.mk _ _ _ _ 13 8 3 13 (by decide) (by decide) (by decide) (by decide)
  have hlow : HexFour ['D', 'e', '0', '0'] 0xDE00 :=
    @HexFour.mk _ _ _ _ 13 14 0 0 (by decide) (by decide) (by decide) (by decide)
  have hfront : Encoded "\\u00E9\\ud83D\\uDe00".toList "é😀".toList :=
    .cons (.code haccent) (.cons (@Encodes.pair _ _ '😀' (by decide) hhigh hlow) .nil)
  have hhalf : HexFour ['d', '8', '3', 'd'] 0xD83D :=
    @HexFour.mk _ _ _ _ 13 8 3 13 (by decide) (by decide) (by decide) (by decide)
  have hunpaired : Unpaired "d83d\\u0041\"".toList := by
    refine @Unpaired.high _ "\\u0041\"".toList _ hhalf (by decide)
      fun lows after low hlows hlow heq ↦ ?_
    -- the digits behind the half are those of a letter
    have hletter := readHexFour_eq_some_iff.2 ⟨lows, hlows, (List.cons.inj (List.cons.inj heq).2).2⟩
    cases hletter
    exact absurd hlow (by decide)
  obtain ⟨-, -, hrefused⟩ := taken_or_refused_by_both
  exact ⟨hfront, hrefused _ _ _ _ hfront hunpaired⟩

end Text

end RecordStore
