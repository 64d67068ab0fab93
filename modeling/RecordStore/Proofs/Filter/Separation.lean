import RecordStore.Proofs.Filter.Sides
import RecordStore.Proofs.Number.Numeral

/-!
# Separators between tokens

Blanks and parentheses separate. Wherever one of them stands behind a text that has tokens, no token
reaches across it: a word ends before it, an operator is not prolonged by it, and a quoted text has
been closed. So the tokens of a text, a separator and another text are the tokens of the one, the
separator's own, and the tokens of the other (`ofText_append`).

What separates is not inside of a word, then, and a word is told apart by its characters alone: it
is a keyword or a truth value, a numeral, a name, or none of these (`Lexical`). All the tokens of a
text are as they should be in this sense (`separate_ofText`).
-/

namespace RecordStore

open RecordStore.Text RecordStore.Number

namespace Number

/-- A plain numeral, `-?digits(.digits)?`. -/
inductive IsPlain : List Char → Prop where
  /-- A minus sign or none, digits, and a fraction or none. -/
  | mk {minus whole fraction : List Char} (hminus : minus = [] ∨ minus = ['-'])
      (hwhole : isDigits whole = true) (hfraction : IsFraction fraction) :
    IsPlain (minus ++ (whole ++ fraction))

theorem splitMinus_digits {minus whole : List Char} (hminus : minus = [] ∨ minus = ['-'])
    (hwhole : isDigits whole = true) (rest : List Char) :
    (splitMinus (minus ++ (whole ++ rest))).2 = whole ++ rest := by
  rcases hminus with rfl | rfl
  · obtain ⟨d, ds, rfl, -, hne, -⟩ := exists_cons_of_isDigits hwhole
    rw [List.nil_append, List.cons_append]
    unfold splitMinus
    split
    · next heq => exact absurd (List.cons.inj heq).1 hne
    · rfl
  · rfl

theorem isNumeral_iff {s : String} : isNumeral s = true ↔ IsPlain s.toList := by
  constructor
  · intro h
    obtain ⟨minus, whole, fraction, hminus, hwhole, hfraction, hs⟩ := exists_parts_of_isNumeral h
    rw [hs]
    exact .mk hminus hwhole hfraction
  · intro h
    generalize hs : s.toList = cs at h
    obtain @⟨minus, whole, fraction, hminus, hwhole, hfraction⟩ := h
    have hpoint : ∀ c ∈ whole, (c == '.') = false := by
      intro c hc
      rw [beq_eq_false_iff_ne]
      rintro rfl
      exact absurd ((isDigits_iff.1 hwhole).2 '.' hc) (by decide)
    have hhead : ∀ c ∈ fraction.head?, (c == '.') = true := by
      cases hfraction with
      | none => nofun
      | some => simp
    obtain ⟨htake, hdrop⟩ := takeWhile_dropWhile_of_head hpoint hhead
    simp only [isNumeral, hs, splitMinus_digits hminus hwhole, bne, htake, hdrop]
    cases hfraction with
    | none => simpa using hwhole
    | some hdigits => simp [hwhole, hdigits]

end Number

namespace Token

variable {c d : Char} {cs rest more : List Char} {t : Token} {tokens ts : List Token}
  {a b w : String}

/-! ### Separators -/

/-- Blanks and parentheses separate what is before them from what is behind them. -/
def Separates (c : Char) : Prop := isBlank c = true ∨ c = '(' ∨ c = ')'

/-- The tokens of a separator: a parenthesis is a token of its own, and a blank is none. -/
def ofSeparator (c : Char) : List Token :=
  if c = '(' then [.open] else if c = ')' then [.close] else []

theorem Separates.endsWord (h : Separates c) : endsWord c = true := by
  rcases h with h | rfl | rfl
  · rw [Token.endsWord, h]
    rfl
  · decide
  · decide

theorem Separates.ne_equals (h : Separates c) : c ≠ '=' := by
  rintro rfl
  rcases h with h | h | h
  · exact absurd h (by decide)
  · cases h
  · cases h

/-- A token is taken off as it is when a separator comes behind it. -/
theorem readToken_append_cons (hends : endsWord d = true) (hequals : d ≠ '=')
    (h : readToken c cs = .ok (t, rest)) (more : List Char) :
    readToken c (cs ++ d :: more) = .ok (t, rest ++ d :: more) := by
  unfold readToken at h ⊢
  split at h
  · next hopen =>
    cases h
    rw [if_pos hopen]
  next hopen =>
  split at h
  · next hclose =>
    cases h
    rw [if_neg hopen, if_pos hclose]
  next hclose =>
  split at h
  · next hquote =>
    rw [if_neg hopen, if_neg hclose, if_pos hquote]
    split at h
    · next s after hread =>
      cases h
      obtain ⟨body, hbody, rfl⟩ := readQuoted_eq_ok_iff.1 hread
      have happend : readQuoted (body ++ '"' :: rest ++ d :: more) = .ok (s, rest ++ d :: more) :=
        readQuoted_eq_ok_iff.2 ⟨body, hbody, List.append_assoc _ _ _⟩
      rw [happend]
    · cases h
  next hquote =>
  rw [if_neg hopen, if_neg hclose, if_neg hquote]
  split at h
  · next hoperator =>
    rw [if_pos hoperator, readOperator_append_cons hequals, h]
    rfl
  · next hoperator =>
    cases h
    obtain ⟨htake, hdrop⟩ := takeWhile_dropWhile_append_cons hends cs more
    rw [if_neg hoperator, htake, hdrop]

/-- **No token reaches across a separator.** -/
theorem readAll_append_cons (hends : endsWord d = true) (hequals : d ≠ '=')
    (h : readAll cs = .ok (ts ++ [finish])) (more : List Char) :
    readAll (cs ++ d :: more) = (readAll (d :: more)).map (ts ++ ·) := by
  fun_induction readAll cs generalizing ts with
  | case1 cs hskip =>
    obtain rfl : ts = [] := by simpa using h
    have hblanks : skipBlanks (cs ++ d :: more) = skipBlanks (d :: more) :=
      skipBlanks_append (skipBlanks_eq_nil_iff.1 hskip) _
    rw [readAll_congr hblanks]
    cases readAll (d :: more) <;> rfl
  | case2 => cases h
  | case3 cs c after hskip token behind htoken ih =>
    obtain ⟨tokens, htokens, heq⟩ := map_eq_ok.1 h
    obtain ⟨front, rfl, -⟩ := exists_readable_of_readAll htokens
    obtain rfl : token :: front = ts := List.append_cancel_right heq
    rw [readAll_of_readToken (skipBlanks_append_of_cons hskip _)
      (readToken_append_cons hends hequals htoken more), ih htokens]
    cases readAll (d :: more) <;> rfl

/-- A separator is taken off, with its tokens. -/
theorem readAll_separator (h : Separates c) (cs : List Char) :
    readAll (c :: cs) = (readAll cs).map (ofSeparator c ++ ·) := by
  have hparenthesis {c : Char} {token : Token} (hblank : isBlank c = false)
      (htoken : readToken c cs = .ok (token, cs)) :
      readAll (c :: cs) = (readAll cs).map ([token] ++ ·) :=
    readAll_of_readToken (skipBlanks_of_not_isBlank hblank) htoken
  rcases h with h | rfl | rfl
  · have hnone : ofSeparator c = [] := by
      rw [ofSeparator, if_neg, if_neg]
      all_goals
        rintro rfl
        exact absurd h (by decide)
    rw [readAll_congr (skipBlanks_of_isBlank h), hnone]
    cases readAll cs <;> rfl
  · exact hparenthesis (by decide) rfl
  · exact hparenthesis (by decide) rfl

/-- **Texts that a separator is between** have their tokens to themselves. -/
theorem ofText_append (h : Token.ofText a = .ok (ts ++ [finish])) (hc : Separates c) (b : String) :
    Token.ofText (a ++ String.singleton c ++ b) =
      (Token.ofText b).map (ts ++ ofSeparator c ++ ·) := by
  have hchars : (a ++ String.singleton c ++ b).toList = a.toList ++ c :: b.toList := by
    simp
  rw [Token.ofText, hchars, readAll_append_cons hc.endsWord hc.ne_equals h, readAll_separator hc,
    ← Token.ofText]
  cases Token.ofText b with
  | error cause => rfl
  | ok tokens => exact congrArg Except.ok (List.append_assoc ts (ofSeparator c) tokens).symm

/-! ### Words -/

/-- A letter or an underscore of ASCII, and then letters, digits and underscores. -/
inductive IsIdentifier : List Char → Prop where
  /-- The first character and the others. -/
  | mk {c : Char} {cs : List Char} (hstart : isNameStart c = true)
      (hrest : ∀ d ∈ cs, isNameChar d = true) : IsIdentifier (c :: cs)

theorem isName_iff : isName w = true ↔ IsIdentifier w.toList := by
  rw [isName]
  split
  · next hnil => exact ⟨nofun, fun h ↦ by rw [hnil] at h; cases h⟩
  · next c cs hcons =>
    rw [hcons, Bool.and_eq_true, List.all_eq_true]
    exact ⟨fun h ↦ .mk h.1 h.2, fun ⟨hstart, hrest⟩ ↦ ⟨hstart, hrest⟩⟩

/-- The word is a keyword or a truth value, in any case. -/
def IsReserved (w : String) : Prop := lowercase w ∈ ["and", "or", "include", "true", "false"]

theorem lookup_keywords_eq_none_iff : keywords.lookup (lowercase w) = none ↔ ¬IsReserved w := by
  have hkeys : ["and", "or", "include", "true", "false"] = Entries.keys keywords := by decide
  rw [IsReserved, hkeys]
  exact Entries.lookup_eq_none_iff_not_mem

/-- The token has a word of its own kind, if it is one for a word that is not reserved. -/
def Lexical : Token → Prop
  | name w => IsWord w.toList ∧ IsIdentifier w.toList ∧ ¬IsReserved w
  | number w => IsWord w.toList ∧ IsPlain w.toList
  | bare w => IsWord w.toList ∧ ¬IsIdentifier w.toList ∧ ¬IsPlain w.toList ∧ ¬IsReserved w
  | _ => True

/-- A word is read as a token of its kind. -/
theorem lexical_ofWord (h : IsWord w.toList) : (ofWord w).Lexical := by
  have hkeywords : ∀ e ∈ keywords, e.2.Lexical := by simp [keywords, Lexical]
  unfold ofWord
  split
  · next hlookup => exact hkeywords _ (Entries.mem_of_lookup hlookup)
  next hlookup =>
  have hreserved := lookup_keywords_eq_none_iff.1 hlookup
  split
  · next hnumeral => exact ⟨h, isNumeral_iff.1 hnumeral⟩
  next hnumeral =>
  split
  · next hname => exact ⟨h, isName_iff.1 hname, hreserved⟩
  · next hname => exact ⟨h, mt isName_iff.2 hname, mt isNumeral_iff.2 hnumeral, hreserved⟩

theorem lexical_of_readable (h : t.Readable) : t.Lexical := by
  have hword (hword : IsWord t.describe.toList ∧ ofWord t.describe = t) : t.Lexical := by
    have hlexical := lexical_ofWord hword.1
    rwa [hword.2] at hlexical
  cases t with
  | name | number | bare => exact hword h
  | and | or | includes | quoted | bool | «open» | close | operator | finish => trivial

/-- **Texts are cut into tokens at separators.** A text that has tokens has one mark of the end, as
the last of them, and words that are as their tokens say. With a separator and any other text behind
it, its tokens stay and the separator's follow, and then those of the other text or its error. -/
theorem separate_ofText (h : Token.ofText a = .ok tokens) :
    ∃ ts, tokens = ts ++ [finish] ∧ finish ∉ ts ∧ (∀ t ∈ tokens, t.Lexical) ∧
      ∀ c, Separates c → ∀ b, Token.ofText (a ++ String.singleton c ++ b) =
        (Token.ofText b).map (ts ++ ofSeparator c ++ ·) := by
  obtain ⟨ts, rfl, hreadable⟩ := exists_readable_of_readAll h
  refine ⟨ts, rfl, finish_not_mem_of_readable hreadable, fun t ht ↦ ?_,
    fun c hc ↦ ofText_append h hc⟩
  rcases List.mem_append.1 ht with ht | ht
  · exact lexical_of_readable (hreadable t ht)
  · rw [List.mem_singleton.1 ht]
    trivial

/-- A text with words of all kinds, and with a parenthesis between quotes. -/
def sizes : String := "größe<=-1.5 AND Note!=\"(\\\"\"12."

/-- The tokens of this text. -/
def sizesTokens : List Token :=
  [bare "größe", .operator .lessEqual, number "-1.5", .and, name "Note", .operator .notEqual,
    .quoted "(\"", bare "12.", finish]

/-- Behind this text, a parenthesis is a token of its own. -/
theorem separate_ofText_sizes :
    Token.ofText sizes = .ok sizesTokens ∧
      ∃ ts, sizesTokens = ts ++ [finish] ∧ finish ∉ ts ∧ (∀ t ∈ sizesTokens, t.Lexical) ∧
        ∀ c, Separates c → ∀ b, Token.ofText (sizes ++ String.singleton c ++ b) =
          (Token.ofText b).map (ts ++ ofSeparator c ++ ·) :=
  ⟨by decide +kernel, separate_ofText (by decide +kernel)⟩

end Token

end RecordStore
