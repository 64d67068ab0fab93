import RecordStore.Proofs.Text.Escapes

/-!
# How texts may be written between quotes

Most characters have several forms between quotes (`Encodes`): the character itself, a backslash in
front of it, a letter that is short for it, four hexadecimal digits, or the digits of the two halves
that make it up in UTF-16. A text may be written with any form of each of its characters
(`Encoded`), and these are all the ways in which it can be: what decodes to a text is what it may be
written as (`encoded_iff_decodes`).

A half that stands alone is no form of any character. Reading fails there, whatever stands in front
of it and behind it (`readQuoted_of_unpaired`).
-/

namespace RecordStore.Text

/-! ### Forms of a character -/

/-- How a character may be written between quotes. -/
inductive Encodes : List Char → Char → Prop where
  /-- As it is, unless it is a quote or a backslash. -/
  | plain {c : Char} (h : c ≠ '"' ∧ c ≠ '\\') : Encodes [c] c
  /-- With a backslash in front of it, unless it is a letter that then means something else. -/
  | backslash {c : Char} (h : c ∉ ['b', 'f', 'n', 'r', 't', 'u']) : Encodes ['\\', c] c
  /-- By the letter that is short for it. -/
  | short {e c : Char} (h : (e, c) ∈ shortEscapes) : Encodes ['\\', e] c
  /-- By its code, in four digits. -/
  | code {digits : List Char} {c : Char} (h : HexFour digits c.toNat) :
    Encodes ('\\' :: 'u' :: digits) c
  /-- By the halves of its code, if four digits do not suffice. The high half counts the thousands
  of its code, each of 1024, and the low half what is left over. -/
  | pair {highs lows : List Char} {c : Char} (hc : 0x10000 ≤ c.toNat)
      (hhighs : HexFour highs (0xD800 + (c.toNat - 0x10000) / 0x400))
      (hlows : HexFour lows (0xDC00 + (c.toNat - 0x10000) % 0x400)) :
    Encodes ('\\' :: 'u' :: (highs ++ '\\' :: 'u' :: lows)) c

/-- How a text may be written between quotes: each of its characters in one of its forms. -/
inductive Encoded : List Char → List Char → Prop where
  /-- Nothing. -/
  | nil : Encoded [] []
  /-- A form of the first character, and the others behind it. -/
  | cons {form cs s : List Char} {c : Char} (h : Encodes form c) (hrest : Encoded cs s) :
    Encoded (form ++ cs) (c :: s)

/-- The digits of a half that is not joined by its other half, and what stands behind them. -/
inductive Unpaired : List Char → Prop where
  /-- A low half, which has no high one in front of it. -/
  | low {digits rest : List Char} {n : Nat} (h : HexFour digits n)
      (hn : 0xDC00 ≤ n ∧ n < 0xE000) : Unpaired (digits ++ rest)
  /-- A high half, with no low one behind it. -/
  | high {digits rest : List Char} {n : Nat} (h : HexFour digits n)
      (hn : 0xD800 ≤ n ∧ n < 0xDC00)
      (hrest : ∀ lows after low, HexFour lows low → 0xDC00 ≤ low ∧ low < 0xE000 →
        rest ≠ '\\' :: 'u' :: (lows ++ after)) : Unpaired (digits ++ rest)

variable {c d : Char} {cs rest es s form : List Char} {n high low : Nat}

/-! ### Halves and characters -/

/-- The code of a character is no half of one. -/
theorem isValidChar_toNat (c : Char) : c.toNat.isValidChar := c.valid

/-- The halves of a code give it back. -/
theorem pairedCode_halves (hc : 0x10000 ≤ c.toNat) :
    pairedCode (0xD800 + (c.toNat - 0x10000) / 0x400) (0xDC00 + (c.toNat - 0x10000) % 0x400) =
      c.toNat := by
  unfold pairedCode
  omega

/-- A high half and a low one are the halves of one code. -/
theorem halves_pairedCode (hhigh : 0xD800 ≤ high ∧ high < 0xDC00)
    (hlow : 0xDC00 ≤ low ∧ low < 0xE000) :
    0x10000 ≤ pairedCode high low ∧ (pairedCode high low).isValidChar ∧
      0xD800 + (pairedCode high low - 0x10000) / 0x400 = high ∧
      0xDC00 + (pairedCode high low - 0x10000) % 0x400 = low := by
  unfold pairedCode Nat.isValidChar
  omega

theorem toNat_ofNat (h : n.isValidChar) : (Char.ofNat n).toNat = n := by
  rw [Char.ofNat, dif_pos h]
  rfl

/-! ### The forms are what decodes -/

/-- The letters that mean something else behind a backslash. -/
theorem not_mem_letters_iff :
    c ∉ ['b', 'f', 'n', 'r', 't', 'u'] ↔ c ≠ 'u' ∧ ∀ e ∈ shortEscapes, c ≠ e.1 := by
  have hletters : ['b', 'f', 'n', 'r', 't', 'u'] = shortEscapes.map Prod.fst ++ ['u'] := rfl
  rw [hletters, List.mem_append, List.mem_singleton, List.mem_map, not_or, and_comm]
  refine and_congr_right fun _ ↦ ⟨fun h e he heq ↦ h ⟨e, he, heq.symm⟩, ?_⟩
  rintro h ⟨e, he, heq⟩
  exact h e he heq.symm

theorem escaped_of_pair (hc : 0x10000 ≤ c.toNat) {highs lows : List Char}
    (hhighs : HexFour highs (0xD800 + (c.toNat - 0x10000) / 0x400))
    (hlows : HexFour lows (0xDC00 + (c.toNat - 0x10000) % 0x400)) :
    Escaped ('u' :: (highs ++ '\\' :: 'u' :: lows)) c := by
  have hlt : c.toNat < 0x110000 := by
    have hvalid := isValidChar_toNat c
    unfold Nat.isValidChar at hvalid
    omega
  have hpair := Escaped.pair hhighs (by omega) hlows (by omega)
  have hcode := pairedCode_halves hc
  unfold pairedCode at hcode
  rwa [hcode, Char.ofNat_toNat] at hpair

theorem encodes_of_escaped (h : Escaped es d) : Encodes ('\\' :: es) d := by
  cases h with
  | short h => exact .short h
  | @code digits n hdigits hn =>
    rw [← toNat_ofNat hn] at hdigits
    exact .code hdigits
  | @pair highs lows high low hhighs hhigh hlows hlow =>
    obtain ⟨hlarge, hvalid, hfirst, hsecond⟩ := halves_pairedCode hhigh hlow
    rw [← toNat_ofNat hvalid] at hlarge hfirst hsecond
    rw [← hfirst] at hhighs
    rw [← hsecond] at hlows
    exact .pair hlarge hhighs hlows
  | self h => exact .backslash (not_mem_letters_iff.2 h)

/-- A character stands for itself, or a backslash escapes it. -/
theorem encodes_iff :
    Encodes form c ↔
      form = [c] ∧ ¬(c = '"' ∨ c = '\\') ∨ ∃ es, form = '\\' :: es ∧ Escaped es c := by
  constructor
  · rintro (h | h | h | h | ⟨hc, hhighs, hlows⟩)
    · exact .inl ⟨rfl, not_or.2 h⟩
    · exact .inr ⟨_, rfl, .self (not_mem_letters_iff.1 h)⟩
    · exact .inr ⟨_, rfl, .short h⟩
    · have hcode := Escaped.code h (isValidChar_toNat c)
      rw [Char.ofNat_toNat] at hcode
      exact .inr ⟨_, rfl, hcode⟩
    · exact .inr ⟨_, rfl, escaped_of_pair hc hhighs hlows⟩
  · rintro (⟨rfl, h⟩ | ⟨es, rfl, h⟩)
    · exact .plain (not_or.1 h)
    · exact encodes_of_escaped h

/-- **A text is written in one of its forms exactly if it is decoded.** -/
theorem encoded_iff_decodes : Encoded cs s ↔ Decodes cs s := by
  constructor
  · intro h
    induction h with
    | nil => exact .nil
    | cons hform _ ih =>
      obtain ⟨rfl, hplain⟩ | ⟨es, rfl, hescaped⟩ := encodes_iff.1 hform
      · exact .plain hplain ih
      · exact .escaped hescaped ih
  · intro h
    induction h with
    | nil => exact .nil
    | plain hplain _ ih => exact .cons (encodes_iff.2 (.inl ⟨rfl, hplain⟩)) ih
    | escaped hescaped _ ih => exact .cons (encodes_iff.2 (.inr ⟨_, rfl, hescaped⟩)) ih

/-! ### Halves that stand alone -/

/-- A half that stands alone gives no character. -/
theorem readCodePoint_of_unpaired (h : Unpaired cs) : ∃ cause, readCodePoint cs = .error cause := by
  cases h with
  | @low digits rest n hdigits hn =>
    have hhigh : ¬isHighSurrogate n = true := by
      rw [isHighSurrogate_iff]
      omega
    refine ⟨.badCodePoint, ?_⟩
    rw [readCodePoint, readHexFour_eq_some_iff.2 ⟨digits, hdigits, rfl⟩]
    dsimp only
    rw [if_neg hhigh, if_pos (isLowSurrogate_iff.2 hn)]
  | @high digits rest n hdigits hn hrest =>
    rw [readCodePoint, readHexFour_eq_some_iff.2 ⟨digits, hdigits, rfl⟩]
    dsimp only
    rw [if_pos (isHighSurrogate_iff.2 hn)]
    split
    · next behind =>
      split
      · exact ⟨_, rfl⟩
      · next low after hlow =>
        obtain ⟨lows, hlows, rfl⟩ := readHexFour_eq_some_iff.1 hlow
        have hrange : ¬isLowSurrogate low = true := by
          rw [isLowSurrogate_iff]
          exact fun hrange ↦ hrest lows after low hlows hrange rfl
        rw [if_neg hrange]
        exact ⟨_, rfl⟩
    · exact ⟨_, rfl⟩

/-- A text cannot be read on where a backslash escapes nothing. -/
theorem readQuotedFrom_of_unescape_error {decoded : List Char} {e : Char} {cause : QuotedError}
    (h : unescape e rest = .error cause) :
    readQuotedFrom decoded ('\\' :: e :: rest) = .error cause := by
  rw [readQuotedFrom.eq_def]
  simp only [if_pos, if_neg (show '\\' ≠ '"' by decide)]
  split
  · next hread =>
    rw [h] at hread
    cases hread
    rfl
  · next hread =>
    rw [h] at hread
    cases hread

/-- **A half that stands alone cannot be read**, whatever has been read before. -/
theorem readQuoted_of_unpaired (h : Encoded cs s) (hes : Unpaired es) :
    ∃ cause, readQuoted (cs ++ '\\' :: 'u' :: es) = .error cause := by
  obtain ⟨cause, hcause⟩ := readCodePoint_of_unpaired hes
  refine ⟨cause, ?_⟩
  rw [readQuoted, readQuotedFrom_append (encoded_iff_decodes.1 h)]
  exact readQuotedFrom_of_unescape_error hcause

/-- **A text is read back from any of its forms**, and nothing else is read. -/
theorem readQuoted_eq_ok_iff_encoded {t : String} :
    readQuoted cs = .ok (t, rest) ↔ ∃ body, Encoded body t.toList ∧ cs = body ++ '"' :: rest := by
  simp only [readQuoted_eq_ok_iff, encoded_iff_decodes]

end RecordStore.Text
