import RecordStore.Text.Escape

/-!
# What may stand between quotes

The grammar of quoted texts: characters that stand for themselves, and a backslash with what it
escapes (`Decodes`). A short escape is one of five letters. The letter `u` has four hexadecimal
digits behind it, of which each counts a sixteenth of the one before; their number is a character, or
it is a high surrogate and the escape of a low one follows. Whatever else is escaped stands for
itself.

Reading a quoted text takes exactly this off the front, up to the closing quote
(`readQuoted_eq_ok_iff`).
-/

namespace RecordStore.Text

/-! ### The grammar -/

/-- The letters of the short escapes, and what they stand for. -/
def shortEscapes : List (Char × Char) :=
  [('b', '\x08'), ('f', '\x0c'), ('n', '\n'), ('r', '\r'), ('t', '\t')]

/-- The hexadecimal digits with their values. -/
def hexDigits : List (Char × Nat) :=
  "0123456789".toList.zipIdx ++ "abcdef".toList.zipIdx 10 ++ "ABCDEF".toList.zipIdx 10

/-- Four hexadecimal digits, and their number. -/
inductive HexFour : List Char → Nat → Prop where
  /-- The digits in their places. -/
  | mk {a b c d : Char} {x y z w : Nat} (ha : (a, x) ∈ hexDigits) (hb : (b, y) ∈ hexDigits)
      (hc : (c, z) ∈ hexDigits) (hd : (d, w) ∈ hexDigits) :
    HexFour [a, b, c, d] (x * 0x1000 + y * 0x100 + z * 0x10 + w)

/-- What stands behind a backslash, and the character that it stands for. -/
inductive Escaped : List Char → Char → Prop where
  /-- A short escape. -/
  | short {e d : Char} (h : (e, d) ∈ shortEscapes) : Escaped [e] d
  /-- The number of a character. -/
  | code {digits : List Char} {n : Nat} (h : HexFour digits n) (hn : n.isValidChar) :
    Escaped ('u' :: digits) (Char.ofNat n)
  /-- A pair of surrogates. -/
  | pair {highs lows : List Char} {high low : Nat} (hhighs : HexFour highs high)
      (hhigh : 0xD800 ≤ high ∧ high < 0xDC00) (hlows : HexFour lows low)
      (hlow : 0xDC00 ≤ low ∧ low < 0xE000) :
    Escaped ('u' :: (highs ++ '\\' :: 'u' :: lows))
      (Char.ofNat (0x10000 + (high - 0xD800) * 0x400 + (low - 0xDC00)))
  /-- Any other character. -/
  | self {c : Char} (h : c ≠ 'u' ∧ ∀ e ∈ shortEscapes, c ≠ e.1) : Escaped [c] c

/-- What stands between quotes, and the characters that it stands for. -/
inductive Decodes : List Char → List Char → Prop where
  /-- Nothing. -/
  | nil : Decodes [] []
  /-- A character that stands for itself. -/
  | plain {c : Char} {cs s : List Char} (h : ¬(c = '"' ∨ c = '\\')) (hrest : Decodes cs s) :
    Decodes (c :: cs) (c :: s)
  /-- A backslash and what it escapes. -/
  | escaped {es cs s : List Char} {d : Char} (h : Escaped es d) (hrest : Decodes cs s) :
    Decodes ('\\' :: (es ++ cs)) (d :: s)

variable {c d e : Char} {cs rest after es s : List Char} {n : Nat}

/-! ### Hexadecimal digits -/

theorem hexDigit?_eq_some_iff : hexDigit? c = some n ↔ (c, n) ∈ hexDigits := by
  constructor
  · intro h
    -- each range of the reader's is a run of digits, which are told apart by their codes
    have hdigit : ∀ k < 128, ∀ n, hexDigit? (Char.ofNat k) = some n → (Char.ofNat k, n) ∈ hexDigits := by
      intro k hk n hn
      have hall : ∀ k < 128, ∀ n ∈ hexDigit? (Char.ofNat k), (Char.ofNat k, n) ∈ hexDigits := by
        decide +kernel
      exact hall k hk n hn
    have hcode : c.toNat < 128 := by
      unfold hexDigit? at h
      simp only [Char.le_def, UInt32.le_iff_toNat_le] at h
      split at h
      · next hc => exact Nat.lt_of_le_of_lt hc.2 (by decide)
      split at h
      · next hc => exact Nat.lt_of_le_of_lt hc.2 (by decide)
      split at h
      · next hc => exact Nat.lt_of_le_of_lt hc.2 (by decide)
      · cases h
    have hmem := hdigit c.toNat hcode n
    rw [Char.ofNat_toNat] at hmem
    exact hmem h
  · have hall : ∀ e ∈ hexDigits, hexDigit? e.1 = some e.2 := by decide +kernel
    exact hall (c, n)

theorem HexFour.lt (h : HexFour cs n) : n < 0x10000 := by
  obtain @⟨_, _, _, _, x, y, z, w, ha, hb, hc, hd⟩ := h
  have hdigit : ∀ e ∈ hexDigits, e.2 < 16 := by decide +kernel
  have hx := hdigit _ ha
  have hy := hdigit _ hb
  have hz := hdigit _ hc
  have hw := hdigit _ hd
  simp only at hx hy hz hw
  omega

theorem readHexFour_eq_some_iff :
    readHexFour cs = some (n, rest) ↔ ∃ digits, HexFour digits n ∧ cs = digits ++ rest := by
  constructor
  · intro h
    unfold readHexFour at h
    split at h
    · next a b c d rest =>
      split at h
      · next ha hb hc hd =>
        cases h
        have hnumber := HexFour.mk (hexDigit?_eq_some_iff.1 ha) (hexDigit?_eq_some_iff.1 hb)
          (hexDigit?_eq_some_iff.1 hc) (hexDigit?_eq_some_iff.1 hd)
        refine ⟨[a, b, c, d], ?_, rfl⟩
        refine cast (congrArg (HexFour _) ?_) hnumber
        omega
      · cases h
    · cases h
  · rintro ⟨digits, ⟨ha, hb, hc, hd⟩, rfl⟩
    rw [← hexDigit?_eq_some_iff] at ha hb hc hd
    simp only [List.cons_append, List.nil_append, readHexFour, ha, hb, hc, hd, Option.some.injEq,
      Prod.mk.injEq, and_true]
    omega

/-! ### What a backslash escapes -/

theorem isHighSurrogate_iff : isHighSurrogate n = true ↔ 0xD800 ≤ n ∧ n < 0xDC00 := by
  simp [isHighSurrogate]

theorem isLowSurrogate_iff : isLowSurrogate n = true ↔ 0xDC00 ≤ n ∧ n < 0xE000 := by
  simp [isLowSurrogate]

/-- Four digits give a character if they give no surrogate. -/
theorem HexFour.isValidChar_iff (h : HexFour cs n) :
    n.isValidChar ↔ isHighSurrogate n = false ∧ isLowSurrogate n = false := by
  have hlt := h.lt
  rw [Bool.eq_false_iff, Bool.eq_false_iff, Ne, Ne, isHighSurrogate_iff, isLowSurrogate_iff,
    Nat.isValidChar]
  omega

theorem escaped_of_readCodePoint (h : readCodePoint cs = .ok (d, rest)) :
    ∃ es, Escaped ('u' :: es) d ∧ cs = es ++ rest := by
  unfold readCodePoint at h
  split at h
  · cases h
  next code after hcode =>
  obtain ⟨digits, hdigits, rfl⟩ := readHexFour_eq_some_iff.1 hcode
  split at h
  · next hhigh =>
    split at h
    · next behind =>
      split at h
      · cases h
      next low after hlowCode =>
      obtain ⟨lows, hlows, rfl⟩ := readHexFour_eq_some_iff.1 hlowCode
      split at h
      · next hlow =>
        rw [Except.ok.injEq, Prod.mk.injEq] at h
        obtain ⟨rfl, rfl⟩ := h
        refine ⟨digits ++ '\\' :: 'u' :: lows, .pair hdigits (isHighSurrogate_iff.1 hhigh) hlows
          (isLowSurrogate_iff.1 hlow), ?_⟩
        rw [List.append_assoc, List.cons_append, List.cons_append]
      · cases h
    · cases h
  · next hhigh =>
    split at h
    · cases h
    · next hlow =>
      cases h
      rw [Bool.not_eq_true] at hhigh hlow
      exact ⟨digits, .code hdigits (hdigits.isValidChar_iff.2 ⟨hhigh, hlow⟩), rfl⟩

theorem readCodePoint_of_escaped (h : Escaped ('u' :: es) d) (rest : List Char) :
    readCodePoint (es ++ rest) = .ok (d, rest) := by
  generalize hcons : 'u' :: es = us at h
  cases h with
  | short h =>
    cases hcons
    exact absurd h (by simp [shortEscapes])
  | @code digits n hdigits hn =>
    cases hcons
    obtain ⟨hhigh, hlow⟩ := hdigits.isValidChar_iff.1 hn
    rw [readCodePoint, readHexFour_eq_some_iff.2 ⟨es, hdigits, rfl⟩]
    simp [hhigh, hlow]
  | @pair highs lows high low hhighs hhigh hlows hlow =>
    cases hcons
    have hfirst : readHexFour (highs ++ '\\' :: 'u' :: lows ++ rest) =
        some (high, '\\' :: 'u' :: (lows ++ rest)) :=
      readHexFour_eq_some_iff.2 ⟨highs, hhighs, by simp⟩
    have hsecond : readHexFour (lows ++ rest) = some (low, rest) :=
      readHexFour_eq_some_iff.2 ⟨lows, hlows, rfl⟩
    show _ = Except.ok (Char.ofNat (pairedCode high low), rest)
    rw [readCodePoint, hfirst]
    simp only [isHighSurrogate_iff.2 hhigh, hsecond, isLowSurrogate_iff.2 hlow, if_true]
  | self h =>
    cases hcons
    exact absurd rfl h.1

theorem readCodePoint_eq_ok_iff :
    readCodePoint cs = .ok (d, rest) ↔ ∃ es, Escaped ('u' :: es) d ∧ cs = es ++ rest := by
  refine ⟨escaped_of_readCodePoint, ?_⟩
  rintro ⟨es, h, rfl⟩
  exact readCodePoint_of_escaped h rest

/-- A backslash escapes the one character behind it, unless that is `u`. -/
theorem escaped_cons_iff (hu : e ≠ 'u') :
    Escaped (e :: es) d ↔
      es = [] ∧ ((e, d) ∈ shortEscapes ∨ d = e ∧ ∀ x ∈ shortEscapes, e ≠ x.1) := by
  constructor
  · generalize hcons : e :: es = us
    intro h
    cases h with
    | short h =>
      obtain ⟨rfl, rfl⟩ := List.cons.inj hcons
      exact ⟨rfl, .inl h⟩
    | code | pair => exact absurd (List.cons.inj hcons).1 hu
    | self h =>
      obtain ⟨rfl, rfl⟩ := List.cons.inj hcons
      exact ⟨rfl, .inr ⟨rfl, h.2⟩⟩
  · rintro ⟨rfl, h | ⟨rfl, h⟩⟩
    · exact .short h
    · exact .self ⟨hu, h⟩

theorem unescape_of_short (h : (e, d) ∈ shortEscapes) : unescape e cs = .ok (d, cs) := by
  simp only [shortEscapes, List.mem_cons, Prod.mk.injEq, List.not_mem_nil, or_false] at h
  obtain ⟨rfl, rfl⟩ | ⟨rfl, rfl⟩ | ⟨rfl, rfl⟩ | ⟨rfl, rfl⟩ | ⟨rfl, rfl⟩ := h <;> rfl

theorem unescape_of_self (hu : e ≠ 'u') (h : ∀ x ∈ shortEscapes, e ≠ x.1) :
    unescape e cs = .ok (e, cs) := by
  simp only [shortEscapes, List.forall_mem_cons] at h
  obtain ⟨hb, hf, hn, hr, ht, -⟩ := h
  rw [unescape, if_neg hb, if_neg hf, if_neg hn, if_neg hr, if_neg ht, if_neg hu]

theorem unescape_eq_ok_iff :
    unescape e cs = .ok (d, rest) ↔ ∃ es, Escaped (e :: es) d ∧ cs = es ++ rest := by
  by_cases hu : e = 'u'
  · subst hu
    exact readCodePoint_eq_ok_iff
  simp only [escaped_cons_iff hu, and_assoc, exists_eq_left, List.nil_append]
  by_cases hshort : ∃ x ∈ shortEscapes, e = x.1
  · obtain ⟨⟨_, d'⟩, hd', rfl⟩ := hshort
    have hfunctional : ∀ x ∈ shortEscapes, ∀ y ∈ shortEscapes, x.1 = y.1 → x.2 = y.2 := by decide
    have honly : (e, d) ∈ shortEscapes ∨ d = e ∧ (∀ x ∈ shortEscapes, e ≠ x.1) ↔ d' = d := by
      constructor
      · rintro (h | ⟨-, h⟩)
        · exact hfunctional _ hd' _ h rfl
        · exact absurd rfl (h _ hd')
      · rintro rfl
        exact .inl hd'
    rw [unescape_of_short hd', honly, Except.ok.injEq, Prod.mk.injEq]
  · have hnone : ∀ x ∈ shortEscapes, e ≠ x.1 := fun x hx heq ↦ hshort ⟨x, hx, heq⟩
    have honly : (e, d) ∈ shortEscapes ∨ d = e ∧ (∀ x ∈ shortEscapes, e ≠ x.1) ↔ e = d := by
      constructor
      · rintro (h | ⟨h, -⟩)
        · exact absurd rfl (hnone _ h)
        · exact h.symm
      · rintro rfl
        exact .inr ⟨rfl, hnone⟩
    rw [unescape_of_self hu hnone, honly, Except.ok.injEq, Prod.mk.injEq]

/-! ### Reading to the closing quote -/

variable {decoded : List Char}

theorem readQuotedFrom_quote :
    readQuotedFrom decoded ('"' :: rest) = .ok (String.ofList decoded.reverse, rest) := by
  rw [readQuotedFrom.eq_def]
  rfl

theorem readQuotedFrom_plain (h : ¬(c = '"' ∨ c = '\\')) :
    readQuotedFrom decoded (c :: rest) = readQuotedFrom (c :: decoded) rest := by
  rw [not_or] at h
  rw [readQuotedFrom.eq_def]
  simp only [if_neg h.1, if_neg h.2]

theorem readQuotedFrom_backslash (h : unescape e rest = .ok (d, after)) :
    readQuotedFrom decoded ('\\' :: e :: rest) = readQuotedFrom (d :: decoded) after := by
  rw [readQuotedFrom.eq_def]
  simp only [if_pos, if_neg (show '\\' ≠ '"' by decide)]
  split
  · next hread =>
    rw [h] at hread
    cases hread
  · next hread =>
    rw [h] at hread
    cases hread
    rfl

/-- What decodes is read before what stands behind it. -/
theorem readQuotedFrom_append (h : Decodes cs s) (decoded rest : List Char) :
    readQuotedFrom decoded (cs ++ rest) = readQuotedFrom (s.reverse ++ decoded) rest := by
  induction h generalizing decoded with
  | nil => rfl
  | plain hc _ ih =>
    rw [List.cons_append, readQuotedFrom_plain hc, ih, List.reverse_cons, List.append_assoc,
      List.singleton_append]
  | @escaped es cs s d hes _ ih =>
    cases es with
    | nil => cases hes
    | cons e es =>
      have hunescape : unescape e (es ++ (cs ++ rest)) = .ok (d, cs ++ rest) :=
        unescape_eq_ok_iff.2 ⟨es, hes, rfl⟩
      rw [List.cons_append, List.cons_append, List.cons_append, List.append_assoc,
        readQuotedFrom_backslash hunescape, ih, List.reverse_cons, List.append_assoc,
        List.singleton_append]

theorem readQuotedFrom_of_decodes (h : Decodes cs s) (decoded : List Char) :
    readQuotedFrom decoded (cs ++ '"' :: rest) =
      .ok (String.ofList (decoded.reverse ++ s), rest) := by
  rw [readQuotedFrom_append h, readQuotedFrom_quote, List.reverse_append, List.reverse_reverse]

theorem decodes_of_readQuotedFrom {t : String}
    (h : readQuotedFrom decoded cs = .ok (t, rest)) :
    ∃ body s, Decodes body s ∧ t = String.ofList (decoded.reverse ++ s) ∧
      cs = body ++ '"' :: rest := by
  fun_induction readQuotedFrom decoded cs with
  | case1 => cases h
  | case2 decoded rest' =>
    cases h
    exact ⟨[], [], .nil, by rw [List.append_nil], rfl⟩
  | case3 => cases h
  | case4 => cases h
  | case5 decoded e behind d after hunescape hne ih =>
    obtain ⟨es, hes, rfl⟩ := unescape_eq_ok_iff.1 hunescape
    obtain ⟨body, s, hbody, rfl, rfl⟩ := ih h
    refine ⟨'\\' :: (e :: es ++ body), d :: s, .escaped hes hbody, ?_, ?_⟩
    · rw [List.reverse_cons, List.append_assoc, List.singleton_append]
    · rw [List.cons_append, List.cons_append, List.cons_append, List.append_assoc]
  | case6 decoded c behind hquote hbackslash ih =>
    obtain ⟨body, s, hbody, rfl, rfl⟩ := ih h
    refine ⟨c :: body, c :: s, .plain (by simp [hquote, hbackslash]) hbody, ?_, rfl⟩
    rw [List.reverse_cons, List.append_assoc, List.singleton_append]

/-- **The texts between quotes**: a text is read up to the closing quote exactly if it decodes, and
it is read as what it decodes to. -/
theorem readQuoted_eq_ok_iff {t : String} :
    readQuoted cs = .ok (t, rest) ↔ ∃ body, Decodes body t.toList ∧ cs = body ++ '"' :: rest := by
  constructor
  · intro h
    obtain ⟨body, s, hbody, rfl, rfl⟩ := decodes_of_readQuotedFrom h
    exact ⟨body, by simpa using hbody, rfl⟩
  · rintro ⟨body, hbody, rfl⟩
    rw [readQuoted, readQuotedFrom_of_decodes hbody, List.reverse_nil, List.nil_append,
      String.ofList_toList]

/-! ### Quoted texts that are cut off -/

variable {more : List Char}

theorem HexFour.space_not_mem (h : HexFour cs n) : ' ' ∉ cs := by
  have hdigits : ∀ x ∈ hexDigits, x.1 ≠ ' ' := by decide
  cases h with
  | mk ha hb hc hd =>
    have ha := hdigits _ ha
    have hb := hdigits _ hb
    have hc := hdigits _ hc
    have hd := hdigits _ hd
    simp [ha.symm, hb.symm, hc.symm, hd.symm]

/-- A blank that is escaped stands right behind the backslash. -/
theorem Escaped.space_not_mem (h : Escaped (e :: es) d) : ' ' ∉ es := by
  generalize hcons : e :: es = us at h
  cases h with
  | short | self =>
    rw [(List.cons.inj hcons).2]
    exact List.not_mem_nil
  | code hdigits =>
    rw [(List.cons.inj hcons).2]
    exact hdigits.space_not_mem
  | pair hhighs _ hlows =>
    rw [(List.cons.inj hcons).2]
    simp [hhighs.space_not_mem, hlows.space_not_mem]

/-- What is cut off before a blank is not closed. -/
theorem unterminated_of_decodes (h : Decodes (cs ++ ' ' :: more) s) (decoded : List Char) :
    ∃ t, readQuotedFrom decoded cs = .error (.unterminated t) := by
  generalize hbody : cs ++ ' ' :: more = body at h
  induction h generalizing cs decoded with
  | nil => exact absurd hbody (by simp)
  | plain hc _ ih =>
    cases cs with
    | nil => exact ⟨_, by rw [readQuotedFrom.eq_def]⟩
    | cons c cs =>
      obtain ⟨rfl, hrest⟩ := List.cons.inj hbody
      rw [readQuotedFrom_plain hc]
      exact ih _ hrest
  | @escaped es behind s d hes _ ih =>
    cases cs with
    | nil => exact ⟨_, by rw [readQuotedFrom.eq_def]⟩
    | cons c cs =>
      obtain ⟨rfl, hescape⟩ := List.cons.inj hbody
      obtain ⟨e, es, rfl⟩ := List.exists_cons_of_ne_nil (show es ≠ [] by rintro rfl; cases hes)
      cases cs with
      | nil => exact ⟨_, by rw [readQuotedFrom.eq_def]; rfl⟩
      | cons c cs =>
        obtain ⟨rfl, hcut⟩ := List.cons.inj hescape
        obtain ⟨after, rfl, hafter⟩ : ∃ after, cs = es ++ after ∧ after ++ ' ' :: more = behind := by
          obtain ⟨as, rfl, hmore⟩ | ⟨as, rfl, hmore⟩ := List.append_eq_append_iff.1 hcut
          · cases as with
            | nil => exact ⟨[], by simp, hmore⟩
            | cons a as =>
              obtain ⟨rfl, -⟩ := List.cons.inj hmore
              exact absurd (List.mem_append_right _ List.mem_cons_self) hes.space_not_mem
          · exact ⟨as, rfl, hmore.symm⟩
        have hunescape : unescape c (es ++ after) = .ok (d, after) :=
          unescape_eq_ok_iff.2 ⟨es, hes, rfl⟩
        rw [readQuotedFrom_backslash hunescape]
        exact ih _ hafter

/-- A quoted text is read in front of a blank as it is at the end, unless it is left open. -/
theorem toOption_readQuoted_append_space
    (h : ∀ decoded, readQuoted cs ≠ .error (.unterminated decoded)) (more : List Char) :
    (readQuoted (cs ++ ' ' :: more)).toOption =
      (readQuoted cs).toOption.map fun found ↦ (found.1, found.2 ++ ' ' :: more) := by
  cases hread : readQuoted cs with
  | ok found =>
    obtain ⟨t, after⟩ := found
    obtain ⟨body, hbody, rfl⟩ := readQuoted_eq_ok_iff.1 hread
    have happend : readQuoted (body ++ '"' :: after ++ ' ' :: more) = .ok (t, after ++ ' ' :: more) :=
      readQuoted_eq_ok_iff.2 ⟨body, hbody, List.append_assoc body ('"' :: after) (' ' :: more)⟩
    rw [happend]
    rfl
  | error cause =>
    cases happend : readQuoted (cs ++ ' ' :: more) with
    | error cause => rfl
    | ok found =>
      obtain ⟨t, after⟩ := found
      obtain ⟨body, hbody, hcut⟩ := readQuoted_eq_ok_iff.1 happend
      obtain ⟨as, rfl, hrest⟩ | ⟨as, rfl, hrest⟩ := List.append_eq_append_iff.1 hcut
      · cases as with
        | nil => cases hrest
        | cons a as =>
          obtain ⟨rfl, -⟩ := List.cons.inj hrest
          obtain ⟨decoded, hopen⟩ := unterminated_of_decodes hbody []
          exact absurd hopen (h decoded)
      · cases as with
        | nil => cases hrest
        | cons a as =>
          obtain ⟨rfl, -⟩ := List.cons.inj hrest
          cases hread.symm.trans (readQuoted_eq_ok_iff.2 ⟨body, hbody, rfl⟩)

end RecordStore.Text
