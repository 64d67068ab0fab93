import RecordStore.Proofs.Filter.Spelling
import RecordStore.Proofs.Text.Ascii

/-!
# Writing a filter anew

A filter that was read from a text can be written again: its tokens one after another, blanks between
them, with parentheses only where the grouping asks for them (`Filter.tokens`). Keywords and truth values
may be written in any case of their letters, and everything else is written as it was read, but for texts,
which have a backslash in front of quotes and backslashes (`Token.SpelledBy`). However this is done, the
filter is read back (`Filter.ofText_of_renders`).

Words are told apart by what is in them. That a word in capitals is the same keyword goes by the lower
case of ASCII words; that any other word is read as a token of the same sort is what `Token.Readable` says
of the tokens that have been read once.
-/

namespace RecordStore

open RecordStore.Text

namespace Token

variable {t : Token} {tokens : List Token} {cs rest blanks : List Char} {word : String}

/-- Tokens that are words and may be written in any case of their letters. -/
def anyCase : List Token := [and, or, includes, bool true, bool false]

/-- The word is a spelling of the token. -/
def SpelledBy (t : Token) (word : String) : Prop :=
  if t ∈ anyCase then equalsIgnoringAsciiCase word t.describe = true else word = t.spelling

instance (t : Token) (word : String) : Decidable (t.SpelledBy word) :=
  inferInstanceAs (Decidable (if t ∈ anyCase then _ else _))

/-- A keyword in any case of its letters is a word, and is read as the keyword. -/
theorem ofWord_of_equals (ht : t ∈ anyCase) (h : equalsIgnoringAsciiCase word t.describe = true) :
    IsWord word.toList ∧ ofWord word = t := by
  -- what is needed of the five words can be computed
  have hkeywords : ∀ t ∈ anyCase, keywords.lookup t.describe = some t ∧ t.describe.toList ≠ [] ∧
      t.describe.toList.all
        (fun c ↦ c.toNat < 128 && (c.toLower == c && (!isBlank c && c.isAlpha))) = true := by
    decide +kernel
  obtain ⟨hlookup, hne, hall⟩ := hkeywords t ht
  have hletters : ∀ c ∈ t.describe.toList,
      c.toNat < 128 ∧ c.toLower = c ∧ isBlank c = false ∧ c.isAlpha = true :=
    fun c hc ↦ by simpa using List.all_eq_true.1 hall c hc
  have hmap : word.toList.map Char.toLower = t.describe.toList.map Char.toLower := beq_iff_eq.1 h
  have hlower := (lowercase_of_equals h fun c hc ↦
    ⟨(hletters c hc).1, (hletters c hc).2.1, (hletters c hc).2.2.1⟩).1
  have hchars : ∀ c ∈ word.toList, endsWord c = false ∧ c ≠ '"' := by
    intro c hc
    obtain ⟨d, hd, hdc⟩ := List.mem_map.1 (hmap ▸ List.mem_map_of_mem hc)
    obtain ⟨hascii, hdlower, -, halpha⟩ := hletters d hd
    rw [hdlower] at hdc
    subst hdc
    have hcodes : ∀ n < 128, (Char.ofNat n).toLower.isAlpha = true →
        endsWord (Char.ofNat n) = false ∧ Char.ofNat n ≠ '"' := by decide +kernel
    exact of_code_lt (P := fun c ↦ c.toLower.isAlpha = true → endsWord c = false ∧ c ≠ '"') hcodes
      (ascii_of_toLower hascii) halpha
  constructor
  · refine ⟨fun hnil ↦ hne ?_, fun hhead ↦ ?_, fun c hc ↦ (hchars c hc).1⟩
    · rw [hnil, List.map_nil] at hmap
      exact List.map_eq_nil_iff.1 hmap.symm
    · exact (hchars _ (List.mem_of_head? hhead)).2 rfl
  · rw [ofWord, hlower, hlookup]

/-- **A token is taken off the front of any of its spellings**, if a blank follows or nothing. -/
theorem readToken_of_spelledBy (ht : t.Readable) (h : t.SpelledBy word)
    (hrest : ∀ c ∈ rest.head?, isBlank c = true) :
    ∃ c cs, word.toList ++ rest = c :: cs ∧ isBlank c = false ∧ readToken c cs = .ok (t, rest) := by
  unfold SpelledBy at h
  split at h
  · next hcase =>
    obtain ⟨hword, hread⟩ := ofWord_of_equals hcase h
    have hends : ∀ c ∈ rest.head?, endsWord c = true := fun c hc ↦ by
      rw [endsWord, hrest c hc]
      rfl
    have htoken := readToken_of_isWord hword hends
    rwa [String.ofList_toList, hread] at htoken
  · rw [h]
    exact readToken_of_readable ht (endsBefore_of_head t hrest)

/-- Each token has a spelling. -/
theorem spelledBy_spelling (t : Token) : t.SpelledBy t.spelling := by
  unfold SpelledBy
  split
  · next hcase =>
    have hkeywords : ∀ t ∈ anyCase, equalsIgnoringAsciiCase t.spelling t.describe = true := by
      decide +kernel
    exact hkeywords t hcase
  · rfl

/-- The characters are spellings of the tokens, one after another, with blanks between any two of
them. -/
inductive Renders : List Token → List Char → Prop where
  /-- A single token. -/
  | one {t : Token} (word : String) (h : t.SpelledBy word) : Renders [t] word.toList
  /-- A token, blanks, and the tokens behind them. -/
  | cons {t : Token} {tokens : List Token} {rest : List Char} (word : String) (blanks : List Char)
      (h : t.SpelledBy word) (hblanks : Blanks blanks) (hne : blanks ≠ [])
      (hrest : Renders tokens rest) : Renders (t :: tokens) (word.toList ++ (blanks ++ rest))

/-- **What is rendered is read**, with blanks in front of it or without. -/
theorem readAll_of_renders (htokens : ∀ t ∈ tokens, t.Readable) (h : Renders tokens cs)
    (hblanks : Blanks blanks) : readAll (blanks ++ cs) = .ok (tokens ++ [finish]) := by
  induction h generalizing blanks with
  | @one t word h =>
    have ht := htokens t List.mem_cons_self
    have hend : ∀ c ∈ ([] : List Char).head?, isBlank c = true := fun c hc ↦ by cases hc
    obtain ⟨c, cs, hcons, hblank, htoken⟩ := readToken_of_spelledBy ht h hend
    rw [List.append_nil] at hcons
    have hskip : skipBlanks (blanks ++ word.toList) = c :: cs := by
      rw [skipBlanks_append hblanks, hcons, skipBlanks_of_not_isBlank hblank]
    rw [readAll_of_readToken hskip htoken, readAll_of_blank skipBlanks_nil]
    rfl
  | @cons t tokens rest word gap h hgap hne hrest ih =>
    obtain ⟨ht, htokens⟩ := List.forall_mem_cons.1 htokens
    have hhead : ∀ c ∈ (gap ++ rest).head?, isBlank c = true := by
      obtain ⟨d, ds, rfl⟩ := List.exists_cons_of_ne_nil hne
      intro c hc
      cases hc
      exact hgap d List.mem_cons_self
    obtain ⟨c, cs, hcons, hblank, htoken⟩ := readToken_of_spelledBy ht h hhead
    have hskip : skipBlanks (blanks ++ (word.toList ++ (gap ++ rest))) = c :: cs := by
      rw [skipBlanks_append hblanks, hcons, skipBlanks_of_not_isBlank hblank]
    rw [readAll_of_readToken hskip htoken, ih htokens hgap]
    rfl

theorem exists_renders (h : tokens ≠ []) : ∃ cs, Renders tokens cs := by
  induction tokens with
  | nil => exact absurd rfl h
  | cons t tokens ih =>
    cases tokens with
    | nil => exact ⟨_, .one t.spelling t.spelledBy_spelling⟩
    | cons next tokens =>
      obtain ⟨cs, hcs⟩ := ih (List.cons_ne_nil _ _)
      exact ⟨_, .cons t.spelling [' '] t.spelledBy_spelling blanks_space (List.cons_ne_nil _ _) hcs⟩

end Token

namespace Filter

variable {filter : Filter} {text : String}

/-- The text writes the filter: its tokens, with blanks between them. -/
def Renders (filter : Filter) (text : String) : Prop := Token.Renders filter.tokens text.toList

theorem tokens_ne_nil (filter : Filter) : filter.tokens ≠ [] := by
  cases filter with
  | comparison => exact List.cons_ne_nil _ _
  | and | or => exact List.append_ne_nil_of_right_ne_nil _ (List.cons_ne_nil _ _)

/-- **A filter is read back however it is written.** A filter that was read from a text can be written
anew, and is read from each text that writes it: with any blanks between its tokens, with keywords and
truth values in any case of their letters, names, numerals and other words as they are, texts between
quotes with a backslash in front of quotes and backslashes, and parentheses around an `or` in an `and`
and around a right side of the same form as the filter, and nowhere else. -/
theorem ofText_of_renders (h : ofText text = .ok filter) :
    (∃ other, filter.Renders other) ∧ ∀ other, filter.Renders other → ofText other = .ok filter := by
  constructor
  · obtain ⟨cs, hcs⟩ := Token.exists_renders filter.tokens_ne_nil
    exact ⟨String.ofList cs, by rwa [Renders, String.toList_ofList]⟩
  · intro other hother
    have hreadable := readable_of_mem_tokens fun x hx ↦ readable_of_ofText h hx
    have hread := Token.readAll_of_renders hreadable hother blanks_nil
    rw [ofText, Token.ofText, ← List.nil_append other.toList, hread]
    exact ofTokens_tokens filter

/-- A filter written closely, and the same one in capitals, with a line break in it. -/
theorem ofText_of_renders_capitals :
    let filter := Filter.and (.comparison (.name "a") .equal (.bool true))
      (.or (.comparison (.name "b") .includes (.quoted "x\""))
        (.comparison (.name "c") .lessEqual (.number "2.0")))
    let other := "a = TRUE AnD\n( b INCLUDE \"x\\\"\" oR c <= 2.0 )"
    ofText "a=True and(b include \"\\u0078\\\"\"or c<=2.0)" = .ok filter ∧ filter.Renders other ∧
      ofText other = .ok filter := by
  intro filter other
  have hread : ofText "a=True and(b include \"\\u0078\\\"\"or c<=2.0)" = .ok filter := by
    decide +kernel
  have hspaced {t : Token} {tokens : List Token} {rest : List Char} (word : String)
      (h : t.SpelledBy word) (hrest : Token.Renders tokens rest) :
      Token.Renders (t :: tokens) (word.toList ++ ([' '] ++ rest)) :=
    .cons word [' '] h blanks_space (List.cons_ne_nil _ _) hrest
  have hbreak : Blanks ['\n'] := fun c hc ↦ by
    rw [List.mem_singleton.1 hc]
    decide
  obtain ⟨front, hfront, hchars⟩ : ∃ cs, Token.Renders [.open, .name "b", .includes, .quoted "x\"", .or,
      .name "c", .operator .lessEqual, .number "2.0", .close] cs ∧
      cs = "( b INCLUDE \"x\\\"\" oR c <= 2.0 )".toList :=
    ⟨_, hspaced "(" (by decide +kernel) <| hspaced "b" (by decide +kernel) <|
      hspaced "INCLUDE" (by decide +kernel) <| hspaced "\"x\\\"\"" (by decide +kernel) <|
      hspaced "oR" (by decide +kernel) <| hspaced "c" (by decide +kernel) <|
      hspaced "<=" (by decide +kernel) <| hspaced "2.0" (by decide +kernel) <|
      .one ")" (by decide +kernel), by decide +kernel⟩
  obtain ⟨cs, hcs, hother⟩ : ∃ cs, Token.Renders filter.tokens cs ∧ cs = other.toList :=
    ⟨_, hspaced "a" (by decide +kernel) <| hspaced "=" (by decide +kernel) <|
      hspaced "TRUE" (by decide +kernel) <|
      .cons "AnD" ['\n'] (by decide +kernel) hbreak (List.cons_ne_nil _ _) hfront, by
        rw [hchars]
        decide +kernel⟩
  rw [hother] at hcs
  exact ⟨hread, hcs, (ofText_of_renders hread).2 other hcs⟩

end Filter

end RecordStore
