import RecordStore.Filter.Parser
import RecordStore.Proofs.Filter.Relation
import RecordStore.Proofs.Schema
import RecordStore.Proofs.Text.InQuotes
import RecordStore.Proofs.Text.Words

/-!
# Comparing a field with a literal

A filter that compares a field with a text between quotes is read as that comparison, whatever the
text is (`ofText_comparison`): the name is one word and no keyword, and the quoted text is one token,
since nothing inside it can end it. The tokens are taken off one after another
(`readAll_of_readToken`), so each of them is settled on its own.

Of a record that has a value of the field's kind, the comparison says how that value is related to the
one that the literal is coerced to (`evaluate_relates`).
-/

namespace RecordStore

open RecordStore.Text RecordStore.Number

namespace Token

variable {c d : Char} {cs rest after : List Char}

/-! ### Names -/

/-- May the word stand for a field in a filter? It has to be a name and no keyword. -/
def CanName (word : String) : Prop :=
  isName word = true ∧ lowercase word ∉ ["and", "or", "include", "true", "false"]

theorem isAlpha_iff :
    c.isAlpha = true ↔ (65 ≤ c.toNat ∧ c.toNat ≤ 90) ∨ (97 ≤ c.toNat ∧ c.toNat ≤ 122) := by
  show (decide ('A'.val ≤ c.val ∧ c.val ≤ 'Z'.val) ||
    (decide ('a'.val ≤ c.val) && decide (c.val ≤ 'z'.val))) = true ↔ _
  simp [UInt32.le_iff_toNat_le]

theorem isDigit_iff : c.isDigit = true ↔ 48 ≤ c.toNat ∧ c.toNat ≤ 57 := by
  show (decide ('0'.val ≤ c.val) && decide (c.val ≤ '9'.val)) = true ↔ _
  simp [UInt32.le_iff_toNat_le]

theorem toNat_of_isNameStart (h : isNameStart c = true) :
    c.toNat = 95 ∨ (65 ≤ c.toNat ∧ c.toNat ≤ 90) ∨ (97 ≤ c.toNat ∧ c.toNat ≤ 122) := by
  rw [isNameStart, Bool.or_eq_true, isAlpha_iff, decide_eq_true_eq, ← Char.toNat_inj] at h
  exact h.symm

theorem toNat_of_isNameChar (h : isNameChar c = true) :
    c.toNat = 95 ∨ (48 ≤ c.toNat ∧ c.toNat ≤ 57) ∨ (65 ≤ c.toNat ∧ c.toNat ≤ 90) ∨
      (97 ≤ c.toNat ∧ c.toNat ≤ 122) := by
  rw [isNameChar, Bool.or_eq_true, decide_eq_true_eq, ← Char.toNat_inj] at h
  rcases h with h | h
  · have halnum : c.isAlpha = true ∨ c.isDigit = true := Bool.or_eq_true_iff.1 h
    rw [isAlpha_iff, isDigit_iff] at halnum
    omega
  · exact .inl h

theorem isNameChar_of_isNameStart (h : isNameStart c = true) : isNameChar c = true := by
  rw [isNameStart, Bool.or_eq_true] at h
  rw [isNameChar, Bool.or_eq_true]
  exact h.imp_left fun halpha ↦ Bool.or_eq_true_iff.2 (.inl halpha)

theorem isDigit_of_isNameStart (h : isNameStart c = true) : c.isDigit = false := by
  have hcode := toNat_of_isNameStart h
  rw [Bool.eq_false_iff, Ne, isDigit_iff]
  omega

/-- No word ends before a character of a name, and no quoted text begins with it. -/
theorem endsWord_of_isNameChar (h : isNameChar c = true) : endsWord c = false ∧ c ≠ '"' := by
  have hcode := toNat_of_isNameChar h
  have hblank : isBlank c = false := by
    simp [isBlank, blanks, CharSet.contains, CharSet.covers]
    omega
  simp [endsWord, isOperatorChar, hblank, ← Char.toNat_inj]
  omega

theorem exists_cons_of_isName {word : String} (h : isName word = true) :
    ∃ c cs, word.toList = c :: cs ∧ isNameStart c = true ∧ ∀ d ∈ c :: cs, isNameChar d = true := by
  rw [isName] at h
  split at h
  · cases h
  · next c cs hword =>
    rw [Bool.and_eq_true, List.all_eq_true] at h
    refine ⟨c, cs, hword, h.1, ?_⟩
    exact List.forall_mem_cons.2 ⟨isNameChar_of_isNameStart h.1, h.2⟩

/-- A numeral begins with a minus sign or a digit. -/
theorem isNumeral_eq_false {word : String} (hword : word.toList = c :: cs) (hminus : c ≠ '-')
    (hdigit : c.isDigit = false) : isNumeral word = false := by
  have hbody : (splitMinus word.toList).2 = c :: cs := by
    rw [hword, splitMinus]
    rintro cs heq
    exact hminus (List.cons.inj heq).1
  -- with a fraction or without, the digits in front would have to begin with the character
  rw [isNumeral, hbody]
  split
  · simp [isDigits, hdigit]
  · by_cases hpoint : c = '.' <;> simp [isDigits, hpoint, hdigit]

/-- A word that can name a field is read as a name. -/
theorem ofWord_of_canName {word : String} (h : CanName word) : ofWord word = name word := by
  obtain ⟨hname, hkeyword⟩ := h
  obtain ⟨c, cs, hword, hstart, -⟩ := exists_cons_of_isName hname
  have hlookup : keywords.lookup (lowercase word) = none := by
    rw [List.lookup_eq_none_iff]
    rintro ⟨keyword, token⟩ hmem
    rw [bne_iff_ne]
    rintro rfl
    -- the table of keywords has these five words and no others
    have hkeys : ∀ e ∈ keywords, e.1 ∈ ["and", "or", "include", "true", "false"] := by decide
    exact hkeyword (hkeys _ hmem)
  -- a name begins with a letter or an underscore, so it is no numeral either
  have hminus : c ≠ '-' := by
    rintro rfl
    exact absurd hstart (by decide)
  have hnumeral := isNumeral_eq_false hword hminus (isDigit_of_isNameStart hstart)
  rw [ofWord, hlookup]
  simp [hnumeral, hname]

/-! ### One token after another -/

/-- What the first token leaves is read on. -/
theorem readAll_of_readToken {token : Token} (hskip : skipBlanks cs = c :: rest)
    (htoken : readToken c rest = .ok (token, after)) :
    readAll cs = (readAll after).map (token :: ·) := by
  rw [readAll.eq_def]
  split
  · next hnone =>
    rw [hskip] at hnone
    cases hnone
  · next hsome =>
    rw [hskip] at hsome
    cases hsome
    split
    · next hread =>
      rw [htoken] at hread
      cases hread
    · next hread =>
      rw [htoken] at hread
      cases hread
      rfl

/-- Where only blanks are left, the filter ends. -/
theorem readAll_of_blank (h : skipBlanks cs = []) : readAll cs = .ok [finish] := by
  rw [readAll.eq_def]
  split
  · rfl
  · next hsome =>
    rw [h] at hsome
    cases hsome

/-- A word is a token, up to the character before which it ends. -/
theorem readToken_word {word : List Char} (hquote : c ≠ '"')
    (hword : ∀ e ∈ c :: word, endsWord e = false) (hends : endsWord d = true) :
    readToken c (word ++ d :: rest) = .ok (ofWord (String.ofList (c :: word)), d :: rest) := by
  obtain ⟨hfirst, hrest⟩ := List.forall_mem_cons.1 hword
  obtain ⟨htake, hdrop⟩ := takeWhile_dropWhile_word hrest hends
  simp only [endsWord, Bool.or_eq_false_iff, decide_eq_false_iff_not] at hfirst
  rw [readToken, if_neg hfirst.1.1.2, if_neg hfirst.1.2, if_neg hquote, if_neg (by simp [hfirst.2]),
    htake, hdrop]

/-- A name in front of a blank. -/
theorem readAll_name {word : String} (h : CanName word) (tail : List Char) :
    readAll (word.toList ++ ' ' :: tail) = (readAll (' ' :: tail)).map (name word :: ·) := by
  obtain ⟨c, cs, hword, -, hchars⟩ := exists_cons_of_isName h.1
  have hends : ∀ d ∈ c :: cs, endsWord d = false := fun d hd ↦
    (endsWord_of_isNameChar (hchars d hd)).1
  have hquote : c ≠ '"' := (endsWord_of_isNameChar (hchars c List.mem_cons_self)).2
  have hblank : isBlank c = false := by
    have hfirst := hends c List.mem_cons_self
    simp only [endsWord, Bool.or_eq_false_iff] at hfirst
    exact hfirst.1.1.1
  have htoken : readToken c (cs ++ ' ' :: tail) = .ok (name word, ' ' :: tail) := by
    rw [readToken_word hquote hends (by decide), ← hword, String.ofList_toList, ofWord_of_canName h]
  rw [hword, List.cons_append]
  exact readAll_of_readToken (skipBlanks_of_not_isBlank hblank) htoken

/-- An operator between blanks. -/
theorem readAll_operator {op : Operator} (hop : op = .equal ∨ op = .includes) (tail : List Char) :
    ∃ token, token.operator? = some op ∧
      readAll (' ' :: (op.symbol.toList ++ ' ' :: tail)) =
        (readAll (' ' :: tail)).map (token :: ·) := by
  rcases hop with rfl | rfl
  · refine ⟨operator .equal, rfl, ?_⟩
    have hskip : skipBlanks (' ' :: '=' :: ' ' :: tail) = '=' :: ' ' :: tail := by
      rw [skipBlanks_of_isBlank isBlank_space, skipBlanks_of_not_isBlank (by decide)]
    exact readAll_of_readToken hskip rfl
  · refine ⟨includes, rfl, ?_⟩
    have hskip : skipBlanks (' ' :: 'i' :: (['n', 'c', 'l', 'u', 'd', 'e'] ++ ' ' :: tail)) =
        'i' :: (['n', 'c', 'l', 'u', 'd', 'e'] ++ ' ' :: tail) := by
      rw [skipBlanks_of_isBlank isBlank_space, skipBlanks_of_not_isBlank (by decide)]
    have htoken : readToken 'i' (['n', 'c', 'l', 'u', 'd', 'e'] ++ ' ' :: tail) =
        .ok (includes, ' ' :: tail) := by
      have hall : ['i', 'n', 'c', 'l', 'u', 'd', 'e'].all (!endsWord ·) = true := by decide
      have hletters : ∀ c ∈ ['i', 'n', 'c', 'l', 'u', 'd', 'e'], endsWord c = false :=
        fun c hc ↦ by simpa using List.all_eq_true.1 hall c hc
      rw [readToken_word (by decide) hletters (by decide)]
      have hword : ofWord (String.ofList ['i', 'n', 'c', 'l', 'u', 'd', 'e']) = includes := by
        decide +kernel
      rw [hword]
    exact readAll_of_readToken hskip htoken

/-- A quoted text at the end. -/
theorem readAll_inQuotes (text : String) :
    readAll (' ' :: (inQuotes text).toList) = .ok [quoted text, finish] := by
  have hskip : skipBlanks (' ' :: '"' :: (escape text.toList ++ ['"'])) =
      '"' :: (escape text.toList ++ ['"']) := by
    rw [skipBlanks_of_isBlank isBlank_space, skipBlanks_of_not_isBlank (by decide)]
  have htoken : readToken '"' (escape text.toList ++ ['"']) = .ok (quoted text, []) := by
    have hread := readQuoted_escape text.toList []
    rw [String.ofList_toList] at hread
    rw [readToken, if_neg (by decide), if_neg (by decide), if_pos rfl, hread]
  rw [inQuotes, String.toList_ofList, List.cons_append, readAll_of_readToken hskip htoken,
    readAll_of_blank skipBlanks_nil]
  rfl

end Token

namespace Filter

open Token (CanName)

/-- The text of the filter that compares a field with a text. -/
def comparisonText (field : String) (op : Operator) (text : String) : String :=
  field ++ " " ++ op.symbol ++ " " ++ inQuotes text

/-- **A comparison with a quoted text** is read as such. -/
theorem ofText_comparison {field : String} (hfield : CanName field) {op : Operator}
    (hop : op = .equal ∨ op = .includes) (text : String) :
    ofText (comparisonText field op text) =
      .ok (.comparison (.name field) op (.quoted text)) := by
  obtain ⟨token, htoken, hread⟩ := Token.readAll_operator hop (inQuotes text).toList
  have htokens : Token.ofText (comparisonText field op text) =
      .ok [.name field, token, .quoted text, .finish] := by
    have hchars : (comparisonText field op text).toList =
        field.toList ++ ' ' :: (op.symbol.toList ++ ' ' :: (inQuotes text).toList) := by
      simp [comparisonText, String.toList_append]
    rw [Token.ofText, hchars, Token.readAll_name hfield, hread, Token.readAll_inQuotes]
    rfl
  rw [ofText, htokens]
  show readFrom .due .start [] _ = _
  rw [readFrom, if_neg nofun]
  simp only [Token.operand?]
  rw [readFrom, htoken]
  rfl

/-! ### What the comparison says of a record -/

theorem toList_literal_quoted (text : String) :
    (Operand.quoted text).literal.toList = '"' :: (text.toList ++ ['"']) := by
  simp [Operand.literal, String.toList_append]

theorem trimmed_literal_quoted (text : String) : Trimmed (Operand.quoted text).literal.toList := by
  rw [toList_literal_quoted]
  exact trimmed_of_ends (by decide) (by decide) text.toList

theorem betweenQuotes?_literal_quoted (text : String) :
    betweenQuotes? (Operand.quoted text).literal.toList = some text.toList := by
  rw [toList_literal_quoted, betweenQuotes?, List.getLast?_concat, if_pos rfl, List.dropLast_concat]

/-- A text between quotes, taken literally, is the text. -/
theorem ofLiteral_quoted (text : String) :
    Kind.text.ofLiteral (Operand.quoted text).literal = .ok (.text text) := by
  have hbetween : betweenQuotes? (trim (Operand.quoted text).literal).toList =
      some text.toList := by
    rw [trim, (trimmed_literal_quoted text).trimChars_eq, String.toList_ofList,
      betweenQuotes?_literal_quoted]
  -- unfolded as a whole: an equation for each kind would be computed first otherwise
  unfold Kind.ofLiteral
  dsimp only
  rw [hbetween]
  dsimp only
  rw [String.ofList_toList]

variable {schema : Schema} {field : Field} {name : String}

/-- A comparison that names a field is admitted. -/
theorem check_comparison (hfield : schema.field? name = some field) (op : Operator)
    (right : Operand) : check schema (.comparison (.name name) op right) = .ok () := by
  rw [check, unknownName?, Operand.field?, hfield]
  rfl

variable {record : Record} {text : String} {op : Operator} {operand : Operand} {held value : Value}

/-- A comparison with a literal that has no value is refused, as is any comparison of a list. -/
theorem exists_value_of_evaluate (hfield : schema.field? name = some field) (hop : op ≠ .includes)
    {met : Bool} (h : evaluate schema record (.comparison (.name name) op operand) = .ok met) :
    field.kind ≠ .texts ∧ ∃ value, field.kind.ofLiteral operand.literal = .ok value := by
  rw [evaluate, compare, Operand.field?, hfield] at h
  dsimp only at h
  rw [compareField] at h
  split at h
  · cases h
  rw [if_neg hop] at h
  split at h
  · cases h
  next hkind =>
  refine ⟨hkind, ?_⟩
  split at h
  · next value hvalue => exact ⟨value, hvalue⟩
  · cases h

/-- **A comparison of a field** says how its value is related to the literal's. -/
theorem evaluate_relates (hfield : schema.field? name = some field) (hop : op ≠ .includes)
    (hkind : field.kind ≠ .texts) (hheld : record.value? field.key = some held)
    (hheldkind : held.kind = field.kind) (hvalue : field.kind.ofLiteral operand.literal = .ok value)
    (hvaluekind : value.kind = field.kind) :
    evaluate schema record (.comparison (.name name) op operand) =
      .ok (decide (op.Relates held value)) := by
  rw [evaluate, compare, Operand.field?, hfield]
  dsimp only
  rw [compareField, hheld]
  dsimp only
  rw [if_neg hop, if_neg hkind, hvalue]
  exact Operator.holds_eq hop (hheldkind.trans hvaluekind.symm) (hheldkind ▸ hkind)

/-- In a field of a scalar kind, being equal is holding the same value. -/
theorem evaluate_literal (hfield : schema.field? name = some field) (hkind : field.kind ≠ .texts)
    (hheld : record.value? field.key = some held) (hheldkind : held.kind = field.kind)
    (hvalue : field.kind.ofLiteral operand.literal = .ok value) (hvaluekind : value.kind = field.kind) :
    evaluate schema record (.comparison (.name name) .equal operand) = .ok (held.same value) := by
  rw [evaluate_relates hfield (by decide) hkind hheld hheldkind hvalue hvaluekind]
  exact congrArg Except.ok Bool.decide_eq_true

/-- In a field that holds texts, being equal is being the text. -/
theorem evaluate_equal (hfield : schema.field? name = some field) (hkind : field.kind = .text)
    {held : String} (hheld : record.value? field.key = some (.text held)) :
    evaluate schema record (.comparison (.name name) .equal (.quoted text)) =
      .ok (decide (held = text)) := by
  have hvalue : field.kind.ofLiteral (Operand.quoted text).literal = .ok (.text text) := by
    rw [hkind, ofLiteral_quoted]
  have hscalar : field.kind ≠ .texts := by
    rw [hkind]
    decide
  rw [evaluate_literal hfield hscalar hheld hkind.symm hvalue hkind.symm]
  simp [Value.same, Value.folded]

/-- In a field that holds lists, inclusion is being one of the items. -/
theorem evaluate_includes (hfield : schema.field? name = some field) (hkind : field.kind = .texts)
    {items : List String} (hheld : record.value? field.key = some (.texts items)) :
    evaluate schema record (.comparison (.name name) .includes (.quoted text)) =
      .ok (decide (text ∈ items)) := by
  rw [evaluate, compare, Operand.field?, hfield]
  dsimp only
  rw [compareField, hheld]
  dsimp only
  rw [if_pos rfl, if_pos hkind]
  simp [Value.contains, Operand.text, List.contains_eq_mem]

end Filter

end RecordStore
