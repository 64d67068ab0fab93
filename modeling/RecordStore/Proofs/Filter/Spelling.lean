import RecordStore.Proofs.Entries
import RecordStore.Proofs.Filter.Comparison
import RecordStore.Proofs.Filter.Tree

/-!
# Spelling filters

A token is taken off the front of a text in one of five ways (`Front`), and every token that can be
taken off is `Readable`: what it is spelled like is read as itself. This is not so of every token
that can be made up. No text has the bare word `and`, nor a name with a blank in it, and a quoted
text is the only token that may hold any characters.

Readable tokens may be spelled with any blanks between them, as long as none runs into the next
(`Spells`), and are read back (`readAll_of_spells`). So a filter that comes from some text can be
spelled anew, and is read as itself however it is laid out (`Filter.ofText_of_spells`).
-/

namespace RecordStore

open RecordStore.Text RecordStore.Number

/-- A result that is made from another is there if the other is. -/
theorem map_eq_ok {ε α β : Type} {f : α → β} {result : Except ε α} {b : β} :
    result.map f = .ok b ↔ ∃ a, result = .ok a ∧ f a = b := by
  cases result with
  | error cause => exact ⟨nofun, nofun⟩
  | ok a => exact ⟨fun h ↦ ⟨a, rfl, Except.ok.inj h⟩, fun ⟨_, heq, h⟩ ↦ by cases heq; exact h ▸ rfl⟩

namespace Token

variable {c : Char} {cs rest word : List Char} {t : Token} {tokens : List Token}

/-! ### Taking a token off the front -/

theorem endsWord_eq_false_iff :
    endsWord c = false ↔ isBlank c = false ∧ c ≠ '(' ∧ c ≠ ')' ∧ isOperatorChar c = false := by
  simp [endsWord, and_assoc]

/-- Characters that a filter takes as one word. -/
structure IsWord (word : List Char) : Prop where
  /-- There is a first character. -/
  ne_nil : word ≠ []
  /-- It does not begin a quoted text. -/
  unquoted : word.head? ≠ some '"'
  /-- The word does not end before its end. -/
  whole : ∀ c ∈ word, endsWord c = false

instance : DecidablePred IsWord := fun word ↦
  decidable_of_iff (word ≠ [] ∧ word.head? ≠ some '"' ∧ word.all (!endsWord ·) = true)
    ⟨fun h ↦ ⟨h.1, h.2.1, by simpa using h.2.2⟩, fun h ↦ ⟨h.ne_nil, h.unquoted, by simpa using h.whole⟩⟩

/-- A token stands at the front of characters. -/
inductive Front : List Char → Token → List Char → Prop where
  /-- An opening parenthesis. -/
  | open (rest : List Char) : Front ('(' :: rest) .open rest
  /-- A closing parenthesis. -/
  | close (rest : List Char) : Front (')' :: rest) .close rest
  /-- A text between quotes. -/
  | quoted {s : String} {cs rest : List Char} (h : readQuoted cs = .ok (s, rest)) :
    Front ('"' :: cs) (.quoted s) rest
  /-- An operator that is written as a symbol. -/
  | operator {op : Operator} (h : op ≠ .includes) (rest : List Char) :
    Front (op.symbol.toList ++ rest) (.operator op) rest
  /-- A word. -/
  | word {word : List Char} (h : IsWord word) (rest : List Char) :
    Front (word ++ rest) (ofWord (String.ofList word)) rest

theorem operatorOf?_eq_some {symbol : List Char} {op : Operator} (h : operatorOf? symbol = some op) :
    op ≠ .includes ∧ symbol = op.symbol.toList := by
  unfold operatorOf? at h
  split at h <;> cases h <;> exact ⟨nofun, rfl⟩

/-- An operator that is taken off stands at the front. -/
theorem exists_operator_of_readOperator (h : readOperator c cs = .ok (t, rest)) :
    ∃ op, op ≠ .includes ∧ t = .operator op ∧ c :: cs = op.symbol.toList ++ rest := by
  unfold readOperator at h
  split at h
  next symbol after hsymbol =>
  have hfront : c :: cs = symbol ++ after := by
    split at hsymbol <;> cases hsymbol <;> rfl
  split at h
  · next op hop =>
    cases h
    obtain ⟨hincludes, rfl⟩ := operatorOf?_eq_some hop
    exact ⟨op, hincludes, rfl, hfront⟩
  · cases h

/-- **What is taken off** stands at the front. -/
theorem front_of_readToken (hblank : isBlank c = false) (h : readToken c cs = .ok (t, rest)) :
    Front (c :: cs) t rest := by
  rw [readToken] at h
  split at h
  · next hopen =>
    cases h
    exact hopen ▸ .open cs
  split at h
  · next hclose =>
    cases h
    exact hclose ▸ .close cs
  split at h
  · next hquote =>
    split at h
    · next hread =>
      cases h
      exact hquote ▸ .quoted hread
    · cases h
  split at h
  · obtain ⟨op, hincludes, rfl, hfront⟩ := exists_operator_of_readOperator h
    exact hfront ▸ .operator hincludes rest
  · next hopen hclose hquote hoperator =>
    cases h
    have hfirst : endsWord c = false :=
      endsWord_eq_false_iff.2 ⟨hblank, hopen, hclose, Bool.eq_false_iff.2 hoperator⟩
    have hword : IsWord (c :: cs.takeWhile (!endsWord ·)) := by
      refine ⟨List.cons_ne_nil _ _, fun hhead ↦ hquote (Option.some.inj hhead), ?_⟩
      refine List.forall_mem_cons.2 ⟨hfirst, fun d hd ↦ ?_⟩
      simpa using List.mem_takeWhile_imp hd
    have hfront := Front.word hword (cs.dropWhile (!endsWord ·))
    rwa [List.cons_append, List.takeWhile_append_dropWhile] at hfront

/-! ### Readable tokens -/

/-- How a token is written. -/
def spelling : Token → String
  | quoted s => inQuotes s
  | t => t.describe

/-- A token that a text can have. -/
def Readable : Token → Prop
  | «open» | close | quoted _ => True
  | operator op => op ≠ .includes
  | finish => False
  | t => IsWord t.describe.toList ∧ ofWord t.describe = t

instance : DecidablePred Readable
  | «open» | close | quoted _ => isTrue trivial
  | operator op => inferInstanceAs (Decidable (op ≠ .includes))
  | finish => isFalse id
  | and | or | includes | name _ | number _ | bool _ | bare _ => inferInstanceAs (Decidable (_ ∧ _))

/-- **What a word is read as**: a keyword, or else a token with the word itself. -/
theorem ofWord_cases (word : String) :
    (lowercase word, ofWord word) ∈ keywords ∨
      isNumeral word = true ∧ ofWord word = number word ∨
      isName word = true ∧ ofWord word = name word ∨ ofWord word = bare word := by
  cases hlookup : keywords.lookup (lowercase word) with
  | some t =>
    have hread : ofWord word = t := by rw [ofWord, hlookup]
    exact .inl (hread ▸ Entries.mem_of_lookup hlookup)
  | none =>
    refine .inr ?_
    rw [ofWord, hlookup]
    dsimp only
    by_cases hnumeral : isNumeral word = true
    · exact .inl ⟨hnumeral, if_pos hnumeral⟩
    rw [if_neg hnumeral]
    by_cases hname : isName word = true
    · exact .inr (.inl ⟨hname, if_pos hname⟩)
    · exact .inr (.inr (if_neg hname))

/-- Whatever a word is read as, is spelled by a word that is read so. -/
theorem readable_ofWord (h : IsWord word) : (ofWord (String.ofList word)).Readable := by
  have hword : IsWord (String.ofList word).toList := by rwa [String.toList_ofList]
  have hkeywords : ∀ e ∈ keywords, e.2.Readable := by decide +kernel
  obtain hkeyword | ⟨-, hread⟩ | ⟨-, hread⟩ | hread := ofWord_cases (String.ofList word)
  · exact hkeywords _ hkeyword
  all_goals
    rw [hread]
    exact ⟨hword, hread⟩

/-- A name can be spelled in a filter. -/
theorem readable_name {field : String} (h : CanName field) : (name field).Readable := by
  obtain ⟨c, cs, hcons, -, hchars⟩ := exists_cons_of_isName h.1
  rw [← hcons] at hchars
  refine ⟨⟨?_, ?_, fun c hc ↦ (endsWord_of_isNameChar (hchars c hc)).1⟩, ofWord_of_canName h⟩
  · show field.toList ≠ []
    rw [hcons]
    exact List.cons_ne_nil c cs
  · intro hhead
    exact absurd rfl (endsWord_of_isNameChar (hchars _ (List.mem_of_head? hhead))).2

theorem readable_of_front (h : Front cs t rest) : t.Readable := by
  cases h with
  | «open» | close | quoted => trivial
  | operator hincludes => exact hincludes
  | word hword => exact readable_ofWord hword

/-- **The tokens of a text are readable**, but for the mark of the end behind them. -/
theorem exists_readable_of_readAll (h : readAll cs = .ok tokens) :
    ∃ front, tokens = front ++ [finish] ∧ ∀ t ∈ front, t.Readable := by
  fun_induction readAll cs generalizing tokens with
  | case1 =>
    cases h
    exact ⟨[], rfl, fun t ht ↦ absurd ht List.not_mem_nil⟩
  | case2 => cases h
  | case3 cs c rest hskip token after htoken ih =>
    obtain ⟨more, hmore, rfl⟩ := map_eq_ok.1 h
    obtain ⟨front, rfl, hfront⟩ := ih hmore
    have hblank := isBlank_head_skipBlanks hskip
    have htoken := readable_of_front (front_of_readToken hblank htoken)
    exact ⟨token :: front, rfl, List.forall_mem_cons.2 ⟨htoken, hfront⟩⟩

theorem finish_not_mem_of_readable (h : ∀ t ∈ tokens, t.Readable) : finish ∉ tokens :=
  fun hfinish ↦ h finish hfinish

/-! ### Spelling tokens -/

/-- The token ends where the characters behind it begin. -/
def EndsBefore (t : Token) (rest : List Char) : Prop :=
  match t with
  | «open» | close | quoted _ => True
  | operator _ => rest.head? ≠ some '='
  | _ => ∀ c ∈ rest.head?, endsWord c = true

/-- The characters are spellings of the tokens, one after another, with blanks in front of them and
behind them. -/
inductive Spells : List Token → List Char → Prop where
  /-- No token. -/
  | nil {blanks : List Char} (hblanks : Blanks blanks) : Spells [] blanks
  /-- A token, and those behind it. -/
  | cons {t : Token} {tokens : List Token} {blanks rest : List Char} (hblanks : Blanks blanks)
      (hends : t.EndsBefore rest) (hrest : Spells tokens rest) :
    Spells (t :: tokens) (blanks ++ (t.spelling.toList ++ rest))

/-- A word is taken off as a whole. -/
theorem readToken_of_isWord (h : IsWord word) (hrest : ∀ d ∈ rest.head?, endsWord d = true) :
    ∃ c cs, word ++ rest = c :: cs ∧ isBlank c = false ∧
      readToken c cs = .ok (ofWord (String.ofList word), rest) := by
  obtain ⟨c, cs, rfl⟩ := List.exists_cons_of_ne_nil h.ne_nil
  obtain ⟨hfirst, hwhole⟩ := List.forall_mem_cons.1 h.whole
  obtain ⟨hblank, hopen, hclose, hoperator⟩ := endsWord_eq_false_iff.1 hfirst
  have hquote : c ≠ '"' := fun hc ↦ h.unquoted (congrArg some hc)
  obtain ⟨htake, hdrop⟩ := takeWhile_dropWhile_of_head hwhole hrest
  refine ⟨c, cs ++ rest, rfl, hblank, ?_⟩
  rw [readToken, if_neg hopen, if_neg hclose, if_neg hquote, if_neg (by simp [hoperator]), htake,
    hdrop]

theorem readOperator_of_head {op : Operator} (hop : operatorOf? [c] = some op)
    (hrest : rest.head? ≠ some '=') : readOperator c rest = .ok (.operator op, rest) := by
  unfold readOperator
  split
  next symbol after hsymbol =>
  obtain ⟨rfl, rfl⟩ : [c] = symbol ∧ rest = after := by
    split at hsymbol
    · exact absurd rfl hrest
    · cases hsymbol
      exact ⟨rfl, rfl⟩
  rw [hop]

theorem readToken_of_operator {op : Operator} (h : op ≠ .includes) (hrest : rest.head? ≠ some '=') :
    ∃ c cs, op.symbol.toList ++ rest = c :: cs ∧ isBlank c = false ∧
      readToken c cs = .ok (.operator op, rest) := by
  cases op with
  | equal => exact ⟨'=', rest, rfl, by decide, readOperator_of_head rfl hrest⟩
  | notEqual => exact ⟨'!', '=' :: rest, rfl, by decide, rfl⟩
  | less => exact ⟨'<', rest, rfl, by decide, readOperator_of_head rfl hrest⟩
  | lessEqual => exact ⟨'<', '=' :: rest, rfl, by decide, rfl⟩
  | greater => exact ⟨'>', rest, rfl, by decide, readOperator_of_head rfl hrest⟩
  | greaterEqual => exact ⟨'>', '=' :: rest, rfl, by decide, rfl⟩
  | includes => exact absurd rfl h

/-- A readable token is taken off as itself. -/
theorem readToken_of_readable (h : t.Readable) (hends : t.EndsBefore rest) :
    ∃ c cs, t.spelling.toList ++ rest = c :: cs ∧ isBlank c = false ∧
      readToken c cs = .ok (t, rest) := by
  have hword (hword : IsWord t.describe.toList ∧ ofWord t.describe = t)
      (hends : ∀ d ∈ rest.head?, endsWord d = true) :
      ∃ c cs, t.describe.toList ++ rest = c :: cs ∧ isBlank c = false ∧
        readToken c cs = .ok (t, rest) := by
    obtain ⟨hword, hread⟩ := hword
    have htoken := readToken_of_isWord hword hends
    rwa [String.ofList_toList, hread] at htoken
  cases t with
  | «open» => exact ⟨'(', rest, rfl, by decide, rfl⟩
  | close => exact ⟨')', rest, rfl, by decide, rfl⟩
  | quoted s =>
    refine ⟨'"', escape s.toList ++ '"' :: rest, by simp [spelling, inQuotes], by decide, ?_⟩
    rw [readToken, if_neg (by decide), if_neg (by decide), if_pos rfl, readQuoted_escape,
      String.ofList_toList]
  | operator op => exact readToken_of_operator h hends
  | finish => cases h
  | and | or | includes | name | number | bool | bare => exact hword h hends

/-- **What is spelled is read.** -/
theorem readAll_of_spells (htokens : ∀ t ∈ tokens, t.Readable) (h : Spells tokens cs) :
    readAll cs = .ok (tokens ++ [finish]) := by
  induction h with
  | nil hblanks => exact readAll_of_blank (skipBlanks_eq_nil_iff.2 hblanks)
  | @cons t tokens blanks rest hblanks hends hrest ih =>
    obtain ⟨ht, htokens⟩ := List.forall_mem_cons.1 htokens
    obtain ⟨c, cs, hcons, hblank, htoken⟩ := readToken_of_readable ht hends
    have hskip : skipBlanks (blanks ++ (t.spelling.toList ++ rest)) = c :: cs := by
      rw [skipBlanks_append hblanks, hcons, skipBlanks_of_not_isBlank hblank]
    rw [readAll_of_readToken hskip htoken, ih htokens]
    rfl

/-- Any token ends before a blank, and at the end. -/
theorem endsBefore_of_head (t : Token) (hrest : ∀ c ∈ rest.head?, isBlank c = true) :
    t.EndsBefore rest := by
  have hequals : rest.head? ≠ some '=' := fun hhead ↦ absurd (hrest '=' hhead) (by decide)
  have hends : ∀ c ∈ rest.head?, endsWord c = true := fun c hc ↦ by
    rw [endsWord, hrest c hc]
    rfl
  cases t with
  | «open» | close | quoted => trivial
  | operator => exact hequals
  | finish | and | or | includes | name | number | bool | bare => exact hends

/-- Tokens can be spelled with a blank in front of each. -/
theorem spells_spaced (tokens : List Token) :
    Spells tokens (tokens.flatMap fun t ↦ ' ' :: t.spelling.toList) := by
  induction tokens with
  | nil => exact .nil blanks_nil
  | cons t tokens ih =>
    refine .cons blanks_space (endsBefore_of_head t fun c hc ↦ ?_) ih
    cases tokens with
    | nil => cases hc
    | cons next tokens =>
      cases hc
      exact isBlank_space

end Token

namespace Filter

variable {filter : Filter} {text : String} {cs : List Char}

/-- The operands of a filter that comes from a text are readable. -/
theorem readable_of_ofText (h : ofText text = .ok filter) {x : Operand} (hx : x ∈ filter.operands) :
    x.token.Readable := by
  rw [ofText] at h
  split at h
  · next tokens htokens =>
    obtain ⟨front, rfl, hfront⟩ := Token.exists_readable_of_readAll htokens
    rw [operands_of_ofTokens (Token.finish_not_mem_of_readable hfront) h] at hx
    obtain ⟨t, ht, hoperand⟩ := List.mem_filterMap.1 hx
    rw [← Token.eq_token_of_operand? hoperand]
    exact hfront t ht
  · cases h

theorem readable_of_mem_parenthesized {needed : Bool} {tokens : List Token} {t : Token}
    (htokens : ∀ t ∈ tokens, t.Readable) (ht : t ∈ parenthesized needed tokens) : t.Readable := by
  cases needed with
  | false => exact htokens t ht
  | true =>
    rw [parenthesized, if_pos rfl, List.mem_cons, List.mem_append, List.mem_singleton] at ht
    rcases ht with rfl | ht | rfl
    · trivial
    · exact htokens t ht
    · trivial

/-- All tokens of a filter are readable if its operands are. -/
theorem readable_of_mem_tokens (h : ∀ x ∈ filter.operands, x.token.Readable) :
    ∀ t ∈ filter.tokens, t.Readable := by
  induction filter with
  | comparison left op right =>
    have hop : op.token.Readable := by cases op <;> decide +kernel
    obtain ⟨hleft, hright⟩ := List.forall_mem_cons.1 h
    intro t ht
    rcases List.mem_cons.1 ht with rfl | ht
    · exact hleft
    rcases List.mem_cons.1 ht with rfl | ht
    · exact hop
    · rw [List.mem_singleton.1 ht]
      exact hright right List.mem_cons_self
  | and left right ihleft ihright =>
    have hleft := ihleft fun x hx ↦ h x (List.mem_append_left _ hx)
    have hright := ihright fun x hx ↦ h x (List.mem_append_right _ hx)
    intro t ht
    rcases List.mem_append.1 ht with ht | ht
    · exact readable_of_mem_parenthesized hleft ht
    rcases List.mem_cons.1 ht with rfl | ht
    · decide +kernel
    · exact readable_of_mem_parenthesized hright ht
  | or left right ihleft ihright =>
    have hleft := ihleft fun x hx ↦ h x (List.mem_append_left _ hx)
    have hright := ihright fun x hx ↦ h x (List.mem_append_right _ hx)
    intro t ht
    rcases List.mem_append.1 ht with ht | ht
    · exact hleft t ht
    rcases List.mem_cons.1 ht with rfl | ht
    · decide +kernel
    · exact readable_of_mem_parenthesized hright ht

/-- **A filter is read however it is spelled.** -/
theorem ofText_of_spells (h : ∀ x ∈ filter.operands, x.token.Readable)
    (hcs : Token.Spells filter.tokens cs) : ofText (String.ofList cs) = .ok filter := by
  have hread := Token.readAll_of_spells (readable_of_mem_tokens h) hcs
  rw [ofText, Token.ofText, String.toList_ofList, hread]
  exact ofTokens_tokens filter

end Filter

end RecordStore
