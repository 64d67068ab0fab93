import RecordStore.Proofs.Command.Selection
import RecordStore.Proofs.Filter.Spelling
import RecordStore.Proofs.Number.Numeral
import RecordStore.Proofs.Text.Ascii

/-!
# Where the parts of a command end

The end of a filter is found by a reader that knows quotes and parentheses only, and the filter
itself is cut into tokens by another. They agree on what a quoted text is, as long as both know where
one begins: to the first any quote begins one, to the second only a quote at the front of a token.
So the end is found for every filter that has no quote inside a bare word (`splitClosing_of_ofText`),
token by token, and for `a = b"c` it is not.

The other parts are found by what ends them: the verb by a blank, the name of a type by a blank or a
bracket, and both ends of the line by what is not blank (`ofText_laidOut`, `splitName_laidOut`).
-/

namespace RecordStore

open RecordStore.Text RecordStore.Number

namespace Token

variable {word : List Char}

/-- A quote in a word makes it a bare one. -/
theorem quote_not_mem_of_ofWord
    (h : ∀ w, ofWord (String.ofList word) = .bare w → '"' ∉ w.toList) : '"' ∉ word := by
  intro hquote
  have hmem : '"' ∈ (String.ofList word).toList := by rwa [String.toList_ofList]
  obtain hkeyword | ⟨hnumeral, -⟩ | ⟨hname, -⟩ | hbare := ofWord_cases (String.ofList word)
  · have hkeywords : ∀ e ∈ keywords, '"' ∉ e.1.toList := by decide
    exact hkeywords _ hkeyword (mem_lowercase hmem (by decide +kernel))
  · have hchar := mem_of_isNumeral hnumeral hmem
    exact absurd hchar (by decide)
  · obtain ⟨c, cs, hword, -, hchars⟩ := exists_cons_of_isName hname
    exact (endsWord_of_isNameChar (hchars '"' (hword ▸ hmem))).2 rfl
  · exact h _ hbare hmem

/-- A word is no parenthesis. -/
theorem ofWord_ne (word : String) : ofWord word ≠ .open ∧ ofWord word ≠ .close := by
  obtain hkeyword | ⟨-, hread⟩ | ⟨-, hread⟩ | hread := ofWord_cases word
  · have hkeywords : ∀ e ∈ keywords, e.2 ≠ .open ∧ e.2 ≠ .close := by decide
    exact hkeywords _ hkeyword
  all_goals
    rw [hread]
    simp

end Token

namespace Statement

open Token (Front Turns Nested)

variable {cs rest passed tail : List Char} {depth next : Nat} {t : Token} {tokens : List Token}

/-! ### The end of a filter -/

theorem enclosed_of_blanks (h : Blanks cs) : Enclosed cs := by
  refine enclosed_of_plain fun c hc ↦ ⟨?_, ?_, ?_⟩
  all_goals
    rintro rfl
    exact absurd (h _ hc) (by decide)

/-- **A quoted text that can be read** is passed over. -/
theorem exists_passed_of_readQuoted {s : String} (h : readQuoted cs = .ok (s, rest)) (depth : Nat)
    (passed tail : List Char) :
    ∃ passed', splitClosing .inside depth passed (cs ++ tail) =
      splitClosing .outside depth passed' (rest ++ tail) := by
  obtain ⟨body, hbody, rfl⟩ := readQuoted_eq_ok_iff.1 h
  obtain ⟨hsheltered, hafter⟩ := sheltered_of_decodes hbody
  rw [List.append_assoc, splitClosing_of_sheltered hsheltered, hafter]
  exact ⟨_, splitClosing_pass nofun⟩

/-- **A token** is passed over, with its parenthesis counted. -/
theorem exists_passed_of_front (h : Front cs t rest) (hturn : Turns t depth next)
    (hquote : ∀ w, t = .bare w → '"' ∉ w.toList) (passed tail : List Char) :
    ∃ passed', splitClosing .outside depth passed (cs ++ tail) =
      splitClosing .outside next passed' (rest ++ tail) := by
  cases h with
  | «open» =>
    cases hturn with
    | «open» => exact ⟨_, splitClosing_open⟩
    | stay h => exact absurd rfl h.1
  | close =>
    cases hturn with
    | close => exact ⟨_, splitClosing_close_succ⟩
    | stay h => exact absurd rfl h.2.1
  | quoted hread =>
    cases hturn with
    | stay =>
      obtain ⟨passed', hrest⟩ := exists_passed_of_readQuoted hread depth ('"' :: passed) tail
      exact ⟨passed', (splitClosing_pass fun _ ↦ by decide).trans hrest⟩
  | @operator op =>
    cases hturn with
    | stay =>
      rw [List.append_assoc]
      exact ⟨_, splitClosing_append (enclosed_symbol op)⟩
  | @word word hword =>
    have hnone : '"' ∉ word := Token.quote_not_mem_of_ofWord hquote
    have hplain : ∀ c ∈ word, c ≠ '(' ∧ c ≠ ')' ∧ c ≠ '"' := by
      intro c hc
      obtain ⟨-, hopen, hclose, -⟩ := Token.endsWord_eq_false_iff.1 (hword.whole c hc)
      exact ⟨hopen, hclose, fun h ↦ hnone (h ▸ hc)⟩
    obtain ⟨hopen, hclose⟩ := Token.ofWord_ne (String.ofList word)
    obtain rfl : depth = next := by
      generalize Token.ofWord (String.ofList word) = t at hturn hopen hclose
      cases hturn with
      | «open» => exact absurd rfl hopen
      | close => exact absurd rfl hclose
      | stay => rfl
    rw [List.append_assoc]
    exact ⟨_, splitClosing_append (enclosed_of_plain hplain)⟩

/-- **All tokens** are passed over, up to the parenthesis that closes the first one before them. -/
theorem exists_passed_of_readAll (h : Token.readAll cs = .ok tokens) (hnested : Nested depth tokens)
    (hquote : ∀ w, .bare w ∈ tokens → '"' ∉ w.toList) (passed tail : List Char) :
    ∃ inner, splitClosing .outside depth passed (cs ++ ')' :: tail) = some (inner, tail) := by
  fun_induction Token.readAll cs generalizing tokens depth passed with
  | case1 cs hskip =>
    cases h
    cases hnested with
    | cons hturn => cases hturn with | stay h => exact absurd rfl h.2.2
    | finish =>
      rw [splitClosing_append (enclosed_of_blanks (skipBlanks_eq_nil_iff.1 hskip)),
        splitClosing_close_zero]
      exact ⟨_, rfl⟩
  | case2 => cases h
  | case3 cs c rest hskip token after htoken ih =>
    obtain ⟨more, hmore, rfl⟩ := map_eq_ok.1 h
    have hfront := Token.front_of_readToken (isBlank_head_skipBlanks hskip) htoken
    obtain ⟨blanks, hblanks, hcs⟩ := exists_blanks_append cs
    cases hnested with
    | finish =>
      have hlast := Token.getLast?_readAll hmore
      cases hlast
    | @cons _ _ next _ hturn hrest =>
      obtain ⟨passed', htokenPassed⟩ := exists_passed_of_front hfront hturn
        (fun w hw ↦ hquote w (hw ▸ List.mem_cons_self)) (blanks.reverse ++ passed) (')' :: tail)
      rw [← hcs, List.append_assoc, splitClosing_append (enclosed_of_blanks hblanks), hskip,
        htokenPassed]
      exact ih hmore hrest (fun w hw ↦ hquote w (List.mem_cons_of_mem _ hw)) passed'

/-- **The end of a filter** is where its text ends, unless there is a quote in a bare word. -/
theorem splitClosing_of_ofText {text : String} {filter : Filter}
    (h : Filter.ofText text = .ok filter)
    (hquote : ∀ w, .bare w ∈ filter.operands → '"' ∉ w.toList) :
    splitClosing .outside 0 [] (text.toList ++ ')' :: tail) = some (text.toList, tail) := by
  rw [Filter.ofText] at h
  split at h
  · next tokens htokens =>
    obtain ⟨front, rfl, hfront⟩ := Token.exists_readable_of_readAll htokens
    have hfinish := Token.finish_not_mem_of_readable hfront
    have hbare : ∀ w, .bare w ∈ front ++ [.finish] → '"' ∉ w.toList := by
      intro w hw
      refine hquote w ?_
      rw [Filter.operands_of_ofTokens hfinish h]
      refine List.mem_filterMap.2 ⟨.bare w, ?_, rfl⟩
      simpa using hw
    obtain ⟨inner, hinner⟩ := exists_passed_of_readAll htokens (Filter.nested_of_ofTokens hfinish h)
      hbare [] tail
    -- nothing was lost, so what stands before the parenthesis is all of the text
    have happend := append_of_splitClosing hinner
    rw [List.reverse_nil, List.nil_append] at happend
    rw [hinner, List.append_cancel_right happend]
  · cases h

/-- A filter in parentheses is read as what its text says. -/
theorem readFilter_of_ofText (verb : Verb) {text : String} {filter : Filter}
    (h : Filter.ofText text = .ok filter)
    (hquote : ∀ w, .bare w ∈ filter.operands → '"' ∉ w.toList) :
    readFilter verb ('(' :: (text.toList ++ ')' :: tail)) = .ok (some filter, trimChars tail) := by
  rw [readFilter, splitClosing_of_ofText h hquote]
  dsimp only
  rw [if_neg (not_blank_of_ofText h), String.ofList_toList, h]

/-! ### The verb and the name -/

variable {verb : Verb} {line name : String} {before gap : List Char}

/-- The verb may be written in any case, with blanks around it. -/
theorem lowercase_of_verb {word : String} (h : equalsIgnoringAsciiCase word verb.word = true) :
    lowercase word = verb.word ∧ ∀ c ∈ word.toList, isBlank c = false := by
  have hall : verb.word.toList.all (fun c ↦ c.toNat < 128 && (c.toLower == c && !isBlank c)) = true := by
    cases verb <;> decide +kernel
  exact lowercase_of_equals h fun c hc ↦ by simpa using List.all_eq_true.1 hall c hc

theorem CanNameType.toList_ne_nil (h : CanNameType name) : name.toList ≠ [] :=
  fun hnil ↦ h.1 (String.toList_eq_nil_iff.1 hnil)

theorem CanNameType.isBlank_eq_false (h : CanNameType name) {c : Char} (hc : c ∈ name.toList) :
    isBlank c = false := by
  have hends := h.2 c hc
  simp only [endsName, Bool.or_eq_false_iff] at hends
  exact hends.1.1

/-- **The verb of a line** is its first word, and the blanks at both ends of the line are dropped. -/
theorem ofText_laidOut {word : String} (hword : equalsIgnoringAsciiCase word verb.word = true)
    (hbefore : Blanks before) (hgap : Blanks gap) (hne : gap ≠ []) (hname : CanNameType name)
    (hline : line.toList = before ++ (word.toList ++ (gap ++ (name.toList ++ rest)))) :
    ofText line = ofVerb verb (gap ++ (name.toList ++ dropTrailingBlanks rest)) := by
  obtain ⟨hlower, hblank⟩ := lowercase_of_verb hword
  obtain ⟨c, cs, hcons⟩ : ∃ c cs, word.toList = c :: cs := by
    refine List.exists_cons_of_ne_nil fun hnil ↦ ?_
    rw [lowercase, hnil] at hlower
    cases verb <;> exact absurd hlower (by decide)
  obtain ⟨b, blanks, rfl⟩ := List.exists_cons_of_ne_nil hne
  have htrimmed : trimChars line.toList =
      word.toList ++ b :: (blanks ++ (name.toList ++ dropTrailingBlanks rest)) := by
    have hhead : ∀ d ∈ (word.toList ++ (b :: blanks ++ (name.toList ++ rest))).head?,
        isBlank d = false := by
      rw [hcons]
      intro d hd
      cases hd
      exact hblank c (hcons ▸ List.mem_cons_self)
    have hlast : ∀ d ∈ (word.toList ++ (b :: blanks ++ name.toList)).getLast?, isBlank d = false := by
      intro d hd
      rw [← List.append_assoc, List.getLast?_append_of_ne_nil _ hname.toList_ne_nil] at hd
      exact hname.isBlank_eq_false (List.mem_of_getLast? hd)
    rw [hline, trimChars_append_left hbefore, trimChars, skipBlanks_eq_self hhead]
    have hdrop := dropTrailingBlanks_append_of_last (by simp) hlast rest
    simpa only [List.append_assoc, List.cons_append] using hdrop
  obtain ⟨htake, hdrop⟩ := @takeWhile_dropWhile_word b
    (blanks ++ (name.toList ++ dropTrailingBlanks rest)) isBlank word.toList hblank
    (hgap b List.mem_cons_self)
  have hsome : (word.toList ++ b :: (blanks ++ (name.toList ++ dropTrailingBlanks rest))).isEmpty =
      false := by simp
  rw [ofText, htrimmed, hsome, htake, hdrop, String.ofList_toList, if_neg (by simp)]
  dsimp only
  rw [hlower, Verb.ofWord?_word]
  rfl

/-- **The name of a type** ends before a blank or a bracket. -/
theorem splitName_laidOut (verb : Verb) (hgap : Blanks gap) (hname : CanNameType name)
    (hrest : ∀ c ∈ rest.head?, endsName c = true) :
    splitName verb (gap ++ (name.toList ++ dropTrailingBlanks rest)) = .ok (name, trimChars rest) := by
  have hskip : skipBlanks (gap ++ (name.toList ++ dropTrailingBlanks rest)) =
      name.toList ++ dropTrailingBlanks rest := by
    rw [skipBlanks_append hgap]
    refine skipBlanks_eq_self fun c hc ↦ ?_
    rw [List.head?_append_of_ne_nil _ hname.toList_ne_nil] at hc
    exact hname.isBlank_eq_false (List.mem_of_head? hc)
  have hhead : ∀ c ∈ (dropTrailingBlanks rest).head?, endsName c = true := by
    intro c hc
    obtain ⟨after, hafter⟩ := dropTrailingBlanks_prefix rest
    obtain ⟨front, hfront⟩ := List.head?_eq_some_iff.1 hc
    refine hrest c ?_
    rw [← hafter, hfront]
    rfl
  obtain ⟨htake, hdrop⟩ := takeWhile_dropWhile_of_head hname.2 hhead
  rw [splitName, hskip, htake, hdrop, trimChars_dropTrailingBlanks]
  split
  · next hnil => exact absurd hnil hname.toList_ne_nil
  · rw [String.ofList_toList]

/-! ### The parts behind the name -/

variable {behind between after : List Char}

theorem head_blanks_append (h : Blanks behind) (rest : List Char)
    (hrest : ∀ c ∈ rest.head?, endsName c = true) :
    ∀ c ∈ (behind ++ rest).head?, endsName c = true := by
  cases behind with
  | nil => exact hrest
  | cons b blanks =>
    intro c hc
    cases hc
    rw [endsName, h b List.mem_cons_self]
    rfl

/-- A payload in braces is read as what it says. -/
theorem readPayload_of_object (verb : Verb) {inner : List Char} {entries : Entries String Payload}
    (h : Payload.ofChars? ('{' :: inner) = some (.object entries)) :
    readPayload verb ('{' :: inner) = .ok entries := by
  rw [readPayload, h]

section

variable {text : String} {filter : Filter} (hname : CanNameType name) (hgap : Blanks gap)
  (hbehind : Blanks behind) (hafter : Blanks after) (hfilter : Filter.ofText text = .ok filter)
  (hquote : ∀ w, .bare w ∈ filter.operands → '"' ∉ w.toList)

include hname hgap hbehind hafter hfilter hquote

/-- The name of a type and a filter are read. -/
theorem readSelection_of_filterText (verb : Verb) :
    readSelection verb (gap ++ (name.toList ++
      dropTrailingBlanks (behind ++ ('(' :: (text.toList ++ [')']) ++ after)))) =
        .ok (name, some filter) := by
  have htrimmed := trimmed_of_ends (show isBlank '(' = false by decide)
    (show isBlank ')' = false by decide) text.toList
  have hhead := head_blanks_append hbehind ('(' :: (text.toList ++ [')']) ++ after)
    fun c hc ↦ by cases hc; decide
  rw [readSelection, splitName_laidOut verb hgap hname hhead, trimChars_append_left hbehind,
    trimChars_append_right hafter, htrimmed.trimChars_eq]
  show (readFilter verb ('(' :: (text.toList ++ [')'])) >>= _) = _
  rw [readFilter_of_ofText verb hfilter hquote]
  rfl

/-- The name of a type, a filter and a payload are read. -/
theorem ofVerb_update_of_filterText (hbetween : Blanks between) {inner : List Char}
    {entries : Entries String Payload}
    (hpayload : Payload.ofChars? ('{' :: (inner ++ ['}'])) = some (.object entries)) :
    ofVerb .update (gap ++ (name.toList ++ dropTrailingBlanks (behind ++
      ('(' :: (text.toList ++ ')' :: (between ++ '{' :: (inner ++ ['}']))) ++ after)))) =
        .ok (.update name (some filter) entries) := by
  have htrimmed := trimmed_of_ends (show isBlank '(' = false by decide)
    (show isBlank '}' = false by decide) (text.toList ++ ')' :: (between ++ '{' :: inner))
  have hobject := trimmed_of_ends (show isBlank '{' = false by decide)
    (show isBlank '}' = false by decide) inner
  have hhead := head_blanks_append hbehind
    ('(' :: (text.toList ++ ')' :: (between ++ '{' :: (inner ++ ['}']))) ++ after)
    fun c hc ↦ by cases hc; decide
  simp only [List.append_assoc, List.cons_append] at htrimmed
  rw [ofVerb]
  show (splitName .update _ >>= _) = _
  rw [splitName_laidOut .update hgap hname hhead, trimChars_append_left hbehind,
    trimChars_append_right hafter, htrimmed.trimChars_eq]
  show (readFilter .update ('(' :: (text.toList ++ ')' :: _)) >>= _) = _
  rw [readFilter_of_ofText .update hfilter hquote, trimChars_append_left hbetween,
    hobject.trimChars_eq]
  show (readPayload .update _ >>= _) = _
  rw [readPayload_of_object .update hpayload]
  rfl

end

/-! ### The end of any filter -/

/-- **A filter ends where its text ends.** Whatever text stands for a filter, put in parentheses in a
command it is read as that filter, and nothing of it is taken for something else. Only a quote inside
of a bare word would be misread. -/
theorem ofText_of_filterText {text : String} {filter : Filter} (hname : CanNameType name)
    (hfilter : Filter.ofText text = .ok filter)
    (hquote : ∀ w, .bare w ∈ filter.operands → '"' ∉ w.toList) :
    ofText (selectionText .search name text) = .ok (.search name (some filter)) ∧
    ofText (selectionText .delete name text) = .ok (.delete name (some filter)) ∧
    ∀ payload inner entries, payload.toList = '{' :: (inner ++ ['}']) →
      Payload.ofText? payload = some (.object entries) →
      ofText (selectionText .update name text ++ " " ++ payload) =
        .ok (.update name (some filter) entries) := by
  have hverb (verb : Verb) : equalsIgnoringAsciiCase verb.word verb.word = true :=
    beq_self_eq_true _
  have hread := readSelection_of_filterText hname blanks_space blanks_space blanks_nil hfilter hquote
  refine ⟨?_, ?_, fun payload inner entries hbraces hpayload ↦ ?_⟩
  · have hline : (selectionText .search name text).toList = [] ++ (Verb.search.word.toList ++
        ([' '] ++ (name.toList ++ ([' '] ++ ('(' :: (text.toList ++ [')']) ++ []))))) := by
      simp [selectionText, String.toList_append]
    rw [ofText_laidOut (hverb .search) blanks_nil blanks_space (List.cons_ne_nil _ _) hname hline,
      ofVerb, hread]
    rfl
  · have hline : (selectionText .delete name text).toList = [] ++ (Verb.delete.word.toList ++
        ([' '] ++ (name.toList ++ ([' '] ++ ('(' :: (text.toList ++ [')']) ++ []))))) := by
      simp [selectionText, String.toList_append]
    rw [ofText_laidOut (hverb .delete) blanks_nil blanks_space (List.cons_ne_nil _ _) hname hline,
      ofVerb, hread]
    rfl
  · have hline : (selectionText .update name text ++ " " ++ payload).toList =
        [] ++ (Verb.update.word.toList ++ ([' '] ++ (name.toList ++ ([' '] ++
          ('(' :: (text.toList ++ ')' :: ([' '] ++ '{' :: (inner ++ ['}']))) ++ []))))) := by
      simp [selectionText, String.toList_append, hbraces]
    rw [Payload.ofText?, hbraces] at hpayload
    rw [ofText_laidOut (hverb .update) blanks_nil blanks_space (List.cons_ne_nil _ _) hname hline]
    exact ofVerb_update_of_filterText hname blanks_space blanks_space blanks_nil hfilter hquote
      blanks_space hpayload

/-- A filter with parentheses around a part of it and inside of a quoted text. -/
def bracketed : Filter :=
  .and (.comparison (.name "a") .equal (.quoted "(\""))
    (.or (.comparison (.bare "x-y") .less (.name "b"))
      (.comparison (.bool true) .equal (.name "c")))

/-- How it may be written. -/
def bracketedText : String := "a = \"(\\\"\" and (x-y < b or true = c)"

theorem ofText_bracketed :
    ofText (selectionText .search "n" bracketedText) = .ok (.search "n" (some bracketed)) := by
  have hname : CanNameType "n" := by decide
  have hread : Filter.ofText bracketedText = .ok bracketed := by decide +kernel
  have hquote : ∀ w, .bare w ∈ bracketed.operands → '"' ∉ w.toList := by
    intro w hw
    have hword : w = "x-y" := by simpa [bracketed, Filter.operands] using hw
    subst hword
    decide
  exact (ofText_of_filterText hname hread hquote).1

/-- A quote inside of a bare word. -/
def quoteInWord : String := "a = b\"c"

/-- The end of the filter is taken for the inside of a quoted text, and so it is not found. -/
theorem ofText_quoteInWord :
    Filter.ofText quoteInWord = .ok (.comparison (.name "a") .equal (.bare "b\"c")) ∧
      CanNameType "n" ∧
      ofText (selectionText .search "n" quoteInWord) =
        .error (.badCommand .search .unbalancedFilter) := by
  exact ⟨by decide +kernel, by decide, rfl⟩

end Statement

end RecordStore
