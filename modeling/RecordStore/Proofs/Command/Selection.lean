import RecordStore.Proofs.Command.Quotation
import RecordStore.Proofs.Filter.Comparison

/-!
# Commands that select records

The end of a filter is looked for before the filter is read, by a reader of its own that keeps count
of parentheses and quotes. It finds the right one wherever the filter is `Enclosed`: quoted texts
are passed over whatever they hold (`splitClosing_inside`), and parentheses outside of them come in
pairs. So a command whose filter compares a field with a quoted text is read as just that, whatever
the text is (`ofText_search`, `ofText_delete`).
-/

namespace RecordStore.Statement

open RecordStore.Text
open Token (CanName)

/-! ### The end of a filter -/

/-- Characters in which every parenthesis outside of quoted texts has its counterpart. -/
inductive Enclosed : List Char → Prop where
  /-- No characters. -/
  | nil : Enclosed []
  /-- A character without a meaning of its own. -/
  | plain {c : Char} (h : c ≠ '(' ∧ c ≠ ')' ∧ c ≠ '"') : Enclosed [c]
  /-- A text between quotes. -/
  | quoted (cs : List Char) : Enclosed ('"' :: (escape cs ++ ['"']))
  /-- A pair of parentheses. -/
  | parentheses {cs : List Char} (h : Enclosed cs) : Enclosed ('(' :: (cs ++ [')']))
  /-- One after another. -/
  | append {cs ds : List Char} (hcs : Enclosed cs) (hds : Enclosed ds) : Enclosed (cs ++ ds)

variable {cs rest passed : List Char} {depth : Nat}

theorem enclosed_of_plain (h : ∀ c ∈ cs, c ≠ '(' ∧ c ≠ ')' ∧ c ≠ '"') : Enclosed cs := by
  induction cs with
  | nil => exact .nil
  | cons c cs ih =>
    obtain ⟨hc, hcs⟩ := List.forall_mem_cons.1 h
    exact Enclosed.append (.plain hc) (ih hcs)

theorem splitClosing_open :
    splitClosing .outside depth passed ('(' :: rest) =
      splitClosing .outside (depth + 1) ('(' :: passed) rest := by
  rw [splitClosing.eq_def]
  rfl

theorem splitClosing_close_succ :
    splitClosing .outside (depth + 1) passed (')' :: rest) =
      splitClosing .outside depth (')' :: passed) rest := by
  rw [splitClosing.eq_def]
  rfl

theorem splitClosing_close_zero :
    splitClosing .outside 0 passed (')' :: rest) = some (passed.reverse, rest) := by
  rw [splitClosing.eq_def]
  rfl

/-- The rest of a quoted text is passed over, whatever stands in it. -/
theorem splitClosing_inside :
    splitClosing .inside depth passed (escape cs ++ '"' :: rest) =
      splitClosing .outside depth ('"' :: ((escape cs).reverse ++ passed)) rest := by
  obtain ⟨hsheltered, hafter⟩ := sheltered_of_decodes (decodes_escape cs)
  rw [splitClosing_of_sheltered hsheltered, hafter]
  exact splitClosing_pass nofun

/-- **What is enclosed is passed over.** -/
theorem splitClosing_append (h : Enclosed cs) :
    splitClosing .outside depth passed (cs ++ rest) =
      splitClosing .outside depth (cs.reverse ++ passed) rest := by
  induction h generalizing depth passed rest with
  | nil => rfl
  | @plain c h =>
    obtain ⟨hopen, hclose, hquote⟩ := h
    have hnext : Quotation.next .outside c = .outside := by rw [Quotation.next, if_neg hquote]
    rw [List.singleton_append, splitClosing_pass fun _ ↦ ⟨hopen, hclose⟩, hnext]
    rfl
  | quoted cs =>
    have hopen : splitClosing .outside depth passed ('"' :: (escape cs ++ '"' :: rest)) =
        splitClosing .inside depth ('"' :: passed) (escape cs ++ '"' :: rest) :=
      splitClosing_pass fun _ ↦ by decide
    rw [List.cons_append, List.append_assoc, List.singleton_append, hopen, splitClosing_inside]
    simp
  | @parentheses cs _ ih =>
    rw [List.cons_append, List.append_assoc, List.singleton_append, splitClosing_open, ih,
      splitClosing_close_succ]
    simp
  | append _ _ ihcs ihds =>
    rw [List.append_assoc, ihcs, ihds]
    simp

/-- A filter that is enclosed ends at the parenthesis put behind it. -/
theorem splitClosing_of_enclosed (h : Enclosed cs) :
    splitClosing .outside 0 [] (cs ++ ')' :: rest) = some (cs, rest) := by
  rw [splitClosing_append h, splitClosing_close_zero, List.append_nil, List.reverse_reverse]

/-! ### A comparison in parentheses -/

theorem enclosed_name {name : String} (h : CanName name) : Enclosed name.toList := by
  obtain ⟨c, cs, hname, -, hchars⟩ := Token.exists_cons_of_isName h.1
  rw [hname]
  refine enclosed_of_plain fun d hd ↦ ?_
  obtain ⟨hends, hquote⟩ := Token.endsWord_of_isNameChar (hchars d hd)
  simp only [Token.endsWord, Bool.or_eq_false_iff, decide_eq_false_iff_not] at hends
  exact ⟨hends.1.1.2, hends.1.2, hquote⟩

theorem enclosed_symbol (op : Operator) : Enclosed op.symbol.toList := by
  have hall : op.symbol.toList.all (fun c ↦ c ≠ '(' && (c ≠ ')' && c ≠ '"')) = true := by
    cases op <;> decide
  exact enclosed_of_plain fun c hc ↦ by simpa using List.all_eq_true.1 hall c hc

theorem enclosed_comparison {field : String} (h : CanName field) (op : Operator) (text : String) :
    Enclosed (Filter.comparisonText field op text).toList := by
  have hspace : Enclosed [' '] := .plain (by decide)
  -- the name, the operator and the blanks are plain, and the rest is quoted
  have hchars : (Filter.comparisonText field op text).toList =
      field.toList ++ ([' '] ++ (op.symbol.toList ++ ([' '] ++
        '"' :: (escape text.toList ++ ['"'])))) := by
    simp [Filter.comparisonText, inQuotes, String.toList_append]
  rw [hchars]
  exact (enclosed_name h).append
    (hspace.append ((enclosed_symbol op).append (hspace.append (.quoted text.toList))))

/-- A blank text has no tokens but the mark of the end, which is no filter. -/
theorem not_blank_of_ofText {text : String} {filter : Filter} (h : Filter.ofText text = .ok filter) :
    ¬ (skipBlanks text.toList).isEmpty = true := by
  intro hblank
  rw [Filter.ofText, Token.ofText, Token.readAll_of_blank (List.isEmpty_iff.1 hblank)] at h
  cases h

/-- A filter in parentheses that is enclosed is read as what it says. -/
theorem readFilter_of_enclosed (verb : Verb) {text : String} {filter : Filter}
    (h : Enclosed text.toList) (hfilter : Filter.ofText text = .ok filter) :
    readFilter verb ('(' :: (text.toList ++ [')'])) = .ok (some filter, []) := by
  rw [readFilter, splitClosing_of_enclosed h]
  dsimp only
  rw [if_neg (not_blank_of_ofText hfilter), String.ofList_toList, hfilter]
  rfl

/-! ### The whole command -/

/-- May the word name a type in a command? -/
def CanNameType (name : String) : Prop := name ≠ "" ∧ ∀ c ∈ name.toList, endsName c = false

instance : DecidablePred CanNameType := fun name ↦
  decidable_of_iff (name ≠ "" ∧ name.toList.all (!endsName ·) = true) (by simp [CanNameType])

theorem splitName_of_canNameType {name : String} (h : CanNameType name) (verb : Verb)
    (hrest : Trimmed rest) :
    splitName verb (' ' :: (name.toList ++ ' ' :: rest)) = .ok (name, rest) := by
  obtain ⟨hne, hchars⟩ := h
  have hcons : name.toList ≠ [] := fun hnil ↦ hne (String.toList_eq_nil_iff.1 hnil)
  have hskip : skipBlanks (' ' :: (name.toList ++ ' ' :: rest)) = name.toList ++ ' ' :: rest := by
    rw [skipBlanks_of_isBlank isBlank_space]
    refine skipBlanks_eq_self fun c hc ↦ ?_
    -- the name is not empty, so what is left begins with its first character
    rw [List.head?_append_of_ne_nil _ hcons] at hc
    have hends := hchars c (List.mem_of_head? hc)
    simp only [endsName, Bool.or_eq_false_iff] at hends
    exact hends.1.1
  obtain ⟨htake, hdrop⟩ := takeWhile_dropWhile_word hchars (show endsName ' ' = true by decide)
  rw [splitName, hskip, htake, hdrop, trimChars_space_cons hrest]
  split
  · next hnil => exact absurd hnil hcons
  · rw [String.ofList_toList]

/-- The text of a command that selects records of a type by a filter. -/
def selectionText (verb : Verb) (type filter : String) : String :=
  verb.word ++ " " ++ type ++ " (" ++ filter ++ ")"

/-- The verb of a command is its first word. -/
theorem ofText_of_verb (verb : Verb) {line : String} {tail : List Char}
    (hline : line.toList = verb.word.toList ++ ' ' :: (tail ++ [')'])) :
    ofText line = ofVerb verb (' ' :: (tail ++ [')'])) := by
  have hall : verb.word.toList.all (!isBlank ·) = true := by cases verb <;> decide
  have hword : ∀ c ∈ verb.word.toList, isBlank c = false :=
    fun c hc ↦ by simpa using List.all_eq_true.1 hall c hc
  have hne : verb.word.toList ≠ [] := by cases verb <;> decide
  have hlower : lowercase verb.word = verb.word := by cases verb <;> decide +kernel
  have htrimmed : Trimmed line.toList := by
    obtain ⟨c, letters, hletters⟩ := List.exists_cons_of_ne_nil hne
    have hfirst : isBlank c = false := hword c (hletters ▸ List.mem_cons_self)
    have hlast : isBlank ')' = false := by decide
    have hends := trimmed_of_ends hfirst hlast (letters ++ ' ' :: tail)
    rw [hline, hletters]
    simpa using hends
  have hsome : line.toList.isEmpty = false := by
    rw [hline, Bool.eq_false_iff, Ne, List.isEmpty_iff]
    exact fun hnil ↦ hne (List.append_eq_nil_iff.1 hnil).1
  obtain ⟨htake, hdrop⟩ := takeWhile_dropWhile_word hword isBlank_space
  rw [← hline] at htake hdrop
  rw [ofText, htrimmed.trimChars_eq, hsome, htake, hdrop, String.ofList_toList, if_neg (by simp)]
  dsimp only
  rw [hlower, Verb.ofWord?_word]

theorem ofText_selectionText (verb : Verb) (name text : String) :
    ofText (selectionText verb name text) =
      ofVerb verb (' ' :: (name.toList ++ ' ' :: '(' :: text.toList ++ [')'])) := by
  refine ofText_of_verb verb ?_
  simp [selectionText, String.toList_append]

section

variable {name text : String} {filter : Filter} (hname : CanNameType name)
  (h : Enclosed text.toList) (hfilter : Filter.ofText text = .ok filter)

include hname h hfilter

theorem readSelection_of_enclosed (verb : Verb) :
    readSelection verb (' ' :: (name.toList ++ ' ' :: '(' :: text.toList ++ [')'])) =
      .ok (name, some filter) := by
  have htrimmed := trimmed_of_ends (show isBlank '(' = false by decide)
    (show isBlank ')' = false by decide) text.toList
  have hsplit := splitName_of_canNameType hname verb htrimmed
  have hread := readFilter_of_enclosed verb h hfilter
  rw [List.append_assoc, List.cons_append, List.cons_append, readSelection, hsplit]
  show (readFilter verb ('(' :: (text.toList ++ [')'])) >>= _) = _
  rw [hread]
  rfl

/-- **A search by a filter** is read as such. -/
theorem ofText_search :
    ofText (selectionText .search name text) = .ok (.search name (some filter)) := by
  rw [ofText_selectionText, ofVerb, readSelection_of_enclosed hname h hfilter]
  rfl

/-- **A deletion by a filter** is read as such. -/
theorem ofText_delete :
    ofText (selectionText .delete name text) = .ok (.delete name (some filter)) := by
  rw [ofText_selectionText, ofVerb, readSelection_of_enclosed hname h hfilter]
  rfl

end

end RecordStore.Statement
