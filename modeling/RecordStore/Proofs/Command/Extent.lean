import RecordStore.Proofs.Command.Parts
import RecordStore.Proofs.Payload.Reading

/-!
# How far a filter extends

Searches, deletions and updates look for the end of a filter in the same way. What a text in
parentheses is read as depends on the text alone and not on the verb (`readWhole_cases`), and if it is
read at all, then as a whole: the end that was found is the last parenthesis. So an update with the
text takes the same filter, whatever its payload is (`ofText_updateLine`).

An update might find the end of the filter where a search does not: the rest of the text in parentheses
would then belong to its payload, or the beginning of the payload to its filter. This cannot be if
what is given for a payload is one. For payloads have no parentheses outside of quoted texts
(`closed_of_derives`), and of two payloads that overlap at a parenthesis one would have it outside
(`exists_readWhole_of_update`).
-/

namespace RecordStore.Statement

open RecordStore.Text RecordStore.Number
open Payload (Derives DerivesKey DerivesItems DerivesEntries)

variable {cs core rest passed inner more : List Char} {q : Quotation} {depth : Nat}
  {text type : String}

/-! ### Payloads are closed -/

theorem closed_of_blanks (h : Blanks cs) : Closed cs := by
  refine closed_of_plain fun c hc ↦ ⟨?_, ?_, ?_, ?_⟩
  all_goals
    rintro rfl
    exact absurd (h _ hc) (by decide)

theorem Closed.padded (h : Closed core) (hcs : Padded core cs) : Closed cs := by
  obtain ⟨lead, trail, hlead, htrail, rfl⟩ := hcs
  exact (closed_of_blanks hlead).append (h.append (closed_of_blanks htrail))

theorem closed_cons (c : Char) (hc : c ≠ '(' ∧ c ≠ ')' ∧ c ≠ '\\' ∧ c ≠ '"') (h : Closed cs) :
    Closed (c :: cs) :=
  (closed_of_plain (List.forall_mem_singleton.2 hc)).append h

/-- What is between marks is closed with them. -/
theorem closed_between (first last : Char)
    (hfirst : first ≠ '(' ∧ first ≠ ')' ∧ first ≠ '\\' ∧ first ≠ '"')
    (hlast : last ≠ '(' ∧ last ≠ ')' ∧ last ≠ '\\' ∧ last ≠ '"') (h : Closed cs) :
    Closed (first :: (cs ++ [last])) :=
  closed_cons first hfirst (h.append (closed_of_plain (List.forall_mem_singleton.2 hlast)))

theorem closed_of_legal (h : Number.Legal cs) : Closed cs := by
  refine closed_of_plain fun c hc ↦ ⟨?_, ?_, ?_, ?_⟩
  all_goals
    rintro rfl
    exact absurd (mem_of_legal h hc) (by decide)

theorem closed_of_derivesKey {key : String} (h : DerivesKey cs key) : Closed cs := by
  cases h with
  | quoted h => exact closed_quoted h
  | bare _ h =>
    refine closed_of_plain fun c hc ↦ ⟨?_, ?_, ?_, ?_⟩
    all_goals
      rintro rfl
      exact absurd (h _ hc) (by decide +kernel)

mutual

/-- **A payload has no parenthesis outside of quoted texts.** -/
theorem closed_of_derives {core : List Char} {p : Payload} : Derives core p → Closed core
  | .null | .yes | .no => closed_of_plain (by simp)
  | .number h => closed_of_legal h
  | .text h => closed_quoted h
  | .arrayNil h | .objectNil h => closed_between _ _ (by decide) (by decide) (closed_of_blanks h)
  | .array h => closed_between _ _ (by decide) (by decide) (closed_of_derivesItems h)
  | .object h _ => closed_between _ _ (by decide) (by decide) (closed_of_derivesEntries h)

theorem closed_of_derivesItems {cs : List Char} {items : List Payload} :
    DerivesItems cs items → Closed cs
  | .one h hcs => (closed_of_derives h).padded hcs
  | .cons h hcs hrest =>
    ((closed_of_derives h).padded hcs).append
      (closed_cons ',' (by decide) (closed_of_derivesItems hrest))

theorem closed_of_derivesEntries {cs : List Char} {written : List (String × Payload)} :
    DerivesEntries cs written → Closed cs
  | .one hkey hks h hcs =>
    ((closed_of_derivesKey hkey).padded hks).append
      (closed_cons ':' (by decide) ((closed_of_derives h).padded hcs))
  | .cons hkey hks h hcs hrest =>
    ((closed_of_derivesKey hkey).padded hks).append (closed_cons ':' (by decide)
      (((closed_of_derives h).padded hcs).append
        (closed_cons ',' (by decide) (closed_of_derivesEntries hrest))))

end

theorem closed_of_ofChars? {p : Payload} (h : Payload.ofChars? cs = some p) : Closed cs := by
  obtain ⟨core, hcore, hcs⟩ := Payload.ofChars?_eq_some_iff.1 h
  exact (closed_of_derives hcore).padded hcs

/-! ### Text in parentheses -/

/-- The filter that a text in parentheses stands for. A blank text is no filter. -/
def filterIn (text : List Char) : Except Fault (Option Filter) :=
  if (skipBlanks text).isEmpty then .ok none
  else
    match Filter.ofText (String.ofList text) with
    | .ok filter => .ok (some filter)
    | .error cause => .error (.badFilter cause)

theorem readFilter_open (verb : Verb) (cs : List Char) :
    readFilter verb ('(' :: cs) =
      match splitClosing .outside 0 [] cs with
      | none => .error (.badCommand verb .unbalancedFilter)
      | some (inner, rest) => (filterIn inner).map fun filter ↦ (filter, trimChars rest) := by
  rw [readFilter]
  cases splitClosing .outside 0 [] cs with
  | none => rfl
  | some found =>
    obtain ⟨inner, rest⟩ := found
    dsimp only
    rw [filterIn]
    by_cases hblank : (skipBlanks inner).isEmpty
    · rw [if_pos hblank, if_pos hblank]
      rfl
    · rw [if_neg hblank, if_neg hblank]
      cases Filter.ofText (String.ofList inner) <;> rfl

/-- A text that selects records: one in parentheses, or none. -/
def parenthesized : Option String → List Char
  | none => []
  | some text => '(' :: (text.toList ++ [')'])

/-- The filter that a text in parentheses stands for, if it is all that is there. -/
def readWhole (verb : Verb) (text : Option String) : Except Fault (Option Filter) := do
  let (filter, rest) ← readFilter verb (parenthesized text)
  if !rest.isEmpty then
    throw (.badCommand verb (.trailing (String.ofList rest)))
  return filter

theorem readWhole_none (verb : Verb) : readWhole verb none = .ok none := rfl

theorem readWhole_some (verb : Verb) (text : String) :
    readWhole verb (some text) =
      match splitClosing .outside 0 [] (text.toList ++ [')']) with
      | none => .error (.badCommand verb .unbalancedFilter)
      | some (inner, rest) => (filterIn inner).bind fun filter ↦
        if (trimChars rest).isEmpty then .ok filter
        else .error (.badCommand verb (.trailing (String.ofList (trimChars rest)))) := by
  rw [readWhole, parenthesized, readFilter_open]
  cases splitClosing .outside 0 [] (text.toList ++ [')']) with
  | none => rfl
  | some found =>
    obtain ⟨inner, rest⟩ := found
    dsimp only
    cases filterIn inner with
    | error fault => rfl
    | ok filter =>
      show (if !(trimChars rest).isEmpty then _ else _) = if (trimChars rest).isEmpty then _ else _
      cases (trimChars rest).isEmpty <;> rfl

theorem filterIn_cases (cs : List Char) :
    (∃ filter, filterIn cs = .ok filter) ∨ ∃ cause, filterIn cs = .error (.badFilter cause) := by
  rw [filterIn]
  split
  · exact .inl ⟨_, rfl⟩
  · cases Filter.ofText (String.ofList cs) with
    | ok filter => exact .inl ⟨_, rfl⟩
    | error cause => exact .inr ⟨_, rfl⟩

/-- What a text is read as depends on the verb only in what is said of its shape. -/
theorem readWhole_cases (text : Option String) :
    (∃ filter, ∀ verb, readWhole verb text = .ok filter) ∨
      (∃ cause, ∀ verb, readWhole verb text = .error (.badCommand verb cause)) ∨
      ∃ cause, ∀ verb, readWhole verb text = .error (.badFilter cause) := by
  cases text with
  | none => exact .inl ⟨none, readWhole_none⟩
  | some text =>
    simp only [readWhole_some]
    cases splitClosing .outside 0 [] (text.toList ++ [')']) with
    | none => exact .inr (.inl ⟨_, fun _ ↦ rfl⟩)
    | some found =>
      obtain ⟨inner, rest⟩ := found
      dsimp only
      obtain ⟨filter, hfilter⟩ | ⟨cause, hfilter⟩ := filterIn_cases inner
      · rw [hfilter]
        cases (trimChars rest).isEmpty with
        | true => exact .inl ⟨filter, fun _ ↦ rfl⟩
        | false => exact .inr (.inl ⟨_, fun _ ↦ rfl⟩)
      · rw [hfilter]
        exact .inr (.inr ⟨cause, fun _ ↦ rfl⟩)

/-- A text is read whatever the verb is, or else it is refused for its wording. -/
theorem readWhole_ok_or_error (text : Option String) :
    (∃ filter, ∀ verb, readWhole verb text = .ok filter) ∨
      ∃ fault fault', readWhole .search text = .error fault ∧ readWhole .delete text = .error fault' ∧
        fault.category ≠ .filter := by
  obtain h | ⟨cause, h⟩ | ⟨cause, h⟩ := readWhole_cases text
  · exact .inl h
  · exact .inr ⟨_, _, h .search, h .delete, nofun⟩
  · exact .inr ⟨_, _, h .search, h .delete, nofun⟩

/-- The end of a filter that was read is the last parenthesis. -/
theorem splitClosing_of_readWhole {verb : Verb} {filter : Option Filter}
    (h : readWhole verb (some text) = .ok filter) :
    splitClosing .outside 0 [] (text.toList ++ [')']) = some (text.toList, []) ∧
      filterIn text.toList = .ok filter := by
  rw [readWhole_some] at h
  split at h
  · cases h
  next inner rest hsplit =>
  obtain ⟨found, hfound⟩ | ⟨cause, hfound⟩ := filterIn_cases inner
  case inr => rw [hfound] at h; cases h
  rw [hfound] at h
  change (if (trimChars rest).isEmpty then _ else _) = _ at h
  split at h
  · next hempty =>
    cases h
    have happend : inner ++ ')' :: rest = text.toList ++ [')'] := append_of_splitClosing hsplit
    obtain rfl : rest = [] := by
      obtain ⟨before, behind, hbefore, hbehind, hrest⟩ := padded_trimChars rest
      rw [List.isEmpty_iff.1 hempty, List.nil_append] at hrest
      obtain rfl | ⟨front, last, hlast⟩ := List.eq_nil_or_concat' rest
      · rfl
      -- what is trimmed away would end in a parenthesis
      have hblanks : Blanks rest := hrest ▸ hbefore.append hbehind
      have hend := congrArg List.getLast? happend
      rw [hlast, ← List.cons_append, ← List.append_assoc, List.getLast?_concat,
        List.getLast?_concat] at hend
      have hblank := hblanks last (hlast ▸ List.mem_append_right _ (List.mem_singleton_self _))
      rw [Option.some.inj hend] at hblank
      exact absurd hblank (by decide)
    obtain rfl : inner = text.toList := List.append_cancel_right happend
    exact ⟨hsplit, hfound⟩
  · cases h

/-- A text that stands for a filter is read as that, unless there is a quote in a bare word. -/
theorem readWhole_of_ofText (verb : Verb) {filter : Filter} (h : Filter.ofText text = .ok filter)
    (hquote : ∀ w, .bare w ∈ filter.operands → '"' ∉ w.toList) :
    readWhole verb (some text) = .ok (some filter) := by
  rw [readWhole, parenthesized, readFilter_of_ofText verb h hquote]
  rfl

/-- A text that is read, and is not blank, stands for a filter. -/
theorem exists_filter_of_readWhole {verb : Verb} {filter : Option Filter}
    (h : readWhole verb (some text) = .ok filter) (hblank : ¬ Blanks text.toList) :
    ∃ f, filter = some f ∧ Filter.ofText text = .ok f := by
  have hin := (splitClosing_of_readWhole h).2
  rw [filterIn, if_neg fun hempty ↦ hblank (skipBlanks_eq_nil_iff.1 (List.isEmpty_iff.1 hempty)),
    String.ofList_toList] at hin
  cases hfilter : Filter.ofText text with
  | error cause =>
    rw [hfilter] at hin
    cases hin
  | ok f =>
    rw [hfilter] at hin
    cases hin
    exact ⟨f, rfl, rfl⟩

/-- A parenthesis is found whatever follows it. -/
theorem exists_front_of_splitClosing (h : splitClosing q depth passed cs = some (inner, rest)) :
    ∃ front, cs = front ++ ')' :: rest ∧
      ∀ more, splitClosing q depth passed (front ++ ')' :: more) = some (inner, more) := by
  induction cs generalizing q depth passed with
  | nil => cases h
  | cons c cs ih =>
    unfold splitClosing at h
    split at h
    · next hopen =>
      obtain ⟨front, rfl, hfront⟩ := ih h
      refine ⟨c :: front, rfl, fun more ↦ ?_⟩
      rw [List.cons_append, splitClosing.eq_def]
      dsimp only
      rw [if_pos hopen, hfront]
    · next hopen =>
      split at h
      · next hclose =>
        cases depth with
        | zero =>
          cases h
          obtain ⟨rfl, rfl⟩ := hclose
          exact ⟨[], rfl, fun more ↦ splitClosing_close_zero⟩
        | succ depth =>
          obtain ⟨front, rfl, hfront⟩ := ih h
          refine ⟨c :: front, rfl, fun more ↦ ?_⟩
          rw [List.cons_append, splitClosing.eq_def]
          dsimp only
          rw [if_neg hopen, if_pos hclose]
          exact hfront more
      · next hclose =>
        obtain ⟨front, rfl, hfront⟩ := ih h
        refine ⟨c :: front, rfl, fun more ↦ ?_⟩
        rw [List.cons_append, splitClosing.eq_def]
        dsimp only
        rw [if_neg hopen, if_neg hclose, hfront]

theorem splitClosing_behind (h : splitClosing .outside 0 [] cs = some (inner, rest))
    (more : List Char) : splitClosing .outside 0 [] (inner ++ ')' :: more) = some (inner, more) := by
  obtain ⟨front, rfl, hfront⟩ := exists_front_of_splitClosing h
  have hinner : inner ++ ')' :: rest = front ++ ')' :: rest := append_of_splitClosing h
  rw [List.append_cancel_right hinner]
  rw [List.append_cancel_right hinner] at hfront
  exact hfront more

/-! ### The lines -/

/-- The line of a command that selects records of a type: those of a text in parentheses, or all. -/
def selectingLine (verb : Verb) (type : String) : Option String → String
  | none => verb.word ++ " " ++ type
  | some text => selectionText verb type text

/-- A payload in braces. -/
def braced (payload : String) : List Char := '{' :: (payload.toList ++ ['}'])

/-- The line of an update, whose payload is what stands in braces. -/
def updateLine (type : String) (text : Option String) (payload : String) : String :=
  selectingLine .update type text ++ " " ++ String.ofList (braced payload)

/-- What follows the name of a type that records are selected of. -/
def behindName : Option String → List Char
  | none => []
  | some text => ' ' :: '(' :: (text.toList ++ [')'])

theorem toList_selectingLine (verb : Verb) (type : String) (text : Option String) :
    (selectingLine verb type text).toList =
      [] ++ (verb.word.toList ++ ([' '] ++ (type.toList ++ behindName text))) := by
  cases text <;> simp [selectingLine, behindName, selectionText, String.toList_append]

theorem endsName_behindName (text : Option String) (h : ∀ c ∈ rest.head?, endsName c = true) :
    ∀ c ∈ (behindName text ++ rest).head?, endsName c = true := by
  cases text with
  | none => exact h
  | some text =>
    intro c hc
    cases hc
    decide

section

variable {text : Option String} {payload : String} {filter : Option Filter}
  (hname : CanNameType type)

include hname

theorem readSelection_behindName (verb : Verb) :
    readSelection verb ([' '] ++ (type.toList ++ dropTrailingBlanks (behindName text))) =
      (readWhole verb text).map fun filter ↦ (type, filter) := by
  have hhead := @endsName_behindName [] text nofun
  rw [List.append_nil] at hhead
  have htrim : trimChars (behindName text) = parenthesized text := by
    cases text with
    | none => rfl
    | some text =>
      exact trimChars_space_cons (trimmed_of_ends (show isBlank '(' = false by decide)
        (show isBlank ')' = false by decide) text.toList)
  rw [readSelection, splitName_laidOut verb blanks_space hname hhead, htrim]
  show (readFilter verb (parenthesized text) >>= _) = _
  rw [readWhole]
  cases readFilter verb (parenthesized text) with
  | error fault => rfl
  | ok found =>
    obtain ⟨filter, rest⟩ := found
    cases rest <;> rfl

/-- **A search** says what its text is read as. -/
theorem ofText_searchLine :
    ofText (selectingLine .search type text) = (readWhole .search text).map (.search type) := by
  rw [ofText_laidOut (beq_self_eq_true _) blanks_nil blanks_space (List.cons_ne_nil _ _) hname
    (toList_selectingLine .search type text), ofVerb, readSelection_behindName hname]
  cases readWhole .search text <;> rfl

/-- **A deletion** says what its text is read as. -/
theorem ofText_deleteLine :
    ofText (selectingLine .delete type text) = (readWhole .delete text).map (.delete type) := by
  rw [ofText_laidOut (beq_self_eq_true _) blanks_nil blanks_space (List.cons_ne_nil _ _) hname
    (toList_selectingLine .delete type text), ofVerb, readSelection_behindName hname]
  cases readWhole .delete text <;> rfl

/-- The parts of an update behind the name of its type. -/
theorem ofText_updateLine_eq :
    ofText (updateLine type text payload) =
      (readFilter .update (trimChars (behindName text ++ ' ' :: braced payload))).bind fun found ↦
        (readPayload .update found.2).map (.update type found.1) := by
  have hline : (updateLine type text payload).toList = [] ++ (Verb.update.word.toList ++
      ([' '] ++ (type.toList ++ (behindName text ++ ' ' :: braced payload)))) := by
    rw [updateLine, String.toList_append, String.toList_append, toList_selectingLine]
    simp
  have hhead : ∀ c ∈ (behindName text ++ ' ' :: braced payload).head?, endsName c = true :=
    endsName_behindName text fun c hc ↦ by cases hc; decide
  rw [ofText_laidOut (beq_self_eq_true _) blanks_nil blanks_space (List.cons_ne_nil _ _) hname hline,
    ofVerb]
  show (splitName .update _ >>= _) = _
  rw [splitName_laidOut .update blanks_space hname hhead]
  show (readFilter .update _ >>= _) = _
  cases readFilter .update (trimChars (behindName text ++ ' ' :: braced payload)) with
  | error fault => rfl
  | ok found =>
    obtain ⟨filter, rest⟩ := found
    show (readPayload .update rest >>= _) = (readPayload .update rest).map _
    cases readPayload .update rest <;> rfl

end

theorem trimmed_braced (payload : String) : Trimmed (braced payload) :=
  trimmed_of_ends (by decide) (by decide) payload.toList

theorem trimChars_behindName_braced (text payload : String) :
    trimChars (behindName (some text) ++ ' ' :: braced payload) =
      '(' :: (text.toList ++ ')' :: ' ' :: braced payload) := by
  have htrimmed := trimmed_of_ends (show isBlank '(' = false by decide)
    (show isBlank '}' = false by decide)
    (text.toList ++ ')' :: ' ' :: '{' :: payload.toList)
  have htrim := trimChars_space_cons htrimmed
  simpa [behindName, braced] using htrim

/-- **An update** with a text that a search can read takes the same filter. -/
theorem ofText_updateLine {text : Option String} {filter : Option Filter} {verb : Verb}
    (hname : CanNameType type) (h : readWhole verb text = .ok filter) (payload : String) :
    ofText (updateLine type text payload) =
      (readPayload .update (braced payload)).map (.update type filter) := by
  rw [ofText_updateLine_eq hname]
  cases text with
  | none =>
    cases h
    show (readFilter .update (trimChars (' ' :: braced payload))).bind _ = _
    rw [trimChars_space_cons (trimmed_braced payload)]
    rfl
  | some text =>
    obtain ⟨hsplit, hfilter⟩ := splitClosing_of_readWhole h
    rw [trimChars_behindName_braced, readFilter_open, splitClosing_behind hsplit]
    dsimp only
    rw [hfilter, trimChars_space_cons (trimmed_braced payload)]
    rfl

/-- What is read as the payload of a command is closed. -/
theorem closed_of_readPayload {verb : Verb} {entries : Entries String Payload}
    (h : readPayload verb (trimChars cs) = .ok entries) : Closed cs := by
  unfold readPayload at h
  split at h
  · split at h
    · cases h
    · next hread => exact (closed_of_ofChars? hread).padded (padded_trimChars cs)
    · cases h
  · cases h

/-- A text is cut at a parenthesis in one way only, if what is behind it has to be closed. -/
theorem eq_of_closed_behind (hrest : Closed rest) (hmore : Closed more)
    (h : inner ++ ')' :: rest = cs ++ ')' :: more) : inner = cs := by
  obtain ⟨between, hcs, hbehind⟩ | ⟨between, hinner, hbehind⟩ := List.append_eq_append_iff.1 h
  · cases between with
    | nil => rw [hcs, List.append_nil]
    | cons c between =>
      rw [(List.cons.inj hbehind).2] at hrest
      exact absurd hmore hrest.not_closed_behind
  · cases between with
    | nil => rw [hinner, List.append_nil]
    | cons c between =>
      rw [(List.cons.inj hbehind).2] at hmore
      exact absurd hrest hmore.not_closed_behind

/-- **An update whose payload is one** can be read only if the search with its text can. -/
theorem exists_readWhole_of_update {text : Option String} {payload : String} {p : Payload}
    {statement : Statement} (hname : CanNameType type)
    (hpayload : Payload.ofChars? (braced payload) = some p)
    (h : ofText (updateLine type text payload) = .ok statement) :
    ∃ filter, ∀ verb, readWhole verb text = .ok filter := by
  cases text with
  | none => exact ⟨none, readWhole_none⟩
  | some text =>
    rw [ofText_updateLine_eq hname, trimChars_behindName_braced, readFilter_open] at h
    cases hsplit : splitClosing .outside 0 [] (text.toList ++ ')' :: ' ' :: braced payload) with
    | none =>
      rw [hsplit] at h
      cases h
    | some found =>
      obtain ⟨inner, rest⟩ := found
      rw [hsplit] at h
      dsimp only at h
      obtain ⟨filter, hfilter⟩ | ⟨cause, hfilter⟩ := filterIn_cases inner
      case inr =>
        rw [hfilter] at h
        cases h
      rw [hfilter] at h
      change (readPayload .update (trimChars rest)).map _ = _ at h
      have hrest : Closed rest := by
        cases hread : readPayload .update (trimChars rest) with
        | error fault =>
          rw [hread] at h
          cases h
        | ok entries => exact closed_of_readPayload hread
      have hbraced : Closed (' ' :: braced payload) :=
        closed_cons ' ' (by decide) (closed_of_ofChars? hpayload)
      -- neither may the text go on in the payload that was read, nor the payload in the text
      obtain rfl : inner = text.toList :=
        eq_of_closed_behind hrest hbraced (append_of_splitClosing hsplit)
      refine ⟨filter, fun verb ↦ ?_⟩
      rw [readWhole_some, splitClosing_behind hsplit]
      dsimp only
      rw [hfilter]
      rfl

end RecordStore.Statement
