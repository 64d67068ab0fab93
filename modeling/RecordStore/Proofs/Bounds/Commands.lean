import RecordStore.Command.Statement
import RecordStore.Proofs.Bounds.Filters
import RecordStore.Proofs.Bounds.Payloads
import RecordStore.Proofs.Command.Extent

/-!
# Commands within bounds

A line is taken apart by the numbers of its bytes. A character takes up to four of them, so a number
may be that of a byte inside a character, and to cut a text there is out of range, as it is to cut it
behind its end or from a number to a lesser one. The numbers come from looking for a character, or from
adding up what the characters before it take, and they are those of whole characters
(`splitAt?_utf8Length`).

The parentheses of a filter are counted down without asking whether one is open. There is one, because
the count begins at the first character of a text that is known to begin with an opening one
(`splitFilter_eq`).

Put together, a line comes to its statement without ever going out of range, whatever line it is
(`command_eq`).
-/

namespace RecordStore.Bounded

open RecordStore.Text RecordStore.Statement

variable {ε ε' α β : Type}

/-! ### Work on a whole text -/

/-- A part or number that must be there. -/
def need (found : Option α) : Bounded ε α := found.map .ok

/-- A result that is there. -/
def given (result : Except ε α) : Bounded ε α := some result

/-- The same work with other faults. -/
def withFault (f : ε → ε') (work : Bounded ε α) : Bounded ε' α := Option.map (Except.mapError f) work

/-- Work that begins with a result that is there. -/
theorem given_bind {result : Except ε α} {work : α → Bounded ε β} {further : α → Except ε β}
    (h : ∀ a, result = .ok a → work a = given (further a)) :
    (given result >>= work : Bounded ε β) = given (result >>= further) := by
  cases result with
  | error fault => rfl
  | ok a => exact h a rfl

theorem need_bind {found : Option α} {a : α} (h : found = some a) (work : α → Bounded ε β) :
    (need found >>= work : Bounded ε β) = work a := by
  rw [h]
  rfl

/-! ### Bytes -/

/-- How many bytes the characters take. -/
def utf8Length : List Char → Nat
  | [] => 0
  | c :: cs => c.utf8Size + utf8Length cs

/-- The characters that the first `n` bytes are, and those behind. There are none if the bytes end
inside of a character, or if there are not so many. -/
def splitAt? : List Char → Nat → Option (List Char × List Char)
  | cs, 0 => some ([], cs)
  | [], _ + 1 => none
  | c :: cs, n + 1 =>
    (minus? (n + 1) c.utf8Size).bind fun m ↦
      (splitAt? cs m).map fun parts ↦ (c :: parts.1, parts.2)

/-- The characters of the bytes from a number on. -/
def bytesFrom? (cs : List Char) (start : Nat) : Option (List Char) := (splitAt? cs start).map Prod.snd

/-- The characters of the bytes from one number to another. -/
def bytes? (cs : List Char) (start stop : Nat) : Option (List Char) :=
  if start ≤ stop then (splitAt? cs stop).bind fun parts ↦ bytesFrom? parts.1 start else none

/-- The number of the byte at which the first character of a kind begins, if there is one. -/
def findByte (kind : Char → Bool) : List Char → Nat → Option Nat
  | [], _ => none
  | c :: cs, offset => if kind c then some offset else findByte kind cs (offset + c.utf8Size)

theorem utf8Length_append (cs ds : List Char) :
    utf8Length (cs ++ ds) = utf8Length cs + utf8Length ds := by
  induction cs with
  | nil => rw [List.nil_append, utf8Length, Nat.zero_add]
  | cons c cs ih => rw [List.cons_append, utf8Length, utf8Length, ih, Nat.add_assoc]

/-- **Whole characters are cut** where they end. -/
theorem splitAt?_utf8Length (front rest : List Char) :
    splitAt? (front ++ rest) (utf8Length front) = some (front, rest) := by
  induction front with
  | nil => cases rest <;> rfl
  | cons c front ih =>
    obtain ⟨n, hn⟩ := Nat.exists_eq_succ_of_ne_zero (Nat.ne_of_gt (Char.utf8Size_pos c))
    have hlength : utf8Length (c :: front) = (n + utf8Length front) + 1 := by
      rw [utf8Length]
      omega
    have hminus : minus? (n + utf8Length front + 1) c.utf8Size = some (utf8Length front) := by
      rw [minus?_of_le (by omega)]
      congr 1
      omega
    rw [hlength, List.cons_append, splitAt?, hminus, Option.bind_some, ih]
    rfl

theorem bytesFrom?_utf8Length (front rest : List Char) :
    bytesFrom? (front ++ rest) (utf8Length front) = some rest := by
  rw [bytesFrom?, splitAt?_utf8Length]
  rfl

theorem bytes?_utf8Length (front part rest : List Char) :
    bytes? (front ++ (part ++ rest)) (utf8Length front) (utf8Length (front ++ part)) = some part := by
  rw [bytes?, if_pos (by rw [utf8Length_append]; omega), ← List.append_assoc, splitAt?_utf8Length,
    Option.bind_some, bytesFrom?_utf8Length]

/-- Between parentheses, what is inside begins behind the first byte and ends at the closing one. -/
theorem bytes?_inParentheses (inner rest : List Char) :
    bytes? ('(' :: (inner ++ ')' :: rest)) 1 (utf8Length ('(' :: inner)) = some inner :=
  bytes?_utf8Length ['('] inner (')' :: rest)

theorem bytesFrom?_inParentheses (inner rest : List Char) :
    bytesFrom? ('(' :: (inner ++ ')' :: rest)) (utf8Length ('(' :: inner) + 1) = some rest := by
  have hrest := bytesFrom?_utf8Length ('(' :: inner ++ [')']) rest
  rwa [utf8Length_append, List.append_assoc] at hrest

/-- What is looked for begins where the characters before it end, or else at the end of the text. -/
theorem findByte_getD (kind : Char → Bool) (cs : List Char) (offset : Nat) :
    (findByte kind cs offset).getD (offset + utf8Length cs) =
      offset + utf8Length (cs.takeWhile (!kind ·)) := by
  induction cs generalizing offset with
  | nil => rfl
  | cons c cs ih =>
    rw [findByte]
    cases hkind : kind c with
    | true => simp [hkind, utf8Length]
    | false => simpa [hkind, utf8Length, Nat.add_assoc] using ih (offset + c.utf8Size)

/-! ### The parts of a command -/

/-- Takes the name of a type off the front, and the blanks off both ends of what follows it. -/
def splitName (verb : Verb) (cs : List Char) : Bounded Fault (String × List Char) := do
  let cs := skipBlanks cs
  let parts ← need (splitAt? cs ((findByte endsName cs 0).getD (utf8Length cs)))
  if parts.1.isEmpty then throw (.badCommand verb .missingName)
  else return (String.ofList parts.1, trimChars parts.2)

/-- Looks for the parenthesis that closes a filter, from a byte of the text on, where `depth` of them
are open, and cuts the text there. -/
def splitFilterFrom (verb : Verb) (text : List Char) :
    List Char → Nat → Nat → Bool → Bool → Bounded Fault (List Char × List Char)
  | [], _, _, _, _ => throw (.badCommand verb .unbalancedFilter)
  | c :: cs, offset, depth, inString, escaped =>
    if inString then
      if escaped then splitFilterFrom verb text cs (offset + c.utf8Size) depth true false
      else if c = '\\' then splitFilterFrom verb text cs (offset + c.utf8Size) depth true true
      else if c = '"' then splitFilterFrom verb text cs (offset + c.utf8Size) depth false escaped
      else splitFilterFrom verb text cs (offset + c.utf8Size) depth true escaped
    else if c = '"' then splitFilterFrom verb text cs (offset + c.utf8Size) depth true escaped
    else if c = '(' then splitFilterFrom verb text cs (offset + c.utf8Size) (depth + 1) false escaped
    else if c = ')' then do
      let depth ← need (minus? depth 1)
      if depth = 0 then
        let inner ← need (bytes? text 1 offset)
        let rest ← need (bytesFrom? text (offset + 1))
        return (inner, trimChars rest)
      else splitFilterFrom verb text cs (offset + c.utf8Size) depth false escaped
    else splitFilterFrom verb text cs (offset + c.utf8Size) depth false escaped

/-- The text of a filter that the characters begin with, and what follows it. -/
def splitFilter (verb : Verb) (text : List Char) : Bounded Fault (List Char × List Char) :=
  splitFilterFrom verb text text 0 0 false false

/-- The filter that the characters stand for. -/
def filterOf (cs : List Char) : Bounded FilterSyntaxError Filter := do
  let tokens ← withFault .token (Cursor.readTokens.onAll cs)
  Cursor.readWhole.onAll tokens

/-- Takes an optional filter in parentheses off the front. -/
def readFilter (verb : Verb) (cs : List Char) : Bounded Fault (Option Filter × List Char) :=
  if cs.head? = some '(' then do
    let parts ← splitFilter verb cs
    if (trimChars parts.1).isEmpty then return (none, parts.2)
    else
      let filter ← withFault .badFilter (filterOf parts.1)
      return (some filter, parts.2)
  else return (none, cs)

/-- The entries of the object that the characters stand for. -/
def readPayload (verb : Verb) (cs : List Char) : Bounded Fault (Entries String Payload) :=
  if cs.head? = some '{' then do
    match ← withFault (fun _ ↦ .badPayload) (Cursor.readDocument.onAll cs) with
    | .object entries => return entries
    | _ => throw (.badCommand verb .missingObject)
  else throw (.badCommand verb .missingObject)

/-- The name of a type and an optional filter, with nothing after it. -/
def readSelection (verb : Verb) (cs : List Char) : Bounded Fault (String × Option Filter) := do
  let named ← splitName verb cs
  let selected ← readFilter verb named.2
  if selected.2.isEmpty then return (named.1, selected.1)
  else throw (.badCommand verb (.trailing (String.ofList selected.2)))

/-- The statement that a verb and the characters after it make. -/
def ofVerb (verb : Verb) (cs : List Char) : Bounded Fault Statement := do
  match verb with
  | .create =>
    let named ← splitName verb cs
    let entries ← readPayload verb named.2
    if entries.isEmpty then throw .noFields
    else
      let fields ← given (Field.declaredAll entries)
      return .create named.1 fields
  | .insert =>
    let named ← splitName verb cs
    let values ← readPayload verb named.2
    return .insert named.1 values
  | .update =>
    let named ← splitName verb cs
    let selected ← readFilter verb named.2
    let values ← readPayload verb selected.2
    return .update named.1 selected.1 values
  | .delete =>
    let selected ← readSelection verb cs
    return .delete selected.1 selected.2
  | .search =>
    let selected ← readSelection verb cs
    return .search selected.1 selected.2

/-- The statement that a line of text makes. -/
def command (line : String) : Bounded Fault Statement :=
  let cs := trimChars line.toList
  if cs.isEmpty then throw .emptyCommand
  else
    let word := String.ofList (cs.takeWhile (!isBlank ·))
    match Verb.ofWord? (lowercase word) with
    | some verb => ofVerb verb (cs.dropWhile (!isBlank ·)).tail
    | none => throw (.unknownCommand word)

/-! ### What each part comes to -/

theorem splitName_eq (verb : Verb) (cs : List Char) :
    splitName verb cs = given (Statement.splitName verb cs) := by
  have hfind := findByte_getD endsName (skipBlanks cs) 0
  rw [Nat.zero_add, Nat.zero_add] at hfind
  have hsplit := splitAt?_utf8Length ((skipBlanks cs).takeWhile (!endsName ·))
    ((skipBlanks cs).dropWhile (!endsName ·))
  rw [List.takeWhile_append_dropWhile, ← hfind] at hsplit
  rw [splitName, Statement.splitName]
  refine (need_bind hsplit _).trans ?_
  dsimp only
  cases (skipBlanks cs).takeWhile (!endsName ·) <;> rfl

/-- **The closing parenthesis is found** without counting below zero, and the text is cut at it. -/
theorem splitFilterFrom_eq (verb : Verb) {text passed cs : List Char}
    (htext : text = '(' :: (passed.reverse ++ cs)) (q : Quotation) (depth : Nat) :
    splitFilterFrom verb text cs (utf8Length ('(' :: passed.reverse)) (depth + 1)
        (decide (q ≠ .outside)) (decide (q = .escaped)) =
      given ((splitClosing q depth passed cs).elim (.error (.badCommand verb .unbalancedFilter))
        fun parts ↦ .ok (parts.1, trimChars parts.2)) := by
  induction cs generalizing passed q depth with
  | nil => rfl
  | cons c cs ih =>
    have hbehind : text = '(' :: ((c :: passed).reverse ++ cs) := by
      rw [htext, List.reverse_cons, List.append_assoc, List.singleton_append]
    have hoffset : utf8Length ('(' :: passed.reverse) + c.utf8Size =
        utf8Length ('(' :: (c :: passed).reverse) := by
      rw [List.reverse_cons, ← List.cons_append, utf8Length_append]
      rfl
    rw [splitFilterFrom, hoffset]
    have ih (q : Quotation) (depth : Nat) := ih hbehind q depth
    cases q with
    | escaped =>
      rw [splitClosing_pass (q := .escaped) nofun]
      exact ih .inside depth
    | inside =>
      rw [splitClosing_pass (q := .inside) nofun]
      by_cases hback : c = '\\'
      · subst hback
        exact ih .escaped depth
      by_cases hquote : c = '"'
      · subst hquote
        exact ih .outside depth
      rw [if_pos (by decide), if_neg (by decide), if_neg hback, if_neg hquote, Quotation.next,
        if_neg hback, if_neg hquote]
      exact ih .inside depth
    | outside =>
      rw [if_neg (by decide)]
      by_cases hquote : c = '"'
      · subst hquote
        rw [splitClosing_pass fun _ ↦ ⟨by decide, by decide⟩]
        exact ih .inside depth
      by_cases hopen : c = '('
      · subst hopen
        rw [splitClosing_open]
        exact ih .outside (depth + 1)
      rw [if_neg hquote, if_neg hopen]
      by_cases hclose : c = ')'
      case neg =>
        rw [if_neg hclose, splitClosing_pass fun _ ↦ ⟨hopen, hclose⟩, Quotation.next, if_neg hquote]
        exact ih .outside depth
      subst hclose
      rw [if_pos rfl]
      refine (need_bind (minus?_of_le (Nat.le_add_left 1 depth)) _).trans ?_
      rw [Nat.add_sub_cancel]
      cases depth with
      | succ depth =>
        rw [if_neg (Nat.succ_ne_zero _), splitClosing_close_succ]
        exact ih .outside depth
      | zero =>
        rw [if_pos rfl, splitClosing_close_zero, htext]
        exact (need_bind (bytes?_inParentheses passed.reverse cs) _).trans
          (need_bind (bytesFrom?_inParentheses passed.reverse cs) _)

theorem splitFilter_eq (verb : Verb) (cs : List Char) :
    splitFilter verb ('(' :: cs) =
      given ((splitClosing .outside 0 [] cs).elim (.error (.badCommand verb .unbalancedFilter))
        fun parts ↦ .ok (parts.1, trimChars parts.2)) := by
  have htext : '(' :: cs = '(' :: (([] : List Char).reverse ++ cs) := rfl
  exact splitFilterFrom_eq verb htext .outside 0

theorem filterOf_eq (cs : List Char) :
    filterOf cs = given (Filter.ofText (String.ofList cs)) := by
  rw [filterOf, Cursor.readTokens_onAll, Filter.ofText, Token.ofText, String.toList_ofList]
  cases hread : Token.readAll cs with
  | error cause => rfl
  | ok tokens =>
    obtain ⟨front, hfront, hreadable⟩ := Token.exists_readable_of_readAll hread
    exact Cursor.readWhole_onAll ⟨front, hfront, Token.finish_not_mem_of_readable hreadable⟩

theorem isEmpty_trimChars (cs : List Char) : (trimChars cs).isEmpty = (skipBlanks cs).isEmpty := by
  rw [Bool.eq_iff_iff, List.isEmpty_iff, List.isEmpty_iff, trimChars_eq_nil_iff, skipBlanks_eq_nil_iff]

theorem readFilter_eq (verb : Verb) (cs : List Char) :
    readFilter verb cs = given (Statement.readFilter verb cs) := by
  rcases cs with _ | ⟨c, cs⟩
  · rfl
  by_cases hopen : c = '('
  case neg =>
    have hnone : Statement.readFilter verb (c :: cs) = .ok (none, c :: cs) := by
      unfold Statement.readFilter
      split
      · next heq => exact absurd (List.cons.inj heq).1 hopen
      · rfl
    have hhead : ¬(c :: cs).head? = some '(' := mt Option.some.inj hopen
    rw [readFilter, if_neg hhead, hnone]
    rfl
  subst hopen
  rw [readFilter, if_pos List.head?_cons, splitFilter_eq, readFilter_open]
  cases splitClosing .outside 0 [] cs with
  | none => rfl
  | some parts =>
    obtain ⟨inner, rest⟩ := parts
    show (if (trimChars inner).isEmpty then _ else _) = _
    dsimp only
    rw [filterOf_eq, filterIn, isEmpty_trimChars]
    by_cases hblank : (skipBlanks inner).isEmpty
    · rw [if_pos hblank, if_pos hblank]
      rfl
    · rw [if_neg hblank, if_neg hblank]
      cases Filter.ofText (String.ofList inner) <;> rfl

theorem readPayload_eq (verb : Verb) (cs : List Char) :
    readPayload verb cs = given (Statement.readPayload verb cs) := by
  rcases cs with _ | ⟨c, cs⟩
  · rfl
  by_cases hbrace : c = '{'
  case neg =>
    have hnone : Statement.readPayload verb (c :: cs) = .error (.badCommand verb .missingObject) := by
      unfold Statement.readPayload
      split
      · next heq => exact absurd (List.cons.inj heq).1 hbrace
      · rfl
    have hhead : ¬(c :: cs).head? = some '{' := mt Option.some.inj hbrace
    rw [readPayload, if_neg hhead, hnone]
    rfl
  subst hbrace
  rw [readPayload, if_pos List.head?_cons, Cursor.readDocument_onAll, Statement.readPayload]
  cases Payload.ofChars? ('{' :: cs) with
  | none => rfl
  | some p => cases p <;> rfl

theorem readSelection_eq (verb : Verb) (cs : List Char) :
    readSelection verb cs = given (Statement.readSelection verb cs) := by
  rw [readSelection, splitName_eq, Statement.readSelection]
  refine given_bind fun named _ ↦ ?_
  rw [readFilter_eq]
  refine given_bind fun selected _ ↦ ?_
  cases hrest : selected.2.isEmpty <;> simp [hrest] <;> rfl

theorem ofVerb_eq (verb : Verb) (cs : List Char) :
    ofVerb verb cs = given (Statement.ofVerb verb cs) := by
  cases verb with
  | create =>
    rw [ofVerb, splitName_eq, Statement.ofVerb]
    refine given_bind fun named _ ↦ ?_
    rw [readPayload_eq]
    refine given_bind fun entries _ ↦ ?_
    by_cases hentries : List.isEmpty entries = true
    · rw [if_pos hentries, if_pos hentries]
      rfl
    · rw [if_neg hentries, if_neg hentries]
      exact given_bind fun fields _ ↦ rfl
  | insert =>
    rw [ofVerb, splitName_eq, Statement.ofVerb]
    refine given_bind fun named _ ↦ ?_
    rw [readPayload_eq]
    exact given_bind fun values _ ↦ rfl
  | update =>
    rw [ofVerb, splitName_eq, Statement.ofVerb]
    refine given_bind fun named _ ↦ ?_
    rw [readFilter_eq]
    refine given_bind fun selected _ ↦ ?_
    rw [readPayload_eq]
    exact given_bind fun values _ ↦ rfl
  | delete | search =>
    rw [ofVerb, readSelection_eq, Statement.ofVerb]
    exact given_bind fun selected _ ↦ rfl

/-- Blanks in front of the name of a type do not matter to a verb. -/
theorem ofVerb_congr (verb : Verb) {cs ds : List Char} (h : skipBlanks cs = skipBlanks ds) :
    Statement.ofVerb verb cs = Statement.ofVerb verb ds := by
  have hname (verb : Verb) : Statement.splitName verb cs = Statement.splitName verb ds := by
    rw [Statement.splitName, Statement.splitName, h]
  cases verb <;> simp only [Statement.ofVerb, Statement.readSelection, hname]

/-- The blank that ends the verb may be taken off with it. -/
theorem skipBlanks_tail_dropWhile (cs : List Char) :
    skipBlanks (cs.dropWhile (!isBlank ·)).tail = skipBlanks (cs.dropWhile (!isBlank ·)) := by
  cases hcs : cs.dropWhile (!isBlank ·) with
  | nil => rfl
  | cons c rest =>
    have hblank : isBlank c = true := by
      have hhead := List.head?_dropWhile_not (!isBlank ·) cs
      rw [hcs] at hhead
      simpa using hhead
    rw [List.tail_cons, skipBlanks_of_isBlank hblank]

/-- **A line comes to its statement** without going out of range, whatever line it is. -/
theorem command_eq (line : String) : command line = given (Statement.ofText line) := by
  rw [command, Statement.ofText]
  dsimp only
  by_cases hcs : (trimChars line.toList).isEmpty = true
  · rw [if_pos hcs, if_pos hcs]
    rfl
  rw [if_neg hcs, if_neg hcs]
  cases Verb.ofWord? (lowercase (String.ofList ((trimChars line.toList).takeWhile (!isBlank ·)))) with
  | none => rfl
  | some verb =>
    dsimp only
    rw [ofVerb_eq, ofVerb_congr verb (skipBlanks_tail_dropWhile _)]

end RecordStore.Bounded
