import RecordStore.Proofs.Filter.Grammar
import RecordStore.Proofs.Filter.Spelling
import RecordStore.Proofs.Payload.Grammar

/-!
# Names in front of an operator

Any text may be written in front of an operator and a literal. A blank between them keeps its tokens
apart from what follows (`readAll_append_blank`), so the tokens are those of the text, and then two
more. If they are a filter, the operator and the literal belong to its last comparison, and what the
text gives is the left side of that and whatever is before it: nothing, or a filter with `and` or `or`
behind it (`exists_left_of_ofTokens`).

So a text that is no literal and does not begin with a filter of its own stands for a name there, or
for nothing (`OnlyNames`, `ofText_sides_iff`). This is where the names of fields and the words of
filters part: a field may be named `2024`, and a filter has a numeral then.
-/

namespace RecordStore

open RecordStore.Text RecordStore.Number

namespace Token

variable {c d : Char} {cs ds rest : List Char} {s w : String}

/-! ### Tokens in front of a blank -/

/-- Without an equals sign behind it, the character is the operator. -/
theorem readOperator_of_ne_equals (h : cs.head? ≠ some '=') :
    readOperator c cs = (operatorOf? [c]).elim (.error (.unknownOperator (String.ofList [c])))
      fun op ↦ .ok (operator op, cs) := by
  unfold readOperator
  split
  next symbol after hsymbol =>
  obtain ⟨rfl, rfl⟩ : [c] = symbol ∧ cs = after := by
    split at hsymbol
    · exact absurd rfl h
    · cases hsymbol
      exact ⟨rfl, rfl⟩
  cases operatorOf? [c] <;> rfl

theorem readOperator_equals (c : Char) (cs : List Char) :
    readOperator c ('=' :: cs) =
      (operatorOf? [c, '=']).elim (.error (.unknownOperator (String.ofList [c, '='])))
        fun op ↦ .ok (operator op, cs) := by
  unfold readOperator
  split
  next symbol after hsymbol =>
  obtain ⟨rfl, rfl⟩ : [c, '='] = symbol ∧ cs = after := by
    cases hsymbol
    exact ⟨rfl, rfl⟩
  cases operatorOf? [c, '='] <;> rfl

theorem readOperator_append_cons (hd : d ≠ '=') (c : Char) (cs rest : List Char) :
    readOperator c (cs ++ d :: rest) =
      (readOperator c cs).map fun found ↦ (found.1, found.2 ++ d :: rest) := by
  by_cases hcs : cs.head? = some '='
  · obtain ⟨ds, rfl⟩ := List.head?_eq_some_iff.1 hcs
    rw [List.cons_append, readOperator_equals, readOperator_equals]
    cases operatorOf? [c, '='] <;> rfl
  · have happend : (cs ++ d :: rest).head? ≠ some '=' := by
      cases cs with
      | nil => exact fun heq ↦ hd (Option.some.inj heq)
      | cons d ds => exact hcs
    rw [readOperator_of_ne_equals hcs, readOperator_of_ne_equals happend]
    cases operatorOf? [c] <;> rfl

/-- A word ends before such a character, if not earlier. -/
theorem takeWhile_dropWhile_append_cons (hd : endsWord d = true) (cs rest : List Char) :
    (cs ++ d :: rest).takeWhile (!endsWord ·) = cs.takeWhile (!endsWord ·) ∧
      (cs ++ d :: rest).dropWhile (!endsWord ·) = cs.dropWhile (!endsWord ·) ++ d :: rest := by
  induction cs with
  | nil => simp [hd]
  | cons c cs ih =>
    by_cases hc : endsWord c = true
    · simp [hc]
    · simpa [hc] using ih

/-- A token is taken off in front of a blank as it is at the end, unless it is a quoted text that is left
open. -/
theorem readToken_append_blank
    (h : ∀ decoded, readToken c cs ≠ .error (.quoted (.unterminated decoded))) (rest : List Char) :
    (readToken c (cs ++ ' ' :: rest)).toOption =
      (readToken c cs).toOption.map fun found ↦ (found.1, found.2 ++ ' ' :: rest) := by
  unfold readToken at h ⊢
  split
  · rfl
  next hopen =>
  split
  · rfl
  next hclose =>
  split
  · next hquote =>
    rw [if_neg hopen, if_neg hclose, if_pos hquote] at h
    have hopen : ∀ decoded, readQuoted cs ≠ .error (.unterminated decoded) := by
      intro decoded heq
      rw [heq] at h
      exact h decoded rfl
    have happend := toOption_readQuoted_append_space hopen rest
    cases hmore : readQuoted (cs ++ ' ' :: rest) <;> cases hread : readQuoted cs <;>
      rw [hmore, hread] at happend <;> cases happend <;> rfl
  next hquote =>
  split
  · rw [readOperator_append_cons (by decide)]
    cases readOperator c cs <;> rfl
  · obtain ⟨htake, hdrop⟩ := takeWhile_dropWhile_append_cons (by decide : endsWord ' ' = true) cs rest
    rw [htake, hdrop]
    rfl

theorem readAll_of_error {e : TokenError} (hskip : skipBlanks cs = c :: rest)
    (h : readToken c rest = .error e) : readAll cs = .error e := by
  rw [readAll.eq_def]
  split
  · next hnone =>
    rw [hskip] at hnone
    cases hnone
  · next hsome =>
    rw [hskip] at hsome
    cases hsome
    split
    · next hread =>
      rw [h] at hread
      cases hread
      rfl
    · next hread =>
      rw [h] at hread
      cases hread

theorem readAll_congr (h : skipBlanks cs = skipBlanks ds) : readAll cs = readAll ds := by
  cases hskip : skipBlanks ds with
  | nil => rw [readAll_of_blank hskip, readAll_of_blank (h.trans hskip)]
  | cons c rest =>
    cases htoken : readToken c rest with
    | error e => rw [readAll_of_error hskip htoken, readAll_of_error (h.trans hskip) htoken]
    | ok found => rw [readAll_of_readToken hskip htoken, readAll_of_readToken (h.trans hskip) htoken]

theorem skipBlanks_append_of_cons (hskip : skipBlanks cs = c :: ds) (rest : List Char) :
    skipBlanks (cs ++ rest) = c :: (ds ++ rest) := by
  rw [skipBlanks] at hskip
  rw [skipBlanks, List.dropWhile_append, hskip]
  rfl

theorem toOption_readAll (hskip : skipBlanks cs = c :: rest) :
    (readAll cs).toOption = (readToken c rest).toOption.bind fun found ↦
      (readAll found.2).toOption.map (found.1 :: ·) := by
  cases htoken : readToken c rest with
  | error e =>
    rw [readAll_of_error hskip htoken]
    rfl
  | ok found =>
    rw [readAll_of_readToken hskip htoken]
    show _ = (readAll found.2).toOption.map (found.1 :: ·)
    cases readAll found.2 <;> rfl

/-- **What is in front of a blank** has its tokens to itself, unless a quoted text is left open. -/
theorem readAll_append_blank
    (h : ∀ decoded, readAll cs ≠ .error (.quoted (.unterminated decoded))) (rest : List Char) :
    (readAll (cs ++ ' ' :: rest)).toOption =
      (readAll cs).toOption.bind fun tokens ↦ (readAll rest).toOption.map (tokens.dropLast ++ ·) := by
  fun_induction readAll cs with
  | case1 cs hskip =>
    have hrest : skipBlanks (cs ++ ' ' :: rest) = skipBlanks rest := by
      rw [skipBlanks_append (skipBlanks_eq_nil_iff.1 hskip), skipBlanks_of_isBlank isBlank_space]
    rw [readAll_congr hrest]
    show _ = (readAll rest).toOption.map ([] ++ ·)
    cases readAll rest <;> rfl
  | case2 cs c after hskip e htoken =>
    have hopen : ∀ decoded, readToken c after ≠ .error (.quoted (.unterminated decoded)) := by
      intro decoded heq
      cases htoken.symm.trans heq
      exact h decoded rfl
    rw [toOption_readAll (skipBlanks_append_of_cons hskip _), readToken_append_blank hopen, htoken]
    rfl
  | case3 cs c after hskip token behind htoken ih =>
    have hopen : ∀ decoded, readToken c after ≠ .error (.quoted (.unterminated decoded)) := by
      intro decoded heq
      cases htoken.symm.trans heq
    have hbehind : ∀ decoded, readAll behind ≠ .error (.quoted (.unterminated decoded)) := by
      intro decoded heq
      rw [heq] at h
      exact h decoded rfl
    rw [toOption_readAll (skipBlanks_append_of_cons hskip _), readToken_append_blank hopen, htoken]
    show (readAll (behind ++ ' ' :: rest)).toOption.map (token :: ·) = _
    rw [ih hbehind]
    cases hread : readAll behind with
    | error e => rfl
    | ok tokens =>
      have hne : tokens ≠ [] := by
        rintro rfl
        cases getLast?_readAll hread
      show ((readAll rest).toOption.map (tokens.dropLast ++ ·)).map (token :: ·) =
        (readAll rest).toOption.map ((token :: tokens).dropLast ++ ·)
      rw [List.dropLast_cons_of_ne_nil hne, Option.map_map]
      rfl

/-! ### One name -/

theorem blanks_of_readAll (h : readAll cs = .ok [finish]) : Blanks cs := by
  fun_cases readAll cs with
  | case1 hskip => exact skipBlanks_eq_nil_iff.1 hskip
  | case2 c after hskip e htoken =>
    rw [readAll_of_error hskip htoken] at h
    cases h
  | case3 c after hskip token behind htoken =>
    rw [readAll_of_readToken hskip htoken] at h
    obtain ⟨tokens, htokens, heq⟩ := map_eq_ok.1 h
    obtain rfl : tokens = [] := (List.cons.inj heq).2
    cases getLast?_readAll htokens

/-- A word that is read as a name is one. -/
theorem canName_of_ofWord (h : ofWord s = name w) : CanName w ∧ s = w := by
  unfold ofWord at h
  split at h
  · next t hlookup =>
    have hkeywords : ∀ e ∈ keywords, e.2 ≠ name w := by simp [keywords]
    exact absurd h (hkeywords _ (Entries.mem_of_lookup hlookup))
  next hlookup =>
  split at h
  · cases h
  split at h
  · next hname =>
    cases h
    refine ⟨⟨hname, fun hmem ↦ ?_⟩, rfl⟩
    have hkeys : ["and", "or", "include", "true", "false"] = keywords.map (·.1) := by decide
    rw [hkeys] at hmem
    obtain ⟨e, he, heq⟩ := List.mem_map.1 hmem
    have hne := List.lookup_eq_none_iff.1 hlookup e he
    rw [heq, bne_self_eq_false] at hne
    cases hne
  · cases h

theorem trimmed_of_canName (h : CanName w) : Trimmed w.toList := by
  obtain ⟨c, cs, hcons, -, hchars⟩ := exists_cons_of_isName h.1
  exact trimmed_of_not_isBlank fun d hd ↦
    (endsWord_eq_false_iff.1 (endsWord_of_isNameChar (hchars d (hcons ▸ hd))).1).1

/-- A name that is taken off is written out. -/
theorem eq_append_of_front (h : Front cs (name w) rest) : CanName w ∧ cs = w.toList ++ rest := by
  generalize ht : name w = t at h
  cases h with
  | «open» | close | quoted | operator => cases ht
  | @word word =>
    obtain ⟨hcan, rfl⟩ := canName_of_ofWord ht.symm
    rw [String.toList_ofList]
    exact ⟨hcan, rfl⟩

/-- **A text is one name** if it is that name, but for blanks around it. -/
theorem ofText_eq_name_iff : Token.ofText s = .ok [name w, finish] ↔ CanName w ∧ trim s = w := by
  constructor
  · intro h
    rw [Token.ofText] at h
    obtain ⟨lead, hlead, hs⟩ := exists_blanks_append s.toList
    cases hskip : skipBlanks s.toList with
    | nil =>
      rw [readAll_of_blank hskip] at h
      cases h
    | cons c after =>
      cases htoken : readToken c after with
      | error e =>
        rw [readAll_of_error hskip htoken] at h
        cases h
      | ok found =>
        obtain ⟨token, behind⟩ := found
        rw [readAll_of_readToken hskip htoken] at h
        obtain ⟨tokens, hbehind, heq⟩ := map_eq_ok.1 h
        obtain ⟨rfl, rfl⟩ := List.cons.inj heq
        have hfront := front_of_readToken (isBlank_head_skipBlanks hskip) htoken
        obtain ⟨hcan, hword⟩ := eq_append_of_front hfront
        refine ⟨hcan, ?_⟩
        rw [trim, ← hs, hskip, hword, trimChars_append_left hlead,
          trimChars_append_right (blanks_of_readAll hbehind), (trimmed_of_canName hcan).trimChars_eq,
          String.ofList_toList]
  · rintro ⟨hcan, rfl⟩
    obtain ⟨lead, trail, hlead, htrail, hs⟩ := padded_trimChars s.toList
    have hreadable : ∀ t ∈ [name (trim s)], t.Readable :=
      List.forall_mem_singleton.2 (readable_name hcan)
    have hends : (name (trim s)).EndsBefore trail :=
      endsBefore_of_head _ fun c hc ↦ htrail c (List.mem_of_head? hc)
    have hread := readAll_of_spells hreadable (.cons hlead hends (.nil htrail))
    have hchars : s.toList = lead ++ ((name (trim s)).spelling.toList ++ trail) := by
      show _ = lead ++ ((trim s).toList ++ trail)
      rw [trim, String.toList_ofList]
      exact hs
    rw [Token.ofText, hchars, hread]
    rfl

end Token

namespace Filter

variable {place : Place} {level : Level} {outer : List Level} {front before ls : List Token}
  {op : Operator} {left x : Operand} {filter : Filter} {name text : String}

/-! ### The left side of the last comparison -/

theorem Level.Accounts.cases (h : level.Accounts ls) :
    (level = .start ∧ ls = []) ∨
      ∃ before joint f, ls = before ++ [joint] ∧ (joint = .and ∨ joint = .or) ∧ Derives before f := by
  obtain ⟨ds, cs, hdisjunct, hconjunct, rfl⟩ := h
  obtain ⟨disjunct, conjunct⟩ := level
  cases conjunct with
  | some conjunct =>
    obtain ⟨cs, hconjunct, rfl⟩ := hconjunct
    cases disjunct with
    | some disjunct =>
      obtain ⟨ds, hdisjunct, rfl⟩ := hdisjunct
      exact .inr ⟨ds ++ .or :: cs, .and, _, by simp, .inl rfl, .or hdisjunct hconjunct⟩
    | none =>
      obtain rfl : ds = [] := hdisjunct
      exact .inr ⟨cs, .and, _, rfl, .inl rfl, .one hconjunct⟩
  | none =>
    obtain rfl : cs = [] := hconjunct
    cases disjunct with
    | some disjunct =>
      obtain ⟨ds, hdisjunct, rfl⟩ := hdisjunct
      exact .inr ⟨ds, .or, _, List.append_nil _, .inr rfl, hdisjunct⟩
    | none =>
      obtain rfl : ds = [] := hdisjunct
      exact .inl ⟨rfl, rfl⟩

section

variable {t : Token} {place' : Place} {level' : Level} {outer' : List Level}

theorem Moves.of_operator (h : Moves t place level outer place' level' outer')
    (ht : t.operator? = some op) :
    ∃ left, place = .operand left ∧ place' = .operator left op ∧ level' = level ∧ outer' = outer := by
  cases h with
  | operator hop left =>
    cases hop.symm.trans ht
    exact ⟨left, rfl, rfl, rfl, rfl⟩
  | left x | right _ _ x => cases x <;> cases ht
  | «open» | and | or | close => cases ht

theorem Moves.of_operand (h : Moves t (.operator left op) level outer place' level' outer')
    (ht : t.operand? = some x) :
    place' = .after (.comparison left op x) ∧ level' = level ∧ outer' = outer := by
  cases h with
  | right _ _ y =>
    cases (Token.operand?_token y).symm.trans ht
    exact ⟨rfl, rfl, rfl⟩

end

/-- An operator and an operand at the end complete the comparison whose left side is before them. -/
theorem exists_level_of_readFrom (hbefore : Accounts place level outer before)
    (hfront : .finish ∉ front)
    (h : readFrom place level outer (front ++ [op.token, x.token, .finish]) = .ok filter) :
    ∃ (left : Operand) (level : Level) (ls : List Token), level.Accounts ls ∧
      before ++ front = ls ++ [left.token] ∧ filter = level.close (.comparison left op x) := by
  induction front generalizing place level outer before with
  | nil =>
    rw [List.nil_append] at h
    obtain ⟨hnone, -⟩ | ⟨_, _, _, hmoves, hright⟩ := moves_of_readFrom h
    · cases (congrArg Token.operator? hnone).symm.trans (Token.operator?_token op)
    obtain ⟨left, rfl, rfl, rfl, rfl⟩ := hmoves.of_operator (Token.operator?_token op)
    obtain ⟨hnone, -⟩ | ⟨_, _, _, hmoves, hend⟩ := moves_of_readFrom hright
    · cases (congrArg Token.operand? hnone).symm.trans (Token.operand?_token x)
    obtain ⟨rfl, rfl, rfl⟩ := hmoves.of_operand (Token.operand?_token x)
    obtain ⟨-, rfl, atom, hatom, rfl⟩ | ⟨_, _, _, -, hnone⟩ := moves_of_readFrom hend
    · cases hatom
      obtain ⟨os, ls, ps, houter, hlevel, hplace, rfl⟩ := hbefore
      cases houter
      cases hplace
      exact ⟨left, _, ls, hlevel, by simp, rfl⟩
    · rw [readFrom] at hnone
      cases hnone
  | cons t front ih =>
    rw [List.mem_cons, not_or] at hfront
    obtain ⟨rfl, -⟩ | ⟨_, _, _, hmoves, hnext⟩ := moves_of_readFrom h
    · exact absurd rfl hfront.1
    · have hlevel := ih (hbefore.moves hmoves) hfront.2 hnext
      rwa [List.append_assoc, List.singleton_append] at hlevel

/-- **An operator and an operand at the end** belong to the last comparison. In front of them is its
left side, alone or behind a filter with `and` or `or`. -/
theorem exists_left_of_ofTokens (hfront : .finish ∉ front)
    (h : ofTokens (front ++ [op.token, x.token, .finish]) = .ok filter) :
    ∃ left : Operand, (front = [left.token] ∧ filter = .comparison left op x) ∨
      ∃ before joint f, front = before ++ [joint, left.token] ∧ (joint = .and ∨ joint = .or) ∧
        Derives before f := by
  have hstart : Accounts .due .start [] [] := ⟨[], [], [], .nil, accounts_start, .due, rfl⟩
  obtain ⟨left, level, ls, hlevel, hls, rfl⟩ := exists_level_of_readFrom hstart hfront h
  rw [List.nil_append] at hls
  refine ⟨left, ?_⟩
  obtain ⟨rfl, rfl⟩ | ⟨before, joint, f, rfl, hjoint, hderives⟩ := hlevel.cases
  · exact .inl ⟨hls, rfl⟩
  · exact .inr ⟨before, joint, f, by simpa using hls, hjoint, hderives⟩

/-! ### A text in front of an operator -/

/-- The text of a comparison. -/
def sidesText (left : String) (op : Operator) (right : String) : String :=
  left ++ " " ++ op.symbol ++ " " ++ right

/-- In front of an operator and an operand, the text can stand for a name only. -/
structure OnlyNames (text : String) : Prop where
  /-- No quoted text is left open in it. -/
  closed : ∀ decoded, Token.ofText text ≠ .error (.quoted (.unterminated decoded))
  /-- It is no literal. -/
  single : ∀ x : Operand, Token.ofText text = .ok [x.token, .finish] → ∃ w, x = .name w
  /-- It is no filter with an operand joined to it. -/
  joined : ∀ before joint (x : Operand) f,
    Token.ofText text = .ok (before ++ [joint, x.token, .finish]) → joint = .and ∨ joint = .or →
      ¬ Derives before f

/-- A name, with blanks around it, stands for nothing else. -/
theorem onlyNames_of_canName (h : Token.CanName (trim text)) : OnlyNames text := by
  have hread := Token.ofText_eq_name_iff.2 ⟨h, rfl⟩
  constructor
  · intro cause hquoted
    cases hread.symm.trans hquoted
  · intro x hsingle
    have htoken := (List.cons.inj (Except.ok.inj (hread.symm.trans hsingle))).1
    exact ⟨trim text, Option.some.inj (by rw [← Token.operand?_token x, ← htoken]; rfl)⟩
  · intro before joint x f hjoined
    have hlength := congrArg List.length (Except.ok.inj (hread.symm.trans hjoined))
    simp at hlength

/-- Several words without `and` and `or` between them stand for nothing. -/
theorem onlyNames_of_several (hread : Token.ofText text = .ok (front ++ [.finish]))
    (hlength : 1 < front.length) (hand : .and ∉ front) (hor : .or ∉ front) : OnlyNames text := by
  constructor
  · intro cause hquoted
    cases hread.symm.trans hquoted
  · intro x hsingle
    have hone := congrArg List.length (Except.ok.inj (hread.symm.trans hsingle))
    simp at hone
    omega
  · intro before joint x f hjoined hjoint
    have hfront : front ++ [.finish] = before ++ [joint, x.token] ++ [.finish] := by
      rw [Except.ok.inj (hread.symm.trans hjoined), List.append_assoc]
      rfl
    have hmem : joint ∈ front := by
      rw [List.append_cancel_right hfront]
      simp
    rcases hjoint with rfl | rfl
    · exact absurd hmem hand
    · exact absurd hmem hor

theorem readAll_symbol (op : Operator) :
    Token.readAll op.symbol.toList = .ok [op.token, .finish] := by
  cases op <;> decide +kernel

/-- The tokens of a comparison are those of its left side, and those of its operator and its right
side. -/
theorem toOption_ofText_sidesText
    (hname : ∀ decoded, Token.ofText name ≠ .error (.quoted (.unterminated decoded))) (op : Operator)
    (htext : Token.ofText text = .ok [x.token, .finish]) :
    (Token.ofText (sidesText name op text)).toOption =
      (Token.ofText name).toOption.map fun tokens ↦
        tokens.dropLast ++ [op.token, x.token, .finish] := by
  have hchars : (sidesText name op text).toList =
      name.toList ++ ' ' :: (op.symbol.toList ++ ' ' :: text.toList) := by
    simp [sidesText, String.toList_append]
  have hright : (Token.readAll (op.symbol.toList ++ ' ' :: text.toList)).toOption =
      some [op.token, x.token, .finish] := by
    rw [Token.readAll_append_blank (by rw [readAll_symbol]; nofun), readAll_symbol, ← Token.ofText,
      htext]
    rfl
  rw [Token.ofText, hchars, Token.readAll_append_blank hname, hright]
  show (Token.ofText name).toOption.bind _ = _
  cases Token.ofText name <;> rfl

theorem ofText_eq_ok_iff :
    ofText text = .ok filter ↔
      ∃ tokens, (Token.ofText text).toOption = some tokens ∧ ofTokens tokens = .ok filter := by
  rw [ofText]
  cases Token.ofText text with
  | error cause =>
    constructor
    · intro h
      cases h
    · rintro ⟨_, hnone, -⟩
      cases hnone
  | ok tokens =>
    constructor
    · exact fun h ↦ ⟨tokens, rfl, h⟩
    · rintro ⟨_, hsome, h⟩
      cases hsome
      exact h

/-- **A text that can stand for a name only** stands for one if it is one, and else for nothing. -/
theorem ofText_sides_iff (hname : OnlyNames name) (op : Operator)
    (htext : Token.ofText text = .ok [x.token, .finish]) :
    ofText (sidesText name op text) = .ok filter ↔
      Token.CanName (trim name) ∧ filter = .comparison (.name (trim name)) op x := by
  rw [ofText_eq_ok_iff, toOption_ofText_sidesText hname.closed op htext]
  constructor
  · rintro ⟨_, htokens, h⟩
    obtain ⟨tokens, hread, rfl⟩ := Option.map_eq_some_iff.1 htokens
    replace hread := eq_ok_of_toOption hread
    obtain ⟨front, rfl, hfront⟩ := Token.exists_readable_of_readAll hread
    rw [List.dropLast_concat] at h
    obtain ⟨left, hleft⟩ := exists_left_of_ofTokens (Token.finish_not_mem_of_readable hfront) h
    obtain ⟨rfl, rfl⟩ | ⟨before, joint, f, rfl, hjoint, hderives⟩ := hleft
    · obtain ⟨w, rfl⟩ := hname.single left hread
      obtain ⟨hcan, rfl⟩ := Token.ofText_eq_name_iff.1 hread
      exact ⟨hcan, rfl⟩
    · rw [List.append_assoc] at hread
      exact absurd hderives (hname.joined before joint left f hread hjoint)
  · rintro ⟨hcan, rfl⟩
    rw [Token.ofText_eq_name_iff.2 ⟨hcan, rfl⟩]
    have hwrites := Token.operator?_eq_some_iff.1 (Token.operator?_token op)
    exact ⟨_, rfl, ofTokens_of_derives (.one (.one (.comparison (.name (trim name)) hwrites x)))⟩

end Filter

end RecordStore
