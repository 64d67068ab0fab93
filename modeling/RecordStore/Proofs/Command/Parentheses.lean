import Mathlib.Data.Nat.Count
import RecordStore.Proofs.Bounds.Commands

/-!
# The parenthesis that closes a filter

Where a filter ends is said here without a reader. A quoted text begins at a quote that lies in no
quoted text before it, and ends at the next quote that no backslash consumes (`RunBegins`, `RunEnds`).
The filter ends at the first position where the parentheses that lie in no quoted text balance
(`Closes`).

`splitClosing` goes through the text once, and remembers of the quoted texts only where it stands in
relation to them, and of the parentheses only how many are open. Both are what the definitions say of
the characters passed so far: the relation tells whether a quoted text is still open and whether its
last backslash is waiting for a character (`stands_stateAt`), and the number of open parentheses is the
difference of those counted (`Passed`). So the parenthesis that is found is the one that closes, and if
none is found there is none (`splitClosing_cases`), and a text is cut by the numbers of its bytes at the
same place (`cut_at_closing`).
-/

namespace RecordStore.Statement

open RecordStore.Text

variable {text cs passed inner rest : List Char} {start stop p depth : Nat} {c : Char} {q : Quotation}

/-! ### Quoted texts by position -/

/-- Does a backslash consume the character at a position, in the quoted text that begins at `start`?
The backslash stands directly before it, in the quoted text, and is not consumed itself. -/
def Consumed (text : List Char) (start : Nat) : Nat → Prop
  | 0 => False
  | p + 1 => start < p ∧ text[p]? = some '\\' ∧ ¬Consumed text start p

/-- The quoted text that begins at `start` ends at the next quote that is not consumed, or else at the
end of the text. -/
structure RunEnds (text : List Char) (start stop : Nat) : Prop where
  /-- The end is not the quote at which it begins. -/
  lt : start < stop
  /-- The end is that of the text, or a quote that is not consumed. -/
  ends : stop = text.length ∨ text[stop]? = some '"' ∧ ¬Consumed text start stop
  /-- There is no such quote before it. -/
  next : ∀ p, start < p → p < stop → text[p]? = some '"' → Consumed text start p

/-- A quoted text begins at a quote that lies behind the ends of all quoted texts that began before. -/
def RunBegins (text : List Char) (start : Nat) : Prop :=
  text[start]? = some '"' ∧ ∀ earlier, earlier < start → RunBegins text earlier →
    ∀ stop, RunEnds text earlier stop → stop < start
termination_by start

/-- The position lies in a quoted text, which includes the quotes at its ends. -/
def Quoted (text : List Char) (p : Nat) : Prop :=
  ∃ start stop, RunBegins text start ∧ RunEnds text start stop ∧ start ≤ p ∧ p ≤ stop

/-- A quoted text that begins at `start` has not ended before `p`. -/
structure RunOpen (text : List Char) (start p : Nat) : Prop where
  /-- It begins. -/
  begins : RunBegins text start
  /-- It begins before. -/
  lt : start < p
  /-- There was no quote that could have ended it. -/
  next : ∀ m, start < m → m < p → text[m]? = some '"' → Consumed text start m

theorem runBegins_iff : RunBegins text start ↔ text[start]? = some '"' ∧
    ∀ earlier < start, RunBegins text earlier → ∀ stop, RunEnds text earlier stop → stop < start := by
  rw [RunBegins]

theorem RunEnds.le (h : RunEnds text start stop) : stop ≤ text.length := by
  obtain rfl | ⟨hquote, -⟩ := h.ends
  · exact le_rfl
  · exact (List.getElem?_eq_some_iff.1 hquote).1.le

/-- Every quoted text ends somewhere. -/
theorem exists_runEnds (h : start < text.length) : ∃ stop, RunEnds text start stop := by
  classical
  have hexists : ∃ stop, start < stop ∧
      (stop = text.length ∨ text[stop]? = some '"' ∧ ¬Consumed text start stop) :=
    ⟨text.length, h, .inl rfl⟩
  obtain ⟨hlt, hends⟩ := Nat.find_spec hexists
  refine ⟨Nat.find hexists, hlt, hends, fun p hp hbefore hquote ↦ ?_⟩
  by_contra hconsumed
  exact Nat.find_min hexists hbefore ⟨hp, .inr ⟨hquote, hconsumed⟩⟩

theorem RunOpen.le_of_runEnds (h : RunOpen text start p) (hp : p ≤ text.length)
    (hstop : RunEnds text start stop) : p ≤ stop := by
  by_contra hlt
  obtain rfl | ⟨hquote, hconsumed⟩ := hstop.ends
  · exact hlt hp
  · exact hconsumed (h.next stop hstop.lt (Nat.lt_of_not_le hlt) hquote)

/-- A quoted text that is open began before no other one. -/
theorem RunOpen.le_of_runOpen {other : Nat} (h : RunOpen text start p) (hp : p ≤ text.length)
    (hother : RunOpen text other p) : other ≤ start := by
  by_contra hlt
  obtain ⟨stop, hstop⟩ := exists_runEnds (h.lt.trans_le hp)
  -- the other one would begin inside of this one
  have hbefore := (runBegins_iff.1 hother.begins).2 start (Nat.lt_of_not_le hlt) h.begins stop hstop
  exact absurd (h.le_of_runEnds hp hstop) (Nat.not_le.2 (hbefore.trans hother.lt))

theorem RunOpen.unique {other : Nat} (h : RunOpen text start p) (hp : p ≤ text.length)
    (hother : RunOpen text other p) : start = other :=
  Nat.le_antisymm (hother.le_of_runOpen hp h) (h.le_of_runOpen hp hother)

/-- What is open before a character was open before the one in front of it, or begins there. -/
theorem RunOpen.of_succ (h : RunOpen text start (p + 1)) (hne : start ≠ p) : RunOpen text start p where
  begins := h.begins
  lt := Nat.lt_of_le_of_ne (Nat.le_of_lt_succ h.lt) hne
  next m hm hbefore := h.next m hm (Nat.lt_succ_of_lt hbefore)

theorem RunOpen.succ (h : RunOpen text start p)
    (hquote : text[p]? = some '"' → Consumed text start p) : RunOpen text start (p + 1) where
  begins := h.begins
  lt := Nat.lt_succ_of_lt h.lt
  next m hm hbefore hmark := by
    obtain hlt | rfl := Nat.lt_succ_iff_lt_or_eq.1 hbefore
    · exact h.next m hm hlt hmark
    · exact hquote hmark

theorem RunOpen.succ_of_ne (h : RunOpen text start p) (hc : text[p]? = some c) (hquote : c ≠ '"') :
    RunOpen text start (p + 1) :=
  h.succ fun hmark ↦ absurd (Option.some.inj (hc.symm.trans hmark)) hquote

/-- Where no quoted text is open, a quote begins one. -/
theorem runBegins_of_not_runOpen (h : ∀ start, ¬RunOpen text start p)
    (hquote : text[p]? = some '"') : RunBegins text p := by
  refine runBegins_iff.2 ⟨hquote, fun earlier hlt hbegins stop hstop ↦ ?_⟩
  by_contra hle
  refine h earlier ⟨hbegins, hlt, fun m hm hbefore ↦ hstop.next m hm ?_⟩
  exact hbefore.trans_le (Nat.le_of_not_lt hle)

/-- Where no quoted text is open, none is open behind a character that is no quote. -/
theorem not_runOpen_succ_of_ne (h : ∀ start, ¬RunOpen text start p) (hc : text[p]? = some c)
    (hquote : c ≠ '"') (start : Nat) : ¬RunOpen text start (p + 1) := by
  intro hopen
  by_cases hstart : start = p
  · have hbegins := (runBegins_iff.1 hopen.begins).1
    rw [hstart, hc] at hbegins
    exact hquote (Option.some.inj hbegins)
  · exact h start (hopen.of_succ hstart)

/-- Behind the quote that ends a quoted text, none is open. -/
theorem RunOpen.not_runOpen_succ (h : RunOpen text start p) (hfree : ¬Consumed text start p)
    (hquote : text[p]? = some '"') (other : Nat) : ¬RunOpen text other (p + 1) := by
  intro hother
  have hp : p < text.length := (List.getElem?_eq_some_iff.1 hquote).1
  by_cases hne : other = p
  · -- the quote that ends one text begins no other one
    have hends : RunEnds text start p := ⟨h.lt, .inr ⟨hquote, hfree⟩, h.next⟩
    rw [hne] at hother
    exact lt_irrefl p ((runBegins_iff.1 hother.begins).2 start h.lt h.begins p hends)
  · obtain rfl := h.unique hp.le (hother.of_succ hne)
    exact hfree (hother.next p h.lt p.lt_succ_self hquote)

/-! ### Where a reader stands -/

/-- The relation to quoted texts before a position, for whoever reads from the front. -/
def stateAt (text : List Char) (p : Nat) : Quotation := Quotation.outside.after (text.take p)

theorem stateAt_succ (hc : text[p]? = some c) : stateAt text (p + 1) = (stateAt text p).next c := by
  rw [stateAt, List.take_add_one, hc, Quotation.after_append]
  rfl

/-- What the relation to quoted texts before a position says of them. -/
inductive Stands (text : List Char) (p : Nat) : Quotation → Prop where
  /-- None is open. -/
  | outside (hclosed : ∀ start, ¬RunOpen text start p) : Stands text p .outside
  /-- One is open, and the next character has its own meaning. -/
  | inside {start : Nat} (hopen : RunOpen text start p) (hfree : ¬Consumed text start p) :
    Stands text p .inside
  /-- One is open, and the next character is consumed. -/
  | escaped {start : Nat} (hopen : RunOpen text start p) (hconsumed : Consumed text start p) :
    Stands text p .escaped

/-- **One character further**, the relation says the same of the position behind it. -/
theorem Stands.next (h : Stands text p q) (hc : text[p]? = some c) :
    Stands text (p + 1) (q.next c) := by
  cases h with
  | outside hclosed =>
    by_cases hquote : c = '"'
    · subst hquote
      have hopen : RunOpen text p (p + 1) :=
        ⟨runBegins_of_not_runOpen hclosed hc, p.lt_succ_self, fun m hm hbefore ↦ by omega⟩
      exact .inside hopen fun hconsumed ↦ lt_irrefl p hconsumed.1
    · rw [Quotation.next, if_neg hquote]
      exact .outside (not_runOpen_succ_of_ne hclosed hc hquote)
  | @inside start hopen hfree =>
    by_cases hback : c = '\\'
    · subst hback
      exact .escaped (hopen.succ_of_ne hc (by decide)) ⟨hopen.lt, hc, hfree⟩
    by_cases hquote : c = '"'
    · subst hquote
      exact .outside (hopen.not_runOpen_succ hfree hc)
    · rw [Quotation.next, if_neg hback, if_neg hquote]
      refine .inside (hopen.succ_of_ne hc hquote) fun hconsumed ↦ hback ?_
      exact Option.some.inj (hc.symm.trans hconsumed.2.1)
  | @escaped start hopen hconsumed =>
    exact .inside (hopen.succ fun _ ↦ hconsumed) fun hsucc ↦ hsucc.2.2 hconsumed

/-- **The relation is right** before every position. -/
theorem stands_stateAt (h : p ≤ text.length) : Stands text p (stateAt text p) := by
  induction p with
  | zero => exact .outside fun start hopen ↦ absurd hopen.lt (Nat.not_lt_zero start)
  | succ p ih =>
    obtain ⟨c, hc⟩ : ∃ c, text[p]? = some c := ⟨_, List.getElem?_eq_getElem h⟩
    rw [stateAt_succ hc]
    exact (ih (Nat.le_of_succ_le h)).next hc

theorem stateAt_ne_outside_iff (h : p ≤ text.length) :
    stateAt text p ≠ .outside ↔ ∃ start, RunOpen text start p := by
  have hstands := stands_stateAt h
  generalize stateAt text p = q at hstands ⊢
  cases hstands with
  | outside hclosed => simp [hclosed]
  | inside hopen | escaped hopen => exact iff_of_true (by decide) ⟨_, hopen⟩

/-- **A position is quoted** if a quoted text is open before it or begins there. -/
theorem quoted_iff : Quoted text p ↔
    p ≤ text.length ∧ (stateAt text p ≠ .outside ∨ text[p]? = some '"') := by
  constructor
  · rintro ⟨start, stop, hbegins, hends, hstart, hstop⟩
    have hp : p ≤ text.length := hstop.trans hends.le
    refine ⟨hp, ?_⟩
    obtain rfl | hlt := Nat.eq_or_lt_of_le hstart
    · exact .inr (runBegins_iff.1 hbegins).1
    · refine .inl ((stateAt_ne_outside_iff hp).2 ⟨start, hbegins, hlt, fun m hm hbefore ↦ ?_⟩)
      exact hends.next m hm (hbefore.trans_le hstop)
  · rintro ⟨hp, hstate⟩
    by_cases hopen : ∃ start, RunOpen text start p
    · obtain ⟨start, hopen⟩ := hopen
      obtain ⟨stop, hstop⟩ := exists_runEnds (hopen.lt.trans_le hp)
      exact ⟨start, stop, hopen.begins, hstop, hopen.lt.le, hopen.le_of_runEnds hp hstop⟩
    · have hquote := hstate.resolve_left fun hne ↦ hopen ((stateAt_ne_outside_iff hp).1 hne)
      obtain ⟨stop, hstop⟩ := exists_runEnds (List.getElem?_eq_some_iff.1 hquote).1
      exact ⟨p, stop, runBegins_of_not_runOpen (not_exists.1 hopen) hquote, hstop, le_rfl, hstop.lt.le⟩

instance : DecidablePred (Quoted text) := fun _ ↦ decidable_of_iff _ quoted_iff.symm

/-- A parenthesis is quoted if the reader stands inside of a quoted text. -/
theorem quoted_iff_of_parenthesis (hc : text[p]? = some c) (hparen : c = '(' ∨ c = ')') :
    Quoted text p ↔ stateAt text p ≠ .outside := by
  have hp : p < text.length := (List.getElem?_eq_some_iff.1 hc).1
  have hquote : c ≠ '"' := by
    rintro rfl
    exact absurd hparen (by decide)
  rw [quoted_iff, hc, Option.some.injEq, or_iff_left hquote, and_iff_right hp.le]

/-! ### Counting parentheses -/

/-- How often the character stands among the first `n` ones, outside of quoted texts. -/
def unquoted (text : List Char) (c : Char) (n : Nat) : Nat :=
  Nat.count (fun p ↦ text[p]? = some c ∧ ¬Quoted text p) n

/-- The text is closed at the position: there is a closing parenthesis outside of quoted texts, and with
it the parentheses outside of quoted texts balance for the first time. -/
structure Closes (text : List Char) (p : Nat) : Prop where
  /-- There is a closing parenthesis. -/
  parenthesis : text[p]? = some ')'
  /-- It is not quoted. -/
  notQuoted : ¬Quoted text p
  /-- As many parentheses were opened as closed. -/
  balanced : unquoted text '(' (p + 1) = unquoted text ')' (p + 1)
  /-- Before, this never was the case. -/
  first : ∀ n < p, unquoted text '(' (n + 1) ≠ unquoted text ')' (n + 1)

/-- The text is cut at the parenthesis that closes it, and stripped of the one that opens it. -/
def CutAtClosing (text inner rest : List Char) : Prop :=
  ∃ p, Closes text p ∧ inner = (text.take p).tail ∧ rest = text.drop (p + 1)

/-- Before the position, the text was closed nowhere, and `depth + 1` parentheses are open. -/
structure Passed (text : List Char) (p depth : Nat) : Prop where
  /-- So many more were opened than closed. -/
  opened : unquoted text '(' p = unquoted text ')' p + (depth + 1)
  /-- They balanced nowhere. -/
  unbalanced : ∀ n < p, unquoted text '(' (n + 1) ≠ unquoted text ')' (n + 1)

theorem unquoted_succ_self (hc : text[p]? = some c) (hquoted : ¬Quoted text p) :
    unquoted text c (p + 1) = unquoted text c p + 1 := by
  rw [unquoted, Nat.count_succ, if_pos ⟨hc, hquoted⟩, unquoted]

theorem unquoted_succ_of_not (h : text[p]? = some c → Quoted text p) :
    unquoted text c (p + 1) = unquoted text c p := by
  rw [unquoted, Nat.count_succ, if_neg fun hc ↦ hc.2 (h hc.1), Nat.add_zero, unquoted]

theorem unquoted_succ_of_ne {d : Char} (hc : text[p]? = some c) (hne : c ≠ d) :
    unquoted text d (p + 1) = unquoted text d p :=
  unquoted_succ_of_not fun hd ↦ absurd (Option.some.inj (hc.symm.trans hd)) hne

instance : Decidable (Closes text p) :=
  decidable_of_iff (text[p]? = some ')' ∧ ¬Quoted text p ∧
      unquoted text '(' (p + 1) = unquoted text ')' (p + 1) ∧
      ∀ n < p, unquoted text '(' (n + 1) ≠ unquoted text ')' (n + 1))
    ⟨fun ⟨h₁, h₂, h₃, h₄⟩ ↦ ⟨h₁, h₂, h₃, h₄⟩, fun ⟨h₁, h₂, h₃, h₄⟩ ↦ ⟨h₁, h₂, h₃, h₄⟩⟩

theorem Closes.unique {other : Nat} (h : Closes text p) (hother : Closes text other) : p = other := by
  obtain hlt | heq | hlt := Nat.lt_trichotomy p other
  · exact absurd h.balanced (hother.first p hlt)
  · exact heq
  · exact absurd hother.balanced (h.first other hlt)

theorem Passed.step {next : Nat} (h : Passed text p depth)
    (hopened : unquoted text '(' (p + 1) = unquoted text ')' (p + 1) + (next + 1)) :
    Passed text (p + 1) next where
  opened := hopened
  unbalanced n hn := by
    obtain hlt | rfl := Nat.lt_succ_iff_lt_or_eq.1 hn
    · exact h.unbalanced n hlt
    · omega

theorem Passed.opens (h : Passed text p depth) (hc : text[p]? = some '(')
    (hquoted : ¬Quoted text p) : Passed text (p + 1) (depth + 1) := by
  have hopened := h.opened
  refine h.step ?_
  rw [unquoted_succ_self hc hquoted, unquoted_succ_of_ne hc (by decide)]
  omega

theorem Passed.closes_one (h : Passed text p (depth + 1)) (hc : text[p]? = some ')')
    (hquoted : ¬Quoted text p) : Passed text (p + 1) depth := by
  have hopened := h.opened
  refine h.step ?_
  rw [unquoted_succ_self hc hquoted, unquoted_succ_of_ne hc (by decide)]
  omega

/-- With the parenthesis that closes the last open one, the text is closed. -/
theorem Passed.closes (h : Passed text p 0) (hc : text[p]? = some ')') (hquoted : ¬Quoted text p) :
    Closes text p where
  parenthesis := hc
  notQuoted := hquoted
  balanced := by
    rw [unquoted_succ_self hc hquoted, unquoted_succ_of_ne hc (by decide), h.opened]
  first := h.unbalanced

theorem Passed.pass (h : Passed text p depth)
    (hpass : text[p]? = some '(' ∨ text[p]? = some ')' → Quoted text p) : Passed text (p + 1) depth := by
  refine h.step ?_
  rw [unquoted_succ_of_not fun hc ↦ hpass (.inl hc), unquoted_succ_of_not fun hc ↦ hpass (.inr hc),
    h.opened]

theorem passed_one (cs : List Char) : Passed ('(' :: cs) 1 0 := by
  have hopen : ('(' :: cs)[0]? = some '(' := rfl
  have hquoted : ¬Quoted ('(' :: cs) 0 := by
    rw [quoted_iff_of_parenthesis hopen (.inl rfl)]
    exact fun hne ↦ hne rfl
  have hopened : unquoted ('(' :: cs) '(' 1 = unquoted ('(' :: cs) ')' 1 + 1 := by
    rw [unquoted_succ_self hopen hquoted, unquoted_succ_of_ne hopen (by decide), unquoted, unquoted,
      Nat.count_zero, Nat.count_zero]
  refine ⟨hopened, fun n hn ↦ ?_⟩
  obtain rfl := Nat.lt_one_iff.1 hn
  exact hopened ▸ Nat.succ_ne_self _

/-! ### The parenthesis that is found -/

/-- **What is found closes the text**, and if nothing is found, it is closed nowhere. -/
theorem splitClosing_cases (htext : text = '(' :: (passed.reverse ++ cs))
    (hq : stateAt text (passed.length + 1) = q) (hpassed : Passed text (passed.length + 1) depth) :
    (∃ inner rest, splitClosing q depth passed cs = some (inner, rest) ∧
        Closes text (inner.length + 1)) ∨
      splitClosing q depth passed cs = none ∧ ∀ p, ¬Closes text p := by
  induction cs generalizing passed q depth with
  | nil =>
    refine .inr ⟨rfl, fun p hcloses ↦ ?_⟩
    have hp := (List.getElem?_eq_some_iff.1 hcloses.parenthesis).1
    rw [htext, List.length_cons, List.append_nil, List.length_reverse] at hp
    exact hpassed.unbalanced p hp hcloses.balanced
  | cons c cs ih =>
    have hc : text[passed.length + 1]? = some c := by simp [htext]
    have hbehind : text = '(' :: ((c :: passed).reverse ++ cs) := by simp [htext]
    have hstate : stateAt text ((c :: passed).length + 1) = q.next c := by
      rw [List.length_cons, stateAt_succ hc, hq]
    have ih {depth : Nat} (h : Passed text (passed.length + 1 + 1) depth) := ih hbehind hstate h
    by_cases hparen : q = .outside ∧ (c = '(' ∨ c = ')')
    case neg =>
      rw [splitClosing_pass fun houtside ↦ not_or.1 fun hc ↦ hparen ⟨houtside, hc⟩]
      refine ih (hpassed.pass fun hmark ↦ ?_)
      rw [hc, Option.some.injEq, Option.some.injEq] at hmark
      rw [quoted_iff_of_parenthesis hc hmark, hq]
      exact fun houtside ↦ hparen ⟨houtside, hmark⟩
    obtain ⟨rfl, hparen⟩ := hparen
    have hquoted : ¬Quoted text (passed.length + 1) := by
      rw [quoted_iff_of_parenthesis hc hparen, hq]
      exact fun hne ↦ hne rfl
    obtain rfl | rfl := hparen
    · rw [splitClosing_open]
      exact ih (hpassed.opens hc hquoted)
    · cases depth with
      | zero =>
        refine .inl ⟨_, _, splitClosing_close_zero, ?_⟩
        rw [List.length_reverse]
        exact hpassed.closes hc hquoted
      | succ depth =>
        rw [splitClosing_close_succ]
        exact ih (hpassed.closes_one hc hquoted)

theorem splitClosing_outside_cases (cs : List Char) :
    (∃ inner rest, splitClosing .outside 0 [] cs = some (inner, rest) ∧
        Closes ('(' :: cs) (inner.length + 1)) ∨
      splitClosing .outside 0 [] cs = none ∧ ∀ p, ¬Closes ('(' :: cs) p :=
  splitClosing_cases rfl rfl (passed_one cs)

/-- **The text is cut where it is closed.** -/
theorem splitClosing_eq_some_iff :
    splitClosing .outside 0 [] cs = some (inner, rest) ↔ CutAtClosing ('(' :: cs) inner rest := by
  have hcut {inner rest : List Char} (h : splitClosing .outside 0 [] cs = some (inner, rest)) :
      inner = (('(' :: cs).take (inner.length + 1)).tail ∧
        rest = ('(' :: cs).drop (inner.length + 1 + 1) := by
    have happend : inner ++ ')' :: rest = cs := append_of_splitClosing h
    simp [← happend]
  obtain ⟨found, behind, hfound, hcloses⟩ | ⟨hnone, hcloses⟩ := splitClosing_outside_cases cs
  · constructor
    · intro h
      obtain ⟨rfl, rfl⟩ := Prod.mk.inj (Option.some.inj (hfound.symm.trans h))
      exact ⟨_, hcloses, hcut hfound⟩
    · rintro ⟨p, hp, hinner, hrest⟩
      obtain rfl := hp.unique hcloses
      obtain ⟨hfront, hback⟩ := hcut hfound
      rw [hfound, hinner, ← hfront, hrest, ← hback]
  · rw [hnone]
    exact iff_of_false (Option.some_ne_none _).symm fun ⟨p, hp, _⟩ ↦ hcloses p hp

theorem splitClosing_eq_none_iff :
    splitClosing .outside 0 [] cs = none ↔ ∀ p, ¬Closes ('(' :: cs) p := by
  obtain ⟨inner, rest, hfound, hcloses⟩ | ⟨hnone, hcloses⟩ := splitClosing_outside_cases cs
  · rw [hfound]
    exact iff_of_false (Option.some_ne_none _) fun h ↦ h _ hcloses
  · exact iff_of_true hnone hcloses

theorem splitFilter_eq_ok_iff {verb : Verb} :
    Bounded.splitFilter verb ('(' :: cs) = Bounded.given (.ok (inner, rest)) ↔
      ∃ behind, splitClosing .outside 0 [] cs = some (inner, behind) ∧ rest = trimChars behind := by
  rw [Bounded.splitFilter_eq, Bounded.given, Bounded.given, Option.some.injEq]
  cases splitClosing .outside 0 [] cs with
  | none => simp
  | some parts => simp [Prod.ext_iff, eq_comm]

theorem splitFilter_eq_error_iff {verb : Verb} :
    Bounded.splitFilter verb ('(' :: cs) =
        Bounded.given (.error (.badCommand verb .unbalancedFilter)) ↔
      splitClosing .outside 0 [] cs = none := by
  rw [Bounded.splitFilter_eq, Bounded.given, Bounded.given, Option.some.injEq]
  cases splitClosing .outside 0 [] cs with
  | none => simp
  | some parts => simp

theorem readFilter_eq_error_iff {verb : Verb} :
    readFilter verb ('(' :: cs) = .error (.badCommand verb .unbalancedFilter) ↔
      splitClosing .outside 0 [] cs = none := by
  rw [readFilter_open]
  cases splitClosing .outside 0 [] cs with
  | none => simp
  | some parts =>
    -- what stands in parentheses may be refused too, but not for them
    obtain ⟨filter, hfilter⟩ | ⟨cause, hfilter⟩ := filterIn_cases parts.1
    all_goals
      dsimp only
      rw [hfilter]
      exact iff_of_false (fun h ↦ by cases h) (Option.some_ne_none _)

/-- **A filter ends where its parentheses first balance.** A text that begins with a parenthesis is cut
at the closing one that makes the parentheses outside of quoted texts balance for the first time: what
stands between the two is inside, and what stands behind, stripped of its blanks, is left. The same comes
out if the text is cut by the numbers of its bytes, which are never out of range. If there is no such
parenthesis, the command is refused because its parentheses do not balance, and it is so refused in no
other case. -/
theorem cut_at_closing (verb : Verb) (cs : List Char) :
    (∀ inner behind, splitClosing .outside 0 [] cs = some (inner, behind) ↔
      CutAtClosing ('(' :: cs) inner behind) ∧
    (∀ inner rest, Bounded.splitFilter verb ('(' :: cs) = Bounded.given (.ok (inner, rest)) ↔
      ∃ behind, CutAtClosing ('(' :: cs) inner behind ∧ rest = trimChars behind) ∧
    (Bounded.splitFilter verb ('(' :: cs) =
        Bounded.given (.error (.badCommand verb .unbalancedFilter)) ↔ ∀ p, ¬Closes ('(' :: cs) p) ∧
    (readFilter verb ('(' :: cs) = .error (.badCommand verb .unbalancedFilter) ↔
      ∀ p, ¬Closes ('(' :: cs) p) := by
  refine ⟨fun inner behind ↦ splitClosing_eq_some_iff, fun inner rest ↦ ?_, ?_, ?_⟩
  · rw [splitFilter_eq_ok_iff]
    simp only [splitClosing_eq_some_iff]
  · rw [splitFilter_eq_error_iff, splitClosing_eq_none_iff]
  · rw [readFilter_eq_error_iff, splitClosing_eq_none_iff]

/-- The first parenthesis is quoted, behind a quote that a backslash consumes, and the second is not. -/
example : Closes "(é = \"\\\")\") (x)".toList 10 := by decide

end RecordStore.Statement
