import RecordStore.Proofs.Bounds.Commands
import RecordStore.Proofs.Bounds.Faults

/-!
# Reading moves on

Nothing that reads at a position has a bound of its own: loops go on while something is next, and
calls go as deep as brackets nest. They come to an end because each of them moves on. To say so of
every turn and of every call, the work is done once more and asks it of itself, and comes to nothing
where it is not so. That it comes to the same is what is shown.

* Cutting a text into tokens moves on with every token, done or refused, and not past the end of the
  text (`moving`, `readTokensMoving_onAll`).
* In reading a filter, a call begins later than every call of the same function that it is inside
  of, and a turn of a loop later than the turns before it (`later`, `readWholeLater_onAll`). A step
  does not move from the last token. But the last token is the mark of the end, which nothing steps
  over. A parenthesis there would be stepped over for ever (`readFilter_of_last_open`).
* A payload or a key that is read takes a character (`EndsBehind`).
-/

namespace RecordStore.Cursor

open RecordStore.Filter

/-! ### Work and what is left to do -/

section

variable {τ ε α β : Type} {ts : List τ} {p q : Nat}

theorem bind_of_nothing {work : Cursor τ ε α} (h : work ts p = none) (more : α → Cursor τ ε β) :
    (work >>= more) ts p = none := by
  show ((work ts p : Bounded ε (α × Nat)) >>= fun b ↦ more b.1 ts b.2) = _
  rw [h]
  rfl

theorem onAll_of_eq {work : Cursor τ ε α} {result : Except ε (α × Nat)}
    (h : work ts 0 = some result) : work.onAll ts = some (result.map Prod.fst) := by
  show ((work ts 0 : Bounded ε (α × Nat)) >>= fun found ↦ pure found.1) = _
  rw [h]
  cases result <;> rfl

/-- Where work is the same, and what is left to do is the same behind it, all of it is the same. -/
theorem bind_congr {work work' : Cursor τ ε α} {more more' : α → Cursor τ ε β}
    (h : work ts p = work' ts p)
    (hmore : ∀ a q, work' ts p = some (.ok (a, q)) → more a ts q = more' a ts q) :
    (work >>= more) ts p = (work' >>= more') ts p := by
  show ((work ts p : Bounded ε (α × Nat)) >>= fun b ↦ more b.1 ts b.2 : Bounded ε (β × Nat)) =
    ((work' ts p : Bounded ε (α × Nat)) >>= fun b ↦ more' b.1 ts b.2)
  rw [h]
  match hwork : work' ts p with
  | none => rfl
  | some (.error fault) => rfl
  | some (.ok (a, q)) => exact hmore a q hwork

/-! ### Tokens -/

/-- Work that has to end behind where it began, and not behind the end of the list, whether it is
done or refused. -/
def moving (work : Cursor τ (ε × Nat) α) : Cursor τ ε α := fun ts p ↦
  match work ts p with
  | none => none
  | some (.ok (a, q)) => if p < q ∧ q ≤ ts.length then some (.ok (a, q)) else none
  | some (.error (fault, q)) => if p < q ∧ q ≤ ts.length then some (.error fault) else none

theorem Locates.moving {work : Cursor τ (ε × Nat) α} {plain : Cursor τ ε α}
    (h : Locates ts (p + 1) p work plain) : moving work ts p = plain ts p := by
  unfold Locates at h
  unfold Cursor.moving
  generalize work ts p = result at h
  generalize plain ts p = plainResult at h
  cases h with
  | nothing => rfl
  | done hleast hstop => exact if_pos ⟨hleast, hstop⟩
  | refused hleast hstop => exact if_pos ⟨hleast, hstop⟩

theorem Locates.le_length {least : Nat} {work : Cursor τ (ε × Nat) α} {plain : Cursor τ ε α} {a : α}
    (h : Locates ts least p work plain) (hplain : plain ts p = some (.ok (a, q))) :
    q ≤ ts.length := by
  unfold Locates at h
  rw [hplain] at h
  generalize work ts p = result at h
  cases h with
  | done _ hstop => exact hstop

end

/-- Reads the tokens that are left, behind those before, and has to move on with each of them. -/
def readTokensMovingFrom : Nat → List Token → Cursor Char TokenError (List Token)
  | 0, _ => endless
  | turns + 1, before => do
    if ← atEnd then return (.finish :: before).reverse
    else
      skipBlanks
      if ← atEnd then return (.finish :: before).reverse
      else
        let token ← moving Located.readToken
        readTokensMovingFrom turns (token :: before)

/-- Reads all tokens of a text, and has to move on with each of them. -/
def readTokensMoving : Cursor Char TokenError (List Token) := do
  readTokensMovingFrom (← turns) []

section

variable {cs : List Char} {p : Nat}

/-- Every token that is read is one with which the loop moves on. -/
theorem readTokensMovingFrom_eq (turns : Nat) (before : List Token) (hp : p ≤ cs.length) :
    readTokensMovingFrom turns before cs p = readTokensFrom turns before cs p := by
  induction turns generalizing p before with
  | zero => rfl
  | succ turns ih =>
    have hleft : Cut cs p (cs.drop p) := ⟨hp, rfl⟩
    rw [readTokensMovingFrom, readTokensFrom]
    refine bind_congr rfl fun ended q hended ↦ ?_
    cases hended
    split
    case isTrue => rfl
    refine bind_congr rfl fun u q hskip ↦ ?_
    obtain ⟨q', hcut, hskip'⟩ := gives_skipBlanks hleft
    cases hskip.symm.trans hskip'
    refine bind_congr rfl fun ended r hended ↦ ?_
    cases hended
    split
    case isTrue => rfl
    next hbehind =>
    -- What stands behind the blanks, if it is not the end, begins a token.
    obtain ⟨c, rest, hrest⟩ : ∃ c rest, Text.skipBlanks (cs.drop p) = c :: rest :=
      List.exists_cons_of_ne_nil fun hnil ↦ hbehind (decide_eq_true (hcut.length_le_iff.2 hnil))
    have htoken := locates_readToken (hcut.getElem?.trans (congrArg List.head? hrest))
      (Text.isBlank_head_skipBlanks hrest)
    exact bind_congr htoken.moving fun token r hread ↦ ih _ (htoken.le_length hread)

/-- **Every token takes a character**: whoever reads a text in this way is never held up. -/
theorem readTokensMoving_onAll (cs : List Char) :
    readTokensMoving.onAll cs = some (Token.readAll cs) := by
  have hsame : readTokensMoving cs 0 = readTokens cs 0 :=
    bind_congr rfl fun turns q hturns ↦ by
      cases hturns
      exact readTokensMovingFrom_eq _ [] (Nat.zero_le _)
  rw [← readTokens_onAll, onAll, onAll, hsame]

end

/-! ### Filters -/

/-- The position, which has to be later than others. -/
def later {τ ε : Type} (others : List Nat) : Cursor τ ε Nat := fun _ p ↦
  if ∀ q ∈ others, q < p then some (.ok (p, p)) else none

/-- Where the calls began that have not ended. -/
structure Calls where
  /-- Those that read a filter. -/
  filters : List Nat
  /-- Those that read a conjunction. -/
  conjunctions : List Nat
  /-- Those that read an atom. -/
  atoms : List Nat

/-- Reads a chain of parts behind what has been read of it, where the turns before began at `before`
and each turn has to begin later. -/
def readChainLaterFrom (keyword : Token) (join : Filter → Filter → Filter)
    (part : Cursor Token FilterSyntaxError Filter) :
    Nat → List Nat → Filter → Cursor Token FilterSyntaxError Filter
  | 0, _, _ => endless
  | turns + 1, before, left => do
    let turn ← later before
    if (← current) = keyword then
      step
      let right ← part
      readChainLaterFrom keyword join part turns (turn :: before) (join left right)
    else return left

/-- Reads a chain of parts, where each turn has to begin later than those before. -/
def readChainLater (keyword : Token) (join : Filter → Filter → Filter)
    (part : Cursor Token FilterSyntaxError Filter) : Cursor Token FilterSyntaxError Filter := do
  let first ← part
  readChainLaterFrom keyword join part (← turns) [] first

/-- Reads a filter in which parentheses nest no deeper than `depth`, inside other calls. Each call
has to begin later than those of the same function. -/
def readFilterLater : Nat → Calls → Cursor Token FilterSyntaxError Filter
  | 0, _ => endless
  | depth + 1, calls => do
    let filter ← later calls.filters
    readChainLater .or .or do
      let conjunction ← later calls.conjunctions
      readChainLater .and .and do
        let atom ← later calls.atoms
        readAtom (readFilterLater depth ⟨filter :: calls.filters, conjunction :: calls.conjunctions,
          atom :: calls.atoms⟩)

/-- Reads a filter that is all of the tokens, where each call and each turn has to begin later than
those before. -/
def readWholeLater : Cursor Token FilterSyntaxError Filter := do
  let filter ← readFilterLater (← turns) ⟨[], [], []⟩
  if (← current) = .finish then return filter else unexpected

/-- What is in front of one place is in front of a later one, and so is that place. -/
theorem forall_mem_cons_lt {starts : List Nat} {p q : Nat} (hstarts : ∀ s ∈ starts, s < p)
    (hlt : p < q) : ∀ s ∈ p :: starts, s < q :=
  List.forall_mem_cons.2 ⟨hlt, fun s hmem ↦ (hstarts s hmem).trans hlt⟩

section

variable {α β : Type} {ts : List Token} {p q least : Nat} {t : Token}

/-- Two works come to the same, and end somewhere from `least` on, where there is a token. -/
inductive Agrees (ts : List Token) (least p : Nat) (work other : Cursor Token FilterSyntaxError α) :
    Prop where
  /-- Both are done. -/
  | done {a : α} {q : Nat} (hwork : work ts p = some (.ok (a, q)))
    (hother : other ts p = some (.ok (a, q))) (hleast : least ≤ q) (hstop : q < ts.length)
  /-- Both are refused. -/
  | refused {fault : FilterSyntaxError} (hwork : work ts p = some (.error fault))
    (hother : other ts p = some (.error fault))

variable {work other : Cursor Token FilterSyntaxError α}
  {more further : α → Cursor Token FilterSyntaxError β}

theorem Agrees.behind {a : α} (hwork : work ts p = some (.ok (a, q)))
    (hother : other ts p = some (.ok (a, q))) (h : Agrees ts least q (more a) (further a)) :
    Agrees ts least p (work >>= more) (other >>= further) := by
  cases h with
  | done hmore hfurther hleast hstop =>
    exact .done ((bind_of_done hwork more).trans hmore)
      ((bind_of_done hother further).trans hfurther) hleast hstop
  | refused hmore hfurther =>
    exact .refused ((bind_of_done hwork more).trans hmore)
      ((bind_of_done hother further).trans hfurther)

theorem Agrees.mono {least' : Nat} (h : Agrees ts least p work other) (hle : least' ≤ least) :
    Agrees ts least' p work other := by
  cases h with
  | done hwork hother hleast hstop => exact .done hwork hother (hle.trans hleast) hstop
  | refused hwork hother => exact .refused hwork hother

theorem Agrees.bind {between : Nat} (h : Agrees ts between p work other)
    (hmore : ∀ a q, between ≤ q → q < ts.length → Agrees ts least q (more a) (further a)) :
    Agrees ts least p (work >>= more) (other >>= further) := by
  cases h with
  | done hwork hother hleast hstop => exact (hmore _ _ hleast hstop).behind hwork hother
  | refused hwork hother =>
    exact .refused (Gives.bind_error hwork more) (Gives.bind_error hother further)

theorem Agrees.onAll (h : Agrees ts least 0 work other) :
    ∃ result, work.onAll ts = some result ∧ other.onAll ts = some result := by
  cases h with
  | done hwork hother => exact ⟨_, onAll_of_eq hwork, onAll_of_eq hother⟩
  | refused hwork hother => exact ⟨_, onAll_of_eq hwork, onAll_of_eq hother⟩

theorem agrees_pure (a : α) (hleast : least ≤ p) (hp : p < ts.length) :
    Agrees ts least p (pure a) (pure a) := .done rfl rfl hleast hp

theorem Agrees.look {more further : Token → Cursor Token FilterSyntaxError β} (ht : ts[p]? = some t)
    (h : Agrees ts least p (more t) (further t)) :
    Agrees ts least p (current >>= more) (current >>= further) :=
  h.behind (current_of_getElem? ht) (current_of_getElem? ht)

theorem agrees_unexpected (ht : ts[p]? = some t) :
    Agrees (α := α) ts least p unexpected unexpected :=
  .look ht (.refused rfl rfl)

/-- Only the other work asks whether it is later. -/
theorem Agrees.later {others : List Nat} {other : Nat → Cursor Token FilterSyntaxError α}
    (hlater : ∀ q ∈ others, q < p) (h : Agrees ts least p work (other p)) :
    Agrees ts least p work (later others >>= other) := by
  have hposition : Cursor.later (ε := FilterSyntaxError) others ts p = some (.ok (p, p)) :=
    if_pos hlater
  have hother := bind_of_done hposition other
  cases h with
  | done hwork hmore hleast hstop => exact .done hwork (hother.trans hmore) hleast hstop
  | refused hwork hmore => exact .refused hwork (hother.trans hmore)

theorem step_eq (hp : p < ts.length) :
    step ts p = some (.ok ((), if p < ts.length - 1 then p + 1 else p)) := by
  have hminus : need (ε := FilterSyntaxError) (Bounded.minus? ts.length 1) ts p =
      some (.ok (ts.length - 1, p)) := by
    rw [need, Bounded.minus?_of_le (by omega)]
    rfl
  have hcount : count (ε := FilterSyntaxError) ts p = some (.ok (ts.length, p)) := rfl
  have hposition : position (ε := FilterSyntaxError) ts p = some (.ok (p, p)) := rfl
  rw [step, bind_of_done hcount, bind_of_done hminus, bind_of_done hposition]
  split <;> rfl

theorem step_of_last (hlast : ts.getLast? = some t) :
    step ts (ts.length - 1) = some (.ok ((), ts.length - 1)) := by
  have hlength : 0 < ts.length := List.length_pos_of_mem (List.mem_of_getLast? hlast)
  rw [step_eq (by omega), if_neg (Nat.lt_irrefl _)]

end

section

variable {ts : List Token} (hlast : ts.getLast? = some .finish) {p least : Nat} {t : Token}

include hlast

/-- Whatever is not the mark of the end has a token behind it. -/
theorem lt_of_ne_finish (ht : ts[p]? = some t) (hne : t ≠ .finish) : p + 1 < ts.length := by
  have hp : p < ts.length := (List.getElem?_eq_some_iff.1 ht).1
  by_contra hend
  have hp' : p = ts.length - 1 := by omega
  rw [List.getLast?_eq_getElem?, ← hp', ht] at hlast
  exact hne (Option.some.inj hlast)

theorem agrees_step (ht : ts[p]? = some t) (hne : t ≠ .finish) : Agrees ts (p + 1) p step step := by
  have hlt := lt_of_ne_finish hlast ht hne
  have hstep := step_eq (List.getElem?_eq_some_iff.1 ht).1
  rw [if_pos (by omega)] at hstep
  exact .done hstep hstep (Nat.le_refl _) hlt

theorem agrees_readAs {α : Type} {kind : Token → Option α} (hfinish : kind .finish = none)
    (hp : p < ts.length) : Agrees ts (p + 1) p (readAs kind) (readAs kind) := by
  have ht := List.getElem?_eq_getElem hp
  rw [readAs]
  refine .look ht ?_
  cases hkind : kind ts[p] with
  | none => exact agrees_unexpected ht
  | some a =>
    have hne : ts[p] ≠ .finish := fun heq ↦ by
      rw [heq, hfinish] at hkind
      cases hkind
    exact (agrees_step hlast ht hne).bind fun _ q hleast hq ↦ agrees_pure a hleast hq

theorem agrees_consume (hne : t ≠ .finish) (hp : p < ts.length) :
    Agrees ts (p + 1) p (consume t) (consume t) := by
  have ht := List.getElem?_eq_getElem hp
  rw [consume]
  refine .look ht ?_
  split
  next heq => exact agrees_step hlast ht (heq ▸ hne)
  · exact agrees_unexpected ht

theorem agrees_readComparison (hp : p < ts.length) :
    Agrees ts (p + 1) p readComparison readComparison := by
  rw [readComparison]
  refine (agrees_readAs hlast rfl hp).bind fun left q hleft hq ↦ ?_
  refine (agrees_readAs hlast rfl hq).bind fun op r hop hr ↦ ?_
  exact (agrees_readAs hlast rfl hr).bind fun right s hright hs ↦ agrees_pure _ (by omega) hs

theorem agrees_readAtom {filter other : Cursor Token FilterSyntaxError Filter}
    (hfilter : ∀ q, p < q → q < ts.length → Agrees ts q q filter other) (hp : p < ts.length) :
    Agrees ts (p + 1) p (readAtom filter) (readAtom other) := by
  have ht := List.getElem?_eq_getElem hp
  rw [readAtom, readAtom]
  refine .look ht ?_
  split
  next hopen =>
    refine (agrees_step hlast ht (by rw [hopen]; decide)).bind fun _ q hleast hq ↦ ?_
    refine (hfilter q hleast hq).bind fun inside r hinside hr ↦ ?_
    exact (agrees_consume hlast (by decide) hr).bind fun _ s hclose hs ↦
      agrees_pure inside (by omega) hs
  · exact agrees_readComparison hlast hp

section

variable {keyword : Token} {join : Filter → Filter → Filter}
  {part other : Cursor Token FilterSyntaxError Filter}

/-- **Every turn begins later** than those before, as it steps over a keyword. -/
theorem agrees_readChainFrom (hkeyword : keyword ≠ .finish)
    (hpart : ∀ q, p < q → q < ts.length → Agrees ts (q + 1) q part other) {turns : Nat}
    (hturns : ts.length < p + turns) {before : List Nat} (hbefore : ∀ q ∈ before, q < p)
    (left : Filter) (hp : p < ts.length) :
    Agrees ts p p (readChainFrom keyword join part turns left)
      (readChainLaterFrom keyword join other turns before left) := by
  induction turns generalizing p before left with
  | zero => omega
  | succ turns ih =>
    have ht := List.getElem?_eq_getElem hp
    rw [readChainFrom, readChainLaterFrom]
    refine .later hbefore (.look ht ?_)
    split
    case isFalse => exact agrees_pure left (Nat.le_refl _) hp
    next heq =>
    refine (agrees_step hlast ht (heq ▸ hkeyword)).bind fun _ q hstep hq ↦ ?_
    refine (hpart q hstep hq).bind fun right r hright hr ↦ ?_
    exact (ih (fun q hlater ↦ hpart q (by omega)) (by omega)
      (forall_mem_cons_lt hbefore (by omega)) (join left right) hr).mono (by omega)

theorem agrees_readChain (hkeyword : keyword ≠ .finish)
    (hpart : ∀ q, p ≤ q → q < ts.length → Agrees ts (q + 1) q part other) (hp : p < ts.length) :
    Agrees ts (p + 1) p (readChain keyword join part) (readChainLater keyword join other) := by
  rw [readChain, readChainLater]
  refine (hpart p (Nat.le_refl _) hp).bind fun first q hfirst hq ↦ ?_
  refine .behind (q := q) rfl rfl ?_
  have hturns : ts.length < q + (ts.length + 1) := by omega
  exact (agrees_readChainFrom hlast hkeyword (fun r hlater ↦ hpart r (by omega)) hturns
    (List.forall_mem_nil _) first hq).mono hfirst

end

/-- **Every call begins later** than those of the same function that have not ended: between any two
of them a parenthesis has been stepped over. -/
theorem agrees_readFilter (depth : Nat) (calls : Calls) (hdepth : ts.length < p + depth)
    (hfilters : ∀ q ∈ calls.filters, q < p) (hconjunctions : ∀ q ∈ calls.conjunctions, q < p)
    (hatoms : ∀ q ∈ calls.atoms, q < p) (hp : p < ts.length) :
    Agrees ts (p + 1) p (readFilter depth) (readFilterLater depth calls) := by
  induction depth generalizing p calls with
  | zero => omega
  | succ depth ih =>
    rw [readFilter, readFilterLater]
    -- A filter begins where its first conjunction does, and that where its first atom does, so the
    -- three positions `p`, `q` and `r` may be one. The parenthesis is between `r` and `s`.
    refine .later hfilters ?_
    refine agrees_readChain hlast (by decide) (fun q hpq hq ↦ ?_) hp
    have hconjunctions (s) (hmem : s ∈ calls.conjunctions) := (hconjunctions s hmem).trans_le hpq
    refine .later hconjunctions ?_
    refine agrees_readChain hlast (by decide) (fun r hqr hr ↦ ?_) hq
    have hatoms (s) (hmem : s ∈ calls.atoms) := (hatoms s hmem).trans_le (hpq.trans hqr)
    refine .later hatoms ?_
    refine agrees_readAtom hlast (fun s hrs hs ↦ ?_) hr
    exact (ih _ (by omega) (forall_mem_cons_lt hfilters (by omega))
      (forall_mem_cons_lt hconjunctions (by omega)) (forall_mem_cons_lt hatoms hrs) hs).mono
      (Nat.le_succ s)

/-- **Tokens that end in a mark of the end** are read to a result, and each call and each turn
begins later than those before it. Nothing is asked of the tokens in front of the mark. -/
theorem readWholeLater_onAll :
    ∃ result, readWhole.onAll ts = some result ∧ readWholeLater.onAll ts = some result := by
  have hts : 0 < ts.length := List.length_pos_of_mem (List.mem_of_getLast? hlast)
  have hwhole : Agrees ts 0 0 readWhole readWholeLater := by
    rw [readWhole, readWholeLater]
    refine .behind (q := 0) rfl rfl ?_
    have hfilter := agrees_readFilter hlast (ts.length + 1) ⟨[], [], []⟩ (by omega)
      (List.forall_mem_nil _) (List.forall_mem_nil _) (List.forall_mem_nil _) hts
    refine hfilter.bind fun filter q hleast hq ↦ ?_
    have ht := List.getElem?_eq_getElem hq
    refine .look ht ?_
    split
    · exact agrees_pure filter (Nat.zero_le _) hq
    · exact agrees_unexpected ht
  exact hwhole.onAll

end

/-- A parenthesis that opens at the end is stepped over and found again, without end. -/
theorem readFilter_of_last_open {ts : List Token} (hlast : ts.getLast? = some .open) (depth : Nat) :
    readFilter depth ts (ts.length - 1) = none := by
  have hstep := step_of_last hlast
  rw [List.getLast?_eq_getElem?] at hlast
  induction depth with
  | zero => rfl
  | succ depth ih =>
    rw [readFilter, readChain]
    refine bind_of_nothing (bind_of_nothing ?_ _) _
    rw [readAtom, bind_of_done (current_of_getElem? hlast), if_pos rfl, bind_of_done hstep]
    exact bind_of_nothing ih _

/-! ### Payloads -/

/-- If a result is a success, it is one with which work that began at `p` has moved on. -/
def EndsBehind {α : Type} (cs : List Char) (p : Nat) (result : Except Unit (α × Nat)) : Prop :=
  ∀ a q, result = .ok (a, q) → p < q ∧ q ≤ cs.length

section

variable {α : Type} {cs rest : List Char} {p : Nat}

/-- What is left of a text says where work has ended. -/
theorem Finds.eq {work : Cursor Char Unit α} {found : Option (α × List Char)}
    (h : Finds cs p work found) :
    work cs p = some (found.elim (.error ()) fun e ↦ .ok (e.1, cs.length - e.2.length)) := by
  cases found with
  | none => exact h
  | some e =>
    obtain ⟨q, hq, hwork⟩ := h
    have hend : cs.length - e.2.length = q := by
      rw [← hq.length, Nat.add_sub_cancel]
    rw [hwork, Option.elim_some, hend]

theorem endsBehind_of_shorter {found : Option (α × List Char)} (h : Cut cs p rest)
    (hshorter : ∀ e, found = some e → e.2.length < rest.length) :
    EndsBehind cs p (found.elim (.error ()) fun e ↦ .ok (e.1, cs.length - e.2.length)) := by
  rintro a q heq
  cases found with
  | none => cases heq
  | some e =>
    cases heq
    have hlength := h.length
    have hrest := hshorter e rfl
    omega

/-- **A key that is read** has a character. -/
theorem exists_readKey_endsBehind (hp : p ≤ cs.length) :
    ∃ result, readKey cs p = some result ∧ EndsBehind cs p result := by
  have hcut : Cut cs p (cs.drop p) := ⟨hp, rfl⟩
  exact ⟨_, (finds_readKey hcut).eq, endsBehind_of_shorter hcut fun _ ↦ Payload.length_readKey_lt⟩

/-- **A payload that is read** has a character, and how deep brackets may nest does not matter if it
is more than there are characters left. -/
theorem exists_readPayload_endsBehind (hp : p ≤ cs.length) :
    ∃ result, (∀ depth, cs.length < p + depth → readPayload depth cs p = some result) ∧
      EndsBehind cs p result := by
  have hcut : Cut cs p (cs.drop p) := ⟨hp, rfl⟩
  have hlength := hcut.length
  exact ⟨_, fun depth hdepth ↦ (finds_readPayload (by omega) hcut).eq,
    endsBehind_of_shorter hcut fun _ ↦ Payload.length_readFrom_lt⟩

end

/-! ### All readers -/

/-- The readers of a text and of tokens move on, and so they come to an end. -/
structure MovesOn (cs : List Char) (ts : List Token) : Prop where
  /-- Whatever reads a token, or refuses it, ends behind where it began and not past the end. -/
  tokens : readTokensMoving.onAll cs = some (Token.readAll cs)
  /-- A key, wherever it is read, takes a character. -/
  keys : ∀ p ≤ cs.length, ∃ result, readKey cs p = some result ∧ EndsBehind cs p result
  /-- A payload, wherever it is read, takes a character. -/
  payloads : ∀ p ≤ cs.length, ∃ result,
    (∀ depth, cs.length < p + depth → readPayload depth cs p = some result) ∧ EndsBehind cs p result
  /-- Each call begins later than those of its function that it is inside of, and each turn of a
  loop later than the turns before. -/
  calls : ∃ result, readWhole.onAll ts = some result ∧ readWholeLater.onAll ts = some result
  /-- A step from the last token does not move. -/
  stays : step ts (ts.length - 1) = some (.ok ((), ts.length - 1))
  /-- The text is cut into tokens in the end. -/
  tokensEnd : readTokens.onAll cs = some (Token.readAll cs)
  /-- The text is read as a payload in the end. -/
  documentEnds : readDocument.onAll cs = some ((Payload.ofChars? cs).elim (.error ()) .ok)
  /-- The text is read as a filter in the end. -/
  filterEnds : Bounded.filterOf cs = Bounded.given (Filter.ofText (String.ofList cs))

/-- **Reading moves on**, whatever text it is and whatever tokens they are, if the last is the mark
of the end. -/
theorem readers_move_on (cs : List Char) {ts : List Token} (hlast : ts.getLast? = some .finish) :
    MovesOn cs ts where
  tokens := readTokensMoving_onAll cs
  keys _ hp := exists_readKey_endsBehind hp
  payloads _ hp := exists_readPayload_endsBehind hp
  calls := readWholeLater_onAll hlast
  stays := step_of_last hlast
  tokensEnd := readTokens_onAll cs
  documentEnds := readDocument_onAll cs
  filterEnds := Bounded.filterOf_eq cs

/-- The tokens of `(a = 1 or b = 2)`, with something behind the mark of the end and another one. -/
def endedTwice : List Token :=
  [.open, .name "a", .operator .equal, .number "1", .or, .name "b", .operator .equal, .number "2",
    .close, .finish, .or, .finish]

theorem readers_move_on_endedTwice :
    endedTwice.getLast? = some .finish ∧ MovesOn "(a != \"\\u0041\" or b ! 2".toList endedTwice ∧
      readWhole.onAll endedTwice =
        some (.ok (.or (.comparison (.name "a") .equal (.number "1"))
          (.comparison (.name "b") .equal (.number "2")))) :=
  ⟨rfl, readers_move_on _ rfl, rfl⟩

end RecordStore.Cursor
