import RecordStore.Proofs.Bounds.Tokens

/-!
# Filters within bounds

Reading a filter at a position goes by calls, one function for each level of precedence, and the token
at the position is looked at without asking whether there is one. To move on is to compute the last
position first, which needs a list that is not empty, and to stay where one is if that has been reached.

There is a token at the position as long as the mark of the end has not been passed (`Ended`), and it
is never passed: nothing that reads on takes it for its own. So the calls stay within the tokens, and
come to what the loop of the reader does, which keeps in a level what waits for a right side
(`finds_readFilter`, `readWhole_onAll`).
-/

namespace RecordStore.Cursor

open RecordStore.Filter
open Bounded (minus?)

/-! ### Reading at a position -/

/-- Moves on by one, unless the last token has been reached. -/
def step : Cursor Token FilterSyntaxError Unit := do
  let last ← need (minus? (← count) 1)
  if (← position) < last then advance else return ()

/-- The token at the position stands where no filter has it. -/
def unexpected {α : Type} : Cursor Token FilterSyntaxError α := do
  throw (.unexpected (← current))

/-- Passes a token, which has to be the one at the position. -/
def consume (t : Token) : Cursor Token FilterSyntaxError Unit := do
  if (← current) = t then step else unexpected

/-- Reads what a token of some kind is. -/
def readAs {α : Type} (kind : Token → Option α) : Cursor Token FilterSyntaxError α := do
  match kind (← current) with
  | some a =>
    step
    return a
  | none => unexpected

/-- Reads a comparison. -/
def readComparison : Cursor Token FilterSyntaxError Filter := do
  let left ← readAs Token.operand?
  let op ← readAs Token.operator?
  let right ← readAs Token.operand?
  return .comparison left op right

/-- Reads an atom: a comparison, or a filter in parentheses. -/
def readAtom (filter : Cursor Token FilterSyntaxError Filter) :
    Cursor Token FilterSyntaxError Filter := do
  if (← current) = .open then
    step
    let inside ← filter
    consume .close
    return inside
  else readComparison

/-- Reads a chain of parts that a keyword joins, behind what has been read of it. -/
def readChainFrom (keyword : Token) (join : Filter → Filter → Filter)
    (part : Cursor Token FilterSyntaxError Filter) :
    Nat → Filter → Cursor Token FilterSyntaxError Filter
  | 0, _ => endless
  | turns + 1, left => do
    if (← current) = keyword then
      step
      let right ← part
      readChainFrom keyword join part turns (join left right)
    else return left

/-- Reads a chain of parts that a keyword joins. -/
def readChain (keyword : Token) (join : Filter → Filter → Filter)
    (part : Cursor Token FilterSyntaxError Filter) : Cursor Token FilterSyntaxError Filter := do
  let first ← part
  readChainFrom keyword join part (← turns) first

/-- Reads a filter in which parentheses nest no deeper than `depth`. -/
def readFilter : Nat → Cursor Token FilterSyntaxError Filter
  | 0 => endless
  | depth + 1 => readChain .or .or (readChain .and .and (readAtom (readFilter depth)))

/-- Reads a filter that is all of the tokens. -/
def readWhole : Cursor Token FilterSyntaxError Filter := do
  let filter ← readFilter (← turns)
  if (← current) = .finish then return filter else unexpected

/-! ### The mark of the end -/

/-- The tokens end in their only mark of the end. -/
def Ended (ts : List Token) : Prop := ∃ front, ts = front ++ [.finish] ∧ .finish ∉ front

variable {ts rest : List Token} {p : Nat} {t : Token}

theorem Ended.exists_cons (h : Ended rest) : ∃ t more, rest = t :: more := by
  obtain ⟨front, rfl, -⟩ := h
  rcases front with _ | ⟨t, front⟩
  · exact ⟨.finish, [], rfl⟩
  · exact ⟨t, front ++ [.finish], rfl⟩

theorem Ended.tail (h : Ended (t :: rest)) (ht : t ≠ .finish) : Ended rest := by
  obtain ⟨front, hfront, hfinish⟩ := h
  rcases front with _ | ⟨u, front⟩
  · exact absurd (List.cons.inj hfront).1 ht
  · exact ⟨front, (List.cons.inj hfront).2, fun hmem ↦ hfinish (List.mem_cons_of_mem u hmem)⟩

/-! ### What one token does -/

theorem gives_unexpected {α : Type} (h : Cut ts p (t :: rest)) :
    Gives (α := α) ts p unexpected (.error (.unexpected t)) :=
  (gives_current h).bind_ok fun _ _ ↦ gives_throw _

/-- Whatever is not the mark of the end has a token behind it, and there the step goes. -/
theorem gives_step (hended : Ended (t :: rest)) (ht : t ≠ .finish) (h : Cut ts p (t :: rest)) :
    Gives ts p step (.ok ((), rest)) := by
  obtain ⟨u, more, hrest⟩ := (hended.tail ht).exists_cons
  have hlength := h.length
  rw [hrest, List.length_cons, List.length_cons] at hlength
  rw [step]
  refine (gives_count h).bind_ok fun q hq ↦ ?_
  refine (gives_need hq (Bounded.minus?_of_le (by omega))).bind_ok fun q hq ↦ ?_
  refine (gives_position hq).bind_ok fun q' hq' ↦ ?_
  have hlengthq := hq.length
  rw [hrest, List.length_cons, List.length_cons] at hlengthq
  rw [if_pos (by omega)]
  exact gives_advance hq'

variable {α : Type} {kind : Token → Option α}

theorem gives_readAs_some {a : α} (hended : Ended (t :: rest)) (hfinish : kind .finish = none)
    (ht : kind t = some a) (h : Cut ts p (t :: rest)) :
    Gives ts p (readAs kind) (.ok (a, rest)) := by
  have hne : t ≠ .finish := by
    rintro rfl
    rw [hfinish] at ht
    cases ht
  rw [readAs]
  refine (gives_current h).bind_ok fun q hq ↦ ?_
  rw [ht]
  exact (gives_step hended hne hq).bind_ok fun q hq ↦ gives_pure hq a

theorem gives_readAs_none (ht : kind t = none) (h : Cut ts p (t :: rest)) :
    Gives ts p (readAs kind) (.error (.unexpected t)) := by
  rw [readAs]
  refine (gives_current h).bind_ok fun q hq ↦ ?_
  rw [ht]
  exact gives_unexpected hq

theorem gives_consume (hended : Ended (t :: rest)) (ht : t ≠ .finish) (h : Cut ts p (t :: rest)) :
    Gives ts p (consume t) (.ok ((), rest)) := by
  rw [consume]
  refine (gives_current h).bind_ok fun q hq ↦ ?_
  rw [if_pos rfl]
  exact gives_step hended ht hq

theorem gives_consume_of_ne {u : Token} (hne : t ≠ u) (h : Cut ts p (t :: rest)) :
    Gives ts p (consume u) (.error (.unexpected t)) := by
  rw [consume]
  refine (gives_current h).bind_ok fun q hq ↦ ?_
  rw [if_neg hne]
  exact gives_unexpected hq

/-! ### What is taken off the front -/

/-- Work in front of the tokens `rest` takes a filter off them, or is refused, as a reader does wherever
a filter is due. What the reader knows of its surroundings is `i`. It makes `before i` of the tokens,
and goes on with `after i` behind the filter, where a token of the kind `stops` stands. -/
inductive Takes (ts : List Token) (work : Cursor Token FilterSyntaxError Filter)
    (stops : Token → Prop) (rest : List Token) {ι : Type}
    (before : ι → List Token → Except FilterSyntaxError Filter)
    (after : ι → Filter → List Token → Except FilterSyntaxError Filter) : Prop where
  /-- The tokens are refused. -/
  | refused {fault : FilterSyntaxError}
      (hwork : ∀ p, Cut ts p rest → Gives ts p work (.error fault))
      (hread : ∀ i, before i rest = .error fault)
  /-- There is a filter, and a token behind it. -/
  | taken {filter : Filter} {t : Token} {more : List Token}
      (hwork : ∀ p, Cut ts p rest → Gives ts p work (.ok (filter, t :: more)))
      (hended : Ended (t :: more)) (hstops : stops t) (hlength : (t :: more).length ≤ rest.length)
      (hread : ∀ i, before i rest = after i filter (t :: more))

section

variable {ι : Type} {stops : Token → Prop}
  {before next : ι → List Token → Except FilterSyntaxError Filter}
  {after : ι → Filter → List Token → Except FilterSyntaxError Filter}

/-- A filter that has been read. -/
theorem takes_pure (filter : Filter) (hended : Ended (t :: rest)) (hstops : stops t)
    (hread : ∀ i, before i (t :: rest) = after i filter (t :: rest)) :
    Takes ts (pure filter) stops (t :: rest) before after :=
  .taken (fun _ h ↦ gives_pure h filter) hended hstops (Nat.le_refl _) hread

/-- The reader may be somewhere else, if it makes the same of the tokens there. -/
theorem Takes.of_eq {work : Cursor Token FilterSyntaxError Filter}
    (hwork : Takes ts work stops rest next after) (hread : ∀ i, before i rest = next i rest) :
    Takes ts work stops rest before after := by
  cases hwork with
  | refused hwork hnext => exact .refused hwork fun i ↦ (hread i).trans (hnext i)
  | taken hwork hended hstops hle hnext =>
    exact .taken hwork hended hstops hle fun i ↦ (hread i).trans (hnext i)

/-- Work that begins with something else than the reading of a filter. -/
theorem Takes.behind {a : α} {more : List Token} {first : Cursor Token FilterSyntaxError α}
    {work : α → Cursor Token FilterSyntaxError Filter}
    (hfirst : ∀ p, Cut ts p rest → Gives ts p first (.ok (a, more)))
    (hle : more.length ≤ rest.length) (hread : ∀ i, before i rest = next i more)
    (hwork : Takes ts (work a) stops more next after) :
    Takes ts (first >>= work) stops rest before after := by
  cases hwork with
  | refused hwork hnext =>
    exact .refused (fun p h ↦ (hfirst p h).bind_ok hwork) fun i ↦ (hread i).trans (hnext i)
  | taken hwork hended hstops hlength hnext =>
    exact .taken (fun p h ↦ (hfirst p h).bind_ok hwork) hended hstops (hlength.trans hle)
      fun i ↦ (hread i).trans (hnext i)

/-- Work that begins with a look at the token at the position. -/
theorem Takes.look {work : Token → Cursor Token FilterSyntaxError Filter}
    (hwork : Takes ts (work t) stops (t :: rest) before after) :
    Takes ts (current >>= work) stops (t :: rest) before after :=
  hwork.behind (fun _ h ↦ gives_current h) (Nat.le_refl _) fun _ ↦ rfl

/-- Work that begins with a step over the token at the position. -/
theorem Takes.step {work : Unit → Cursor Token FilterSyntaxError Filter}
    (next : ι → List Token → Except FilterSyntaxError Filter) (hended : Ended (t :: rest))
    (ht : t ≠ .finish) (hread : ∀ i, before i (t :: rest) = next i rest)
    (hwork : Takes ts (work ()) stops rest next after) :
    Takes ts (Cursor.step >>= work) stops (t :: rest) before after :=
  hwork.behind (fun _ h ↦ gives_step hended ht h) (Nat.le_succ _) hread

/-- Work that begins with the reading of a filter, and goes on where the reader goes on. -/
theorem Takes.andThen {κ : Type} {first : Cursor Token FilterSyntaxError Filter}
    {work : Filter → Cursor Token FilterSyntaxError Filter} {stopsFirst : Token → Prop}
    {next : κ → List Token → Except FilterSyntaxError Filter}
    {behind : κ → Filter → List Token → Except FilterSyntaxError Filter} (f : ι → κ)
    (hfirst : Takes ts first stopsFirst rest next behind)
    (hread : ∀ i, before i rest = next (f i) rest)
    (hwork : ∀ filter t more, stopsFirst t → (t :: more).length ≤ rest.length → Ended (t :: more) →
      Takes ts (work filter) stops (t :: more) (fun i ↦ behind (f i) filter) after) :
    Takes ts (first >>= work) stops rest before after := by
  cases hfirst with
  | refused hfirst hnext =>
    exact .refused (fun p h ↦ (hfirst p h).bind_error work) fun i ↦ (hread i).trans (hnext (f i))
  | taken hfirst hended hstops hle hnext =>
    exact (hwork _ _ _ hstops hle hended).behind hfirst hle
      fun i ↦ (hread i).trans (hnext (f i))

/-- Work that begins with the reading of a token. -/
theorem takes_readAs {work : α → Cursor Token FilterSyntaxError Filter} (hended : Ended (t :: rest))
    (hfinish : kind .finish = none)
    (hnone : kind t = none → ∀ i, before i (t :: rest) = .error (.unexpected t))
    (hsome : ∀ a, kind t = some a → Ended rest → ∃ next : ι → List Token → _,
      (∀ i, before i (t :: rest) = next i rest) ∧ Takes ts (work a) stops rest next after) :
    Takes ts (readAs kind >>= work) stops (t :: rest) before after := by
  cases ht : kind t with
  | none =>
    exact .refused (fun p h ↦ (gives_readAs_none ht h).bind_error _) (hnone ht)
  | some a =>
    have hne : t ≠ .finish := by
      rintro rfl
      rw [hfinish] at ht
      cases ht
    obtain ⟨next, hread, hwork⟩ := hsome a ht (hended.tail hne)
    exact hwork.behind (fun p h ↦ gives_readAs_some hended hfinish ht h) (Nat.le_succ _) hread

end

/-! ### Atoms -/

/-- What the reader makes of tokens at a place, within a level and those around it. -/
def placed (place : Place) (i : Level × List Level) : List Token → Except FilterSyntaxError Filter :=
  readFrom place i.1 i.2

/-- What the reader makes of tokens behind an atom. -/
def atomRead (i : Level × List Level) (atom : Filter) : List Token → Except FilterSyntaxError Filter :=
  placed (.after atom) i

theorem takes_readComparison (hended : Ended (t :: rest)) (hopen : t ≠ .open) :
    Takes ts readComparison (fun _ ↦ True) (t :: rest) (placed .due) atomRead := by
  rw [readComparison]
  refine takes_readAs hended rfl (fun hleft i ↦ ?_) fun left hleft hended ↦
    ⟨placed (.operand left), fun i ↦ ?_, ?_⟩
  · simp only [placed, readFrom, if_neg hopen, hleft]
  · simp only [placed, readFrom, if_neg hopen, hleft]
  obtain ⟨u, rest, rfl⟩ := hended.exists_cons
  refine takes_readAs hended rfl (fun hop i ↦ ?_) fun op hop hended ↦
    ⟨placed (.operator left op), fun i ↦ ?_, ?_⟩
  · simp only [placed, readFrom, hop]
  · simp only [placed, readFrom, hop]
  obtain ⟨v, rest, rfl⟩ := hended.exists_cons
  refine takes_readAs hended rfl (fun hright i ↦ ?_) fun right hright hended ↦
    ⟨placed (.after (.comparison left op right)), fun i ↦ ?_, ?_⟩
  · simp only [placed, readFrom, hright]
  · simp only [placed, readFrom, hright]
  obtain ⟨w, rest, rfl⟩ := hended.exists_cons
  exact takes_pure _ hended trivial fun i ↦ rfl

/-- Where no keyword joins a filter in parentheses to another one, they have to be closed. -/
theorem readFrom_inside {filter : Filter} {level : Level} {outer : List Level} (hand : t ≠ .and)
    (hor : t ≠ .or) (hclose : t ≠ .close) :
    readFrom (.after filter) .start (level :: outer) (t :: rest) = .error (.unexpected t) := by
  cases t <;> first | rfl | contradiction

theorem takes_readAtom {filter : Cursor Token FilterSyntaxError Filter} {depth : Nat}
    (hfilter : ∀ rest, rest.length < depth → Ended rest →
      Takes ts filter (fun t ↦ (True ∧ t ≠ .and) ∧ t ≠ .or) rest
        (fun outer ↦ placed .due (.start, outer)) fun outer ↦ atomRead (.start, outer))
    (hdepth : rest.length < depth + 1) (hended : Ended rest) :
    Takes ts (readAtom filter) (fun _ ↦ True) rest (placed .due) atomRead := by
  obtain ⟨t, rest, rfl⟩ := hended.exists_cons
  rw [readAtom]
  refine .look ?_
  by_cases hopen : t = .open
  case neg =>
    rw [if_neg hopen]
    exact takes_readComparison hended hopen
  subst hopen
  rw [if_pos rfl]
  have hinside := hended.tail (by decide)
  refine .step (fun i ↦ placed .due (.start, i.1 :: i.2)) hended (by decide) (fun i ↦ ?_) ?_
  · simp only [placed, readFrom, if_pos]
  refine (hfilter rest (Nat.lt_of_succ_lt_succ hdepth) hinside).andThen (fun i ↦ i.1 :: i.2)
    (fun _ ↦ rfl) fun inside u more hstops _ hended ↦ ?_
  by_cases hclose : u = .close
  · subst hclose
    obtain ⟨v, more, rfl⟩ := (hended.tail (by decide)).exists_cons
    have hinside : Takes ts (pure inside) (fun _ ↦ True) (v :: more)
        (fun i ↦ atomRead i inside) atomRead :=
      takes_pure inside (hended.tail (by decide)) trivial fun _ ↦ rfl
    exact hinside.behind (fun p h ↦ gives_consume hended (by decide) h) (Nat.le_succ _) fun _ ↦ rfl
  · refine .refused (fun p h ↦ (gives_consume_of_ne hclose h).bind_error _) fun i ↦ ?_
    exact readFrom_inside hstops.1.2 hstops.2 hclose

/-! ### Chains -/

section

variable {ι κ : Type} {keyword : Token} {join : Filter → Filter → Filter} {stops : Token → Prop}
  {part : Cursor Token FilterSyntaxError Filter} {bound : Nat}
  {before : κ → List Token → Except FilterSyntaxError Filter}
  {after : κ → Filter → List Token → Except FilterSyntaxError Filter}
  {first : ι → κ} {waiting : ι → Filter → κ}

/-- **A chain is read** part by part: behind a keyword, the reader has what it read of the chain wait
for the next part, and joins the two where this ends. -/
theorem takes_readChainFrom
    (hpart : ∀ rest, rest.length < bound → Ended rest → Takes ts part stops rest before after)
    (hkeyword : keyword ≠ .finish)
    (hnext : ∀ i left rest, after (first i) left (keyword :: rest) = before (waiting i left) rest)
    (hjoin : ∀ i left right t rest, stops t →
      after (waiting i left) right (t :: rest) = after (first i) (join left right) (t :: rest))
    {turns : Nat} (hturns : rest.length < turns) (hbound : rest.length < bound)
    (hended : Ended (t :: rest)) (hstops : stops t) (left : Filter) :
    Takes ts (readChainFrom keyword join part turns left) (fun t ↦ stops t ∧ t ≠ keyword) (t :: rest)
      (fun i ↦ after (first i) left) fun i ↦ after (first i) := by
  induction turns generalizing t rest left with
  | zero => exact absurd hturns (Nat.not_lt_zero _)
  | succ turns ih =>
    rw [readChainFrom]
    refine .look ?_
    by_cases hjoined : t = keyword
    case neg =>
      rw [if_neg hjoined]
      exact takes_pure left hended ⟨hstops, hjoined⟩ fun _ ↦ rfl
    subst hjoined
    rw [if_pos rfl]
    have hmore := hended.tail hkeyword
    refine .step (fun i ↦ before (waiting i left)) hended hkeyword (fun i ↦ hnext i left rest) ?_
    refine (hpart rest hbound hmore).andThen (fun i ↦ waiting i left) (fun _ ↦ rfl)
      fun right u more hstops hle hended ↦ ?_
    rw [List.length_cons] at hle
    exact (ih (by omega) (by omega) hended hstops (join left right)).of_eq fun i ↦
      hjoin i left right u more hstops

theorem takes_readChain (first : ι → κ) (waiting : ι → Filter → κ)
    (hpart : ∀ rest, rest.length < bound → Ended rest → Takes ts part stops rest before after)
    (hkeyword : keyword ≠ .finish)
    (hnext : ∀ i left rest, after (first i) left (keyword :: rest) = before (waiting i left) rest)
    (hjoin : ∀ i left right t rest, stops t →
      after (waiting i left) right (t :: rest) = after (first i) (join left right) (t :: rest))
    (hturns : bound ≤ ts.length + 1) (hbound : rest.length < bound) (hended : Ended rest) :
    Takes ts (readChain keyword join part) (fun t ↦ stops t ∧ t ≠ keyword) rest
      (fun i ↦ before (first i)) fun i ↦ after (first i) := by
  rw [readChain]
  refine (hpart rest hbound hended).andThen first (fun _ ↦ rfl) fun left t more hstops hle hended ↦ ?_
  rw [List.length_cons] at hle
  have hchain : Takes ts (readChainFrom keyword join part (ts.length + 1) left)
      (fun t ↦ stops t ∧ t ≠ keyword) (t :: more) (fun i ↦ after (first i) left)
      fun i ↦ after (first i) :=
    takes_readChainFrom hpart hkeyword hnext hjoin (by omega) (by omega) hended hstops left
  exact hchain.behind (fun p h ↦ gives_turns h) (Nat.le_refl _) fun i ↦ rfl

end

/-- Behind an atom, a level matters by what it makes together with the atom. -/
theorem readFrom_after_congr {level level' : Level} {atom atom' : Filter}
    (hclose : level.close atom = level'.close atom')
    (hand : t = .and → level.disjunct = level'.disjunct ∧ level.conjoin atom = level'.conjoin atom')
    (outer : List Level) (rest : List Token) :
    readFrom (.after atom) level outer (t :: rest) =
      readFrom (.after atom') level' outer (t :: rest) := by
  cases t with
  | and =>
    obtain ⟨hdisjunct, hconjoin⟩ := hand rfl
    simp only [readFrom, hdisjunct, hconjoin]
  | or => simp only [readFrom, hclose]
  | close | finish => cases outer <;> simp only [readFrom, hclose]
  | includes | name | number | quoted | bool | bare | «open» | operator => simp only [readFrom]

/-- The level of a conjunction, behind the filter that it may be an alternative to. -/
def alternative (i : Option Filter × List Level) : Level × List Level := (⟨i.1, none⟩, i.2)

theorem takes_conjunction {part : Cursor Token FilterSyntaxError Filter} {bound : Nat}
    (hpart : ∀ rest, rest.length < bound → Ended rest →
      Takes ts part (fun _ ↦ True) rest (placed .due) atomRead)
    (hturns : bound ≤ ts.length + 1) (hbound : rest.length < bound) (hended : Ended rest) :
    Takes ts (readChain .and .and part) (fun t ↦ True ∧ t ≠ .and) rest
      (fun i ↦ placed .due (alternative i)) fun i ↦ atomRead (alternative i) := by
  refine takes_readChain alternative (fun i left ↦ (⟨i.1, some left⟩, i.2)) hpart (by decide)
    (fun i left rest ↦ ?_) (fun i left right t rest _ ↦ ?_) hturns hbound hended
  · simp only [atomRead, alternative, placed, readFrom, Level.conjoin]
  · exact readFrom_after_congr (by cases i.1 <;> rfl) (fun _ ↦ ⟨rfl, rfl⟩) i.2 rest

/-- **Reading a filter at a position** comes to what the loop of the reader does, whatever parentheses
nest in what: there are never more of them than tokens left. -/
theorem takes_readFilter {depth : Nat} (hturns : depth ≤ ts.length + 1) (hdepth : rest.length < depth)
    (hended : Ended rest) :
    Takes ts (readFilter depth) (fun t ↦ (True ∧ t ≠ .and) ∧ t ≠ .or) rest
      (fun outer ↦ placed .due (.start, outer)) fun outer ↦ atomRead (.start, outer) := by
  induction depth generalizing rest with
  | zero => exact absurd hdepth (Nat.not_lt_zero _)
  | succ depth ih =>
    rw [readFilter]
    refine takes_readChain (fun outer ↦ (none, outer)) (fun outer left ↦ (some left, outer))
      (fun rest hdepth hended ↦ takes_conjunction (fun rest hdepth hended ↦ ?_) hturns hdepth hended)
      (by decide) (fun outer left rest ↦ ?_) (fun outer left right t rest hstops ↦ ?_) hturns hdepth
      hended
    · exact takes_readAtom (fun rest hdepth hended ↦ ih (by omega) hdepth hended) hdepth hended
    · simp only [atomRead, alternative, placed, readFrom, Level.close, Level.conjoin]
    · have hclose : Level.close ⟨some left, none⟩ right = Level.start.close (.or left right) := rfl
      exact readFrom_after_congr hclose (fun hand ↦ absurd hand hstops.2) outer rest

/-- Where no keyword joins a filter to another one, the tokens have to end. -/
theorem readFrom_outside {filter : Filter} (hand : t ≠ .and) (hor : t ≠ .or) (hfinish : t ≠ .finish) :
    readFrom (.after filter) .start [] (t :: rest) = .error (.unexpected t) := by
  cases t <;> first | rfl | contradiction

/-- The tokens of a text are read to their end without going out of range, as the filter that they
stand for. -/
theorem readWhole_onAll (hended : Ended ts) : readWhole.onAll ts = some (ofTokens ts) := by
  have hfilter := takes_readFilter (Nat.le_refl _) (Nat.lt_succ_self _) hended
  have hstart := gives_turns (ε := FilterSyntaxError) (Cut.front ts)
  show _ = some (placed .due (.start, []) ts)
  cases hfilter with
  | refused hwork hread =>
    have hwhole : Gives ts 0 readWhole (.error _) :=
      hstart.bind_ok fun q hq ↦ (hwork q hq).bind_error _
    rw [hwhole.onAll, hread []]
    rfl
  | @taken filter t more hwork hended hstops hle hread =>
    rw [hread []]
    by_cases hfinish : t = .finish
    · have hwhole : Gives ts 0 readWhole (.ok (filter, t :: more)) := by
        refine hstart.bind_ok fun q hq ↦ (hwork q hq).bind_ok fun q hq ↦
          (gives_current hq).bind_ok fun q hq ↦ ?_
        rw [if_pos hfinish]
        exact gives_pure hq filter
      rw [hwhole.onAll, hfinish]
      rfl
    · have hwhole : Gives ts 0 readWhole (.error (.unexpected t)) := by
        refine hstart.bind_ok fun q hq ↦ (hwork q hq).bind_ok fun q hq ↦
          (gives_current hq).bind_ok fun q hq ↦ ?_
        rw [if_neg hfinish]
        exact gives_unexpected hq
      rw [hwhole.onAll, atomRead, placed, readFrom_outside hstops.1.2 hstops.2 hfinish]
      rfl

end RecordStore.Cursor
