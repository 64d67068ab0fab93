import Mathlib.Data.List.Basic

/-!
# Reading at a position

The readers take a list apart from the front, and what they return is what is left of it. Here is how
the same is done in place: the list stays, a position moves along it, and to look at a thing or to cut
out a part is to ask for it by number. Such a question may have no answer. `Cursor` is work of this
kind, and it comes to nothing at all if it ever asks outside the list, subtracts below zero or leaves
the 32 bits that a number has. It also comes to nothing if it takes more turns than the list has
things, so nothing that comes to a result went on without end.

`Gives` ties the two together: what work at a position comes to, given what a reader makes of the rest
of the list. It says in particular that the work comes to something, and each step of the work keeps
the position inside the list (`Cut`).
-/

namespace RecordStore

/-- Something that may be refused, or come to nothing because it goes out of range or does not end. -/
abbrev Bounded (ε : Type) : Type → Type := ExceptT ε Option

/-- Work on a list at a position. -/
abbrev Cursor (τ ε : Type) : Type → Type := ReaderT (List τ) (StateT Nat (Bounded ε))

/-! ### Numbers and ranges -/

namespace Bounded

/-- The difference of two numbers, which must not be below zero. -/
def minus? (m n : Nat) : Option Nat := if n ≤ m then some (m - n) else none

/-- A number, which must have no more than 32 bits. -/
def word? (n : Nat) : Option Nat := if n < 0x100000000 then some n else none

/-- The part of a list from one position to another, which must stand in this order and inside it. -/
def slice? {τ : Type} (ts : List τ) (start stop : Nat) : Option (List τ) :=
  if start ≤ stop ∧ stop ≤ ts.length then some ((ts.take stop).drop start) else none

theorem minus?_of_le {m n : Nat} (h : n ≤ m) : minus? m n = some (m - n) := if_pos h

theorem word?_of_lt {n : Nat} (h : n < 0x100000000) : word? n = some n := if_pos h

end Bounded

namespace Cursor

variable {τ ε α β : Type}

/-! ### Steps -/

/-- A number or part that must be there. -/
def need (found : Option α) : Cursor τ ε α := fun _ p ↦ found.map fun a ↦ .ok (a, p)

/-- The position. -/
def position : Cursor τ ε Nat := fun _ p ↦ some (.ok (p, p))

/-- Is the position at the end, or behind it? -/
def atEnd : Cursor τ ε Bool := fun ts p ↦ some (.ok (decide (ts.length ≤ p), p))

/-- The thing at the position, which must be there. -/
def current : Cursor τ ε τ := fun ts p ↦ ts[p]?.map fun t ↦ .ok (t, p)

/-- The thing at the position, if there is one. -/
def peek : Cursor τ ε (Option τ) := fun ts p ↦ some (.ok (ts[p]?, p))

/-- Moves on by one. -/
def advance : Cursor τ ε Unit := fun _ p ↦ some (.ok ((), p + 1))

/-- The part of the list from a position to the present one. -/
def cut (start : Nat) : Cursor τ ε (List τ) := fun ts p ↦
  (Bounded.slice? ts start p).map fun part ↦ .ok (part, p)

/-- Takes the next thing, if there is one. -/
def next? : Cursor τ ε (Option τ) := do
  match ← peek with
  | none => return none
  | some t =>
    advance
    return some t

/-- How many things the list has. -/
def count : Cursor τ ε Nat := fun ts p ↦ some (.ok (ts.length, p))

/-- How many turns any loop over the list may take. -/
def turns : Cursor τ ε Nat := fun ts p ↦ some (.ok (ts.length + 1, p))

/-- What is left when there are no turns left. -/
def endless : Cursor τ ε α := fun _ _ ↦ none

/-- Takes things as long as they are of a kind, and looks at each before it takes it. -/
def spanPeeked (kind : τ → Bool) : Nat → List τ → Cursor τ ε (List τ)
  | 0, _ => endless
  | turns + 1, before => do
    match ← peek with
    | none => return before.reverse
    | some t =>
      if kind t then
        advance
        spanPeeked kind turns (t :: before)
      else return before.reverse

/-- Takes things as long as they are of a kind, and asks for the end before it looks at any. -/
def span (kind : τ → Bool) : Nat → List τ → Cursor τ ε (List τ)
  | 0, _ => endless
  | turns + 1, before => do
    if ← atEnd then
      return before.reverse
    let t ← current
    if kind t then
      advance
      span kind turns (t :: before)
    else return before.reverse

/-- What work comes to that begins at the front of a list. -/
def onAll (work : Cursor τ ε α) (ts : List τ) : Bounded ε α := do
  let (a, _) ← work ts 0
  return a

/-- The same work with other faults. -/
def withFault {ε' : Type} (f : ε → ε') (work : Cursor τ ε α) : Cursor τ ε' α := fun ts p ↦
  Option.map (Except.mapError f) (work ts p)

/-! ### Where a position cuts a list -/

/-- The position is inside the list or at its end, and this is what stands behind it. -/
structure Cut (ts : List τ) (p : Nat) (rest : List τ) : Prop where
  le : p ≤ ts.length
  drop : ts.drop p = rest

variable {ts rest : List τ} {p q : Nat} {t : τ} {kind : τ → Bool}

theorem Cut.front (ts : List τ) : Cut ts 0 ts := ⟨Nat.zero_le _, rfl⟩

theorem Cut.getElem? (h : Cut ts p rest) : ts[p]? = rest.head? := by
  rw [← h.drop, List.head?_drop]

theorem Cut.length (h : Cut ts p rest) : p + rest.length = ts.length := by
  have hle := h.le
  rw [← h.drop, List.length_drop]
  omega

theorem Cut.next (h : Cut ts p (t :: rest)) : Cut ts (p + 1) rest := by
  have hlength := h.length
  rw [List.length_cons] at hlength
  refine ⟨by omega, ?_⟩
  rw [← List.tail_drop, h.drop, List.tail_cons]

theorem Cut.length_le_iff (h : Cut ts p rest) : ts.length ≤ p ↔ rest = [] := by
  have hlength := h.length
  rw [← List.length_eq_zero_iff]
  omega

/-- The part between two positions is what was read from one to the other. -/
theorem Cut.slice? {part : List τ} (h : Cut ts p (part ++ rest)) (hq : Cut ts q rest) :
    Bounded.slice? ts p q = some part := by
  have hp := h.length
  have hlength := hq.length
  rw [List.length_append] at hp
  rw [Bounded.slice?, if_pos ⟨by omega, hq.le⟩, List.drop_take, h.drop]
  have hpart : q - p = part.length := by omega
  rw [hpart, List.take_left]

/-! ### What work comes to -/

/-- Work at a position comes to what a reader makes of the rest: the same fault, or the same result
and a position that leaves the same rest. -/
def Gives (ts : List τ) (p : Nat) (work : Cursor τ ε α) (result : Except ε (α × List τ)) : Prop :=
  match result with
  | .error fault => work ts p = some (.error fault)
  | .ok (a, rest) => ∃ q, Cut ts q rest ∧ work ts p = some (.ok (a, q))

theorem gives_pure (h : Cut ts p rest) (a : α) :
    Gives (ε := ε) ts p (pure a) (.ok (a, rest)) := ⟨p, h, rfl⟩

theorem gives_throw (fault : ε) : Gives (α := α) ts p (throw fault) (.error fault) := rfl

theorem Gives.bind_ok {work : Cursor τ ε α} {more : α → Cursor τ ε β} {a : α}
    {result : Except ε (β × List τ)} (h : Gives ts p work (.ok (a, rest)))
    (hmore : ∀ q, Cut ts q rest → Gives ts q (more a) result) :
    Gives ts p (work >>= more) result := by
  obtain ⟨q, hcut, hwork⟩ := h
  have hbind : (work >>= more) ts p = more a ts q := by
    show ((work ts p : Bounded ε (α × Nat)) >>= fun b ↦ more b.1 ts b.2) = _
    rw [hwork]
    rfl
  cases result with
  | error fault => exact hbind.trans (hmore q hcut)
  | ok found =>
    obtain ⟨q', hcut', hwork'⟩ := hmore q hcut
    exact ⟨q', hcut', hbind.trans hwork'⟩

theorem Gives.bind_error {work : Cursor τ ε α} {fault : ε} (h : Gives ts p work (.error fault))
    (more : α → Cursor τ ε β) : Gives ts p (work >>= more) (.error fault) := by
  show ((work ts p : Bounded ε (α × Nat)) >>= fun b ↦ more b.1 ts b.2) = _
  rw [show work ts p = some (.error fault) from h]
  rfl

theorem Gives.withFault {ε' : Type} {work : Cursor τ ε α} {result : Except ε (α × List τ)}
    (h : Gives ts p work result) (f : ε → ε') :
    Gives ts p (work.withFault f) (result.mapError f) := by
  cases result with
  | error fault =>
    exact congrArg (Option.map (Except.mapError f)) h
  | ok found =>
    obtain ⟨q, hcut, hwork⟩ := h
    exact ⟨q, hcut, congrArg (Option.map (Except.mapError f)) hwork⟩

/-- **Work on a whole list** comes to what the reader makes of the list. -/
theorem Gives.onAll {work : Cursor τ ε α} {result : Except ε (α × List τ)}
    (h : Gives ts 0 work result) : work.onAll ts = some (result.map Prod.fst) := by
  show ((work ts 0 : Bounded ε (α × Nat)) >>= fun found ↦ pure found.1) = _
  cases result with
  | error fault =>
    rw [show work ts 0 = some (.error fault) from h]
    rfl
  | ok found =>
    obtain ⟨q, -, hwork⟩ := h
    rw [hwork]
    rfl

/-! ### What each step comes to -/

theorem gives_need (h : Cut ts p rest) {found : Option α} {a : α} (hfound : found = some a) :
    Gives (ε := ε) ts p (need found) (.ok (a, rest)) := by
  refine ⟨p, h, ?_⟩
  rw [need, hfound]
  rfl

theorem gives_position (h : Cut ts p rest) :
    Gives (ε := ε) ts p position (.ok (p, rest)) := ⟨p, h, rfl⟩

theorem gives_atEnd (h : Cut ts p rest) :
    Gives (ε := ε) ts p atEnd (.ok (rest.isEmpty, rest)) := by
  have hempty : decide (ts.length ≤ p) = rest.isEmpty := by
    rw [Bool.eq_iff_iff, decide_eq_true_eq, h.length_le_iff, List.isEmpty_iff]
  refine ⟨p, h, ?_⟩
  rw [atEnd, hempty]

theorem gives_peek_nil (h : Cut ts p []) : Gives (ε := ε) ts p peek (.ok (none, [])) := by
  refine ⟨p, h, ?_⟩
  rw [peek, h.getElem?]
  rfl

theorem gives_peek_cons (h : Cut ts p (t :: rest)) :
    Gives (ε := ε) ts p peek (.ok (some t, t :: rest)) := by
  refine ⟨p, h, ?_⟩
  rw [peek, h.getElem?]
  rfl

/-- Nothing but the end of the list leaves no thing to look at. -/
theorem gives_current (h : Cut ts p (t :: rest)) :
    Gives (ε := ε) ts p current (.ok (t, t :: rest)) := by
  refine ⟨p, h, ?_⟩
  rw [current, h.getElem?]
  rfl

theorem gives_advance (h : Cut ts p (t :: rest)) :
    Gives (ε := ε) ts p advance (.ok ((), rest)) := ⟨p + 1, h.next, rfl⟩

theorem gives_cut {part : List τ} (h : Cut ts p (part ++ rest)) (hq : Cut ts q rest) :
    Gives (ε := ε) ts q (cut p) (.ok (part, rest)) := by
  refine ⟨q, hq, ?_⟩
  rw [cut, h.slice? hq]
  rfl

theorem gives_next?_nil (h : Cut ts p []) : Gives (ε := ε) ts p next? (.ok (none, [])) := by
  rw [next?]
  exact (gives_peek_nil h).bind_ok fun q hq ↦ gives_pure hq none

theorem gives_next?_cons (h : Cut ts p (t :: rest)) :
    Gives (ε := ε) ts p next? (.ok (some t, rest)) := by
  rw [next?]
  exact (gives_peek_cons h).bind_ok fun q hq ↦
    (gives_advance hq).bind_ok fun q hq ↦ gives_pure hq (some t)

theorem gives_count (h : Cut ts p rest) :
    Gives (ε := ε) ts p count (.ok (ts.length, rest)) := ⟨p, h, rfl⟩

theorem gives_turns (h : Cut ts p rest) :
    Gives (ε := ε) ts p turns (.ok (ts.length + 1, rest)) := ⟨p, h, rfl⟩

/-- There are turns enough for what is left of a list. -/
theorem Cut.length_lt (h : Cut ts p rest) : rest.length < ts.length + 1 := by
  have hlength := h.length
  omega

/-- **Both loops** take what a reader takes with `takeWhile` and leave what it leaves. -/
theorem gives_spanPeeked (h : Cut ts p rest) {n : Nat} (hn : rest.length < n) (before : List τ) :
    Gives (ε := ε) ts p (spanPeeked kind n before)
      (.ok (before.reverse ++ rest.takeWhile kind, rest.dropWhile kind)) := by
  induction rest generalizing p n before with
  | nil =>
    obtain _ | n := n
    · exact absurd hn (Nat.not_lt_zero _)
    rw [spanPeeked, List.takeWhile_nil, List.append_nil]
    exact (gives_peek_nil h).bind_ok fun q hq ↦ gives_pure hq before.reverse
  | cons t rest ih =>
    obtain _ | n := n
    · exact absurd hn (Nat.not_lt_zero _)
    rw [spanPeeked]
    refine (gives_peek_cons h).bind_ok fun q hq ↦ ?_
    dsimp only
    rw [List.takeWhile_cons, List.dropWhile_cons]
    by_cases hkind : kind t = true
    · rw [if_pos hkind, if_pos hkind, if_pos hkind]
      refine (gives_advance hq).bind_ok fun q hq ↦ ?_
      have hrest := ih hq (Nat.lt_of_succ_lt_succ hn) (t :: before)
      rwa [List.reverse_cons, List.append_assoc] at hrest
    · rw [if_neg hkind, if_neg hkind, if_neg hkind, List.append_nil]
      exact gives_pure hq before.reverse

theorem gives_span (h : Cut ts p rest) {n : Nat} (hn : rest.length < n) (before : List τ) :
    Gives (ε := ε) ts p (span kind n before)
      (.ok (before.reverse ++ rest.takeWhile kind, rest.dropWhile kind)) := by
  induction rest generalizing p n before with
  | nil =>
    obtain _ | n := n
    · exact absurd hn (Nat.not_lt_zero _)
    rw [span, List.takeWhile_nil, List.append_nil]
    exact (gives_atEnd h).bind_ok fun q hq ↦ gives_pure hq before.reverse
  | cons t rest ih =>
    obtain _ | n := n
    · exact absurd hn (Nat.not_lt_zero _)
    rw [span]
    refine (gives_atEnd h).bind_ok fun q hq ↦ ?_
    refine (gives_current hq).bind_ok fun q hq ↦ ?_
    rw [List.takeWhile_cons, List.dropWhile_cons]
    by_cases hkind : kind t = true
    · rw [if_pos hkind, if_pos hkind, if_pos hkind]
      refine (gives_advance hq).bind_ok fun q hq ↦ ?_
      have hrest := ih hq (Nat.lt_of_succ_lt_succ hn) (t :: before)
      rwa [List.reverse_cons, List.append_assoc] at hrest
    · rw [if_neg hkind, if_neg hkind, if_neg hkind, List.append_nil]
      exact gives_pure hq before.reverse

end Cursor

end RecordStore
