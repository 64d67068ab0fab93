import Mathlib.Data.List.Basic
import RecordStore.Filter.Parser

/-!
# Filters and their tokens

The reader of filters keeps everything that waits for a right side in its state, so nothing is lost
between a token and the next: the operands of a filter are those of its tokens, in order, and the
tokens close every parenthesis that they open (`operands_of_ofTokens`, `nested_of_ofTokens`). Both
follow from what one token does (`Moves`, `moves_of_readFrom`).

In the other direction a filter has tokens of its own, with parentheses only where the grouping asks
for them (`Filter.tokens`), and they are read as the filter (`ofTokens_tokens`). What is read of them
fits in one of three ways, each closer than the one before: as a whole filter, as a conjunction, as
an atom. A filter in parentheses is an atom again.
-/

namespace RecordStore

/-- The token of an operand. -/
def Operand.token : Operand → Token
  | name s => .name s
  | quoted s => .quoted s
  | number s => .number s
  | bool b => .bool b
  | bare word => .bare word

/-- The token of an operator. -/
def Operator.token : Operator → Token
  | includes => .includes
  | op => .operator op

namespace Token

theorem operand?_token (x : Operand) : x.token.operand? = some x := by cases x <;> rfl

theorem operator?_token (op : Operator) : op.token.operator? = some op := by cases op <;> rfl

theorem eq_token_of_operand? {t : Token} {x : Operand} (h : t.operand? = some x) : t = x.token := by
  cases t <;> cases h <;> rfl

/-- How many parentheses are open before a token and behind it. The mark of the end is no part of a
filter. -/
inductive Turns : Token → Nat → Nat → Prop where
  /-- One more is open. -/
  | open (depth : Nat) : Turns .open depth (depth + 1)
  /-- One less is open. -/
  | close (depth : Nat) : Turns .close (depth + 1) depth
  /-- As many are open. -/
  | stay {t : Token} (h : t ≠ .open ∧ t ≠ .close ∧ t ≠ .finish) (depth : Nat) : Turns t depth depth

/-- The tokens up to the mark of the end, before which `depth` parentheses are open, close all of
them and all that they open themselves. -/
inductive Nested : Nat → List Token → Prop where
  /-- Nothing is open any more. -/
  | finish : Nested 0 [.finish]
  /-- A token, and those behind it. -/
  | cons {t : Token} {depth next : Nat} {rest : List Token} (hturn : Turns t depth next)
      (hrest : Nested next rest) : Nested depth (t :: rest)

theorem turns_of_operand? {t : Token} {x : Operand} (h : t.operand? = some x) (depth : Nat) :
    Turns t depth depth := by
  refine .stay ?_ depth
  cases t <;> cases h <;> simp

theorem turns_of_operator? {t : Token} {op : Operator} (h : t.operator? = some op) (depth : Nat) :
    Turns t depth depth := by
  refine .stay ?_ depth
  cases t <;> cases h <;> simp

theorem operand?_of_operator? {t : Token} {op : Operator} (h : t.operator? = some op) :
    t.operand? = none := by
  cases t <;> cases h <;> rfl

end Token

namespace Filter

open Token (Turns Nested)

/-- The operands of the comparisons, from left to right. -/
def operands : Filter → List Operand
  | comparison left _ right => [left, right]
  | and left right | or left right => left.operands ++ right.operands

/-! ### What one token does -/

/-- The operands of an optional filter. -/
def waitingOperands (side : Option Filter) : List Operand := (side.map operands).getD []

/-- The operands that wait at a level. -/
def Level.operands (level : Level) : List Operand :=
  waitingOperands level.disjunct ++ waitingOperands level.conjunct

/-- The operands that have been read of an atom. -/
def Place.operands : Place → List Operand
  | due => []
  | operand left | operator left _ => [left]
  | after atom => atom.operands

/-- All operands that have been read, from left to right. -/
def readOperands (place : Place) (level : Level) (outer : List Level) : List Operand :=
  outer.reverse.flatMap Level.operands ++ level.operands ++ place.operands

theorem operands_conjoin (level : Level) (atom : Filter) :
    (level.conjoin atom).operands = waitingOperands level.conjunct ++ atom.operands := by
  unfold Level.conjoin
  cases level.conjunct <;> rfl

theorem operands_close (level : Level) (atom : Filter) :
    (level.close atom).operands = level.operands ++ atom.operands := by
  unfold Level.close Level.operands
  cases level.disjunct with
  | none => exact operands_conjoin level atom
  | some left =>
    show left.operands ++ (level.conjoin atom).operands = _
    rw [operands_conjoin, ← List.append_assoc]
    rfl

variable {place : Place} {level : Level} {outer : List Level} {t : Token} {rest : List Token}
  {filter : Filter}

/-- What a token does to a reader that goes on behind it. -/
inductive Moves : Token → Place → Level → List Level → Place → Level → List Level → Prop where
  /-- A level begins inside of the present one. -/
  | open (level : Level) (outer : List Level) :
    Moves .open .due level outer .due .start (level :: outer)
  /-- The left side of a comparison. -/
  | left (x : Operand) (level : Level) (outer : List Level) :
    Moves x.token .due level outer (.operand x) level outer
  /-- The operator of a comparison. -/
  | operator {t : Token} {op : Operator} (h : t.operator? = some op) (x : Operand) (level : Level)
      (outer : List Level) :
    Moves t (.operand x) level outer (.operator x op) level outer
  /-- The right side of a comparison, which is an atom then. -/
  | right (x : Operand) (op : Operator) (y : Operand) (level : Level) (outer : List Level) :
    Moves y.token (.operator x op) level outer (.after (.comparison x op y)) level outer
  /-- A conjunct is complete, and waits for the next. -/
  | and (atom : Filter) (level : Level) (outer : List Level) :
    Moves .and (.after atom) level outer .due ⟨level.disjunct, some (level.conjoin atom)⟩ outer
  /-- A disjunct is complete, and waits for the next. -/
  | or (atom : Filter) (level : Level) (outer : List Level) :
    Moves .or (.after atom) level outer .due ⟨some (level.close atom), none⟩ outer
  /-- The level is complete, and an atom of the one around it. -/
  | close (atom : Filter) (level around : Level) (outer : List Level) :
    Moves .close (.after atom) level (around :: outer) (.after (level.close atom)) around outer

/-- **What one token does.** Either it ends the filter, or the reader moves on. -/
theorem moves_of_readFrom (h : readFrom place level outer (t :: rest) = .ok filter) :
    (t = .finish ∧ outer = [] ∧ ∃ atom, place = .after atom ∧ filter = level.close atom) ∨
    ∃ place' level' outer', Moves t place level outer place' level' outer' ∧
      readFrom place' level' outer' rest = .ok filter := by
  cases place with
  | due =>
    rw [readFrom] at h
    split at h
    · next hopen => exact .inr ⟨_, _, _, hopen ▸ .open level outer, h⟩
    split at h
    · next left hleft => exact .inr ⟨_, _, _, Token.eq_token_of_operand? hleft ▸ .left left _ _, h⟩
    · cases h
  | operand left =>
    rw [readFrom] at h
    split at h
    · next op hop => exact .inr ⟨_, _, _, .operator hop left _ _, h⟩
    · cases h
  | operator left op =>
    rw [readFrom] at h
    split at h
    · next right hright =>
      exact .inr ⟨_, _, _, Token.eq_token_of_operand? hright ▸ .right left op right _ _, h⟩
    · cases h
  | after atom =>
    rw [readFrom.eq_def] at h
    dsimp only at h
    split at h
    · exact .inr ⟨_, _, _, .and atom _ _, h⟩
    · exact .inr ⟨_, _, _, .or atom _ _, h⟩
    · exact .inr ⟨_, _, _, .close atom _ _ _, h⟩
    · cases h
      exact .inl ⟨rfl, rfl, atom, rfl, rfl⟩
    · cases h

section

variable {place' : Place} {level' : Level} {outer' : List Level}

/-- A move reads the token's operand and no other. -/
theorem Moves.readOperands (h : Moves t place level outer place' level' outer') :
    readOperands place' level' outer' = readOperands place level outer ++ t.operand?.toList := by
  cases h with
  | operator hop => simp [Filter.readOperands, Place.operands, Token.operand?_of_operator? hop]
  | left | right =>
    simp [Filter.readOperands, Place.operands, Filter.operands, Token.operand?_token]
  | «open» | and | or | close =>
    simp [Filter.readOperands, Level.operands, Place.operands, Level.start, waitingOperands,
      operands_conjoin, operands_close, Token.operand?]

/-- A move opens or closes the token's parenthesis. -/
theorem Moves.turns (h : Moves t place level outer place' level' outer') :
    Turns t outer.length outer'.length := by
  cases h with
  | «open» => exact .open _
  | close => exact .close _
  | left x | right _ _ x => exact Token.turns_of_operand? (Token.operand?_token x) _
  | operator hop => exact Token.turns_of_operator? hop _
  | and | or => exact .stay (by decide) _

end

/-! ### What all tokens do -/

theorem operands_of_readFrom (hrest : .finish ∉ rest)
    (h : readFrom place level outer (rest ++ [.finish]) = .ok filter) :
    filter.operands = readOperands place level outer ++ rest.filterMap Token.operand? := by
  induction rest generalizing place level outer with
  | nil =>
    obtain ⟨-, rfl, atom, rfl, rfl⟩ | ⟨_, _, _, -, hnone⟩ := moves_of_readFrom h
    · simp [readOperands, Place.operands, operands_close]
    · rw [readFrom] at hnone
      cases hnone
  | cons t rest ih =>
    rw [List.mem_cons, not_or] at hrest
    obtain ⟨rfl, -⟩ | ⟨_, _, _, hmoves, hnext⟩ := moves_of_readFrom h
    · exact absurd rfl hrest.1
    · rw [ih hrest.2 hnext, hmoves.readOperands, List.append_assoc]
      cases hoperand : t.operand? <;> simp [hoperand]

theorem nested_of_readFrom (hrest : .finish ∉ rest)
    (h : readFrom place level outer (rest ++ [.finish]) = .ok filter) :
    Nested outer.length (rest ++ [.finish]) := by
  induction rest generalizing place level outer with
  | nil =>
    obtain ⟨-, rfl, -⟩ | ⟨_, _, _, -, hnone⟩ := moves_of_readFrom h
    · exact .finish
    · rw [readFrom] at hnone
      cases hnone
  | cons t rest ih =>
    rw [List.mem_cons, not_or] at hrest
    obtain ⟨rfl, -⟩ | ⟨_, _, _, hmoves, hnext⟩ := moves_of_readFrom h
    · exact absurd rfl hrest.1
    · exact .cons hmoves.turns (ih hrest.2 hnext)

/-- **No operand is lost**, and none is added. -/
theorem operands_of_ofTokens (hrest : .finish ∉ rest)
    (h : ofTokens (rest ++ [.finish]) = .ok filter) :
    filter.operands = rest.filterMap Token.operand? :=
  operands_of_readFrom hrest h

/-- **Parentheses come in pairs.** -/
theorem nested_of_ofTokens (hrest : .finish ∉ rest)
    (h : ofTokens (rest ++ [.finish]) = .ok filter) : Nested 0 (rest ++ [.finish]) :=
  nested_of_readFrom hrest h

/-! ### The tokens of a filter -/

/-- Is the filter a single comparison? -/
def isComparison : Filter → Bool
  | comparison .. => true
  | and .. | or .. => false

/-- Is one of two filters to hold? -/
def isOr : Filter → Bool
  | or .. => true
  | comparison .. | and .. => false

/-- Tokens in parentheses, where they are needed. -/
def parenthesized (needed : Bool) (tokens : List Token) : List Token :=
  if needed then .open :: (tokens ++ [.close]) else tokens

/-- The tokens of a filter. Parentheses stand only around what would be grouped otherwise: an `or`
in an `and`, and on the right a filter of the same form as the one around it. -/
def tokens : Filter → List Token
  | comparison left op right => [left.token, op.token, right.token]
  | and left right =>
    parenthesized left.isOr left.tokens ++ .and :: parenthesized (!right.isComparison) right.tokens
  | or left right => left.tokens ++ .or :: parenthesized right.isOr right.tokens

/-- The tokens are read as the filter, wherever an atom is due. -/
def ReadsAsAtom (tokens : List Token) (filter : Filter) : Prop :=
  ∀ level outer rest,
    readFrom .due level outer (tokens ++ rest) = readFrom (.after filter) level outer rest

/-- The tokens are read as the filter, wherever a conjunction begins. -/
def ReadsAsConjunction (tokens : List Token) (filter : Filter) : Prop :=
  ∃ conjunct atom, (∀ disjunct, Level.conjoin ⟨disjunct, conjunct⟩ atom = filter) ∧
    ∀ disjunct outer rest, readFrom .due ⟨disjunct, none⟩ outer (tokens ++ rest) =
      readFrom (.after atom) ⟨disjunct, conjunct⟩ outer rest

/-- The tokens are read as the filter, wherever a level begins. -/
def ReadsAsFilter (tokens : List Token) (filter : Filter) : Prop :=
  ∃ level atom, Level.close level atom = filter ∧
    ∀ outer rest, readFrom .due .start outer (tokens ++ rest) =
      readFrom (.after atom) level outer rest

variable {left right : Filter} {ls rs : List Token}

theorem readsAsAtom_comparison (left : Operand) {t : Token} {op : Operator}
    (h : t.operator? = some op) (right : Operand) :
    ReadsAsAtom [left.token, t, right.token] (.comparison left op right) := by
  intro level outer rest
  have hopen : left.token ≠ .open := by cases left <;> simp [Operand.token]
  show readFrom .due level outer (left.token :: t :: right.token :: rest) = _
  simp only [readFrom, if_neg hopen, Token.operand?_token, h]

theorem ReadsAsAtom.conjunction (h : ReadsAsAtom ls left) : ReadsAsConjunction ls left :=
  ⟨none, left, fun _ ↦ rfl, fun disjunct ↦ h ⟨disjunct, none⟩⟩

theorem ReadsAsConjunction.whole (h : ReadsAsConjunction ls left) : ReadsAsFilter ls left := by
  obtain ⟨conjunct, atom, hconjoin, hread⟩ := h
  exact ⟨⟨none, conjunct⟩, atom, hconjoin none, hread none⟩

/-- A filter in parentheses is an atom. -/
theorem ReadsAsFilter.atom (h : ReadsAsFilter ls left) :
    ReadsAsAtom (.open :: (ls ++ [.close])) left := by
  obtain ⟨level, atom, hclose, hread⟩ := h
  intro around outer rest
  rw [List.cons_append, List.append_assoc, readFrom]
  simp only [if_pos, hread]
  rw [List.singleton_append, readFrom]
  simp only [hclose]

theorem ReadsAsConjunction.and (hleft : ReadsAsConjunction ls left) (hright : ReadsAsAtom rs right) :
    ReadsAsConjunction (ls ++ .and :: rs) (.and left right) := by
  obtain ⟨conjunct, atom, hconjoin, hread⟩ := hleft
  refine ⟨some left, right, fun _ ↦ rfl, fun disjunct outer rest ↦ ?_⟩
  rw [List.append_assoc, hread, List.cons_append, readFrom]
  simp only [hconjoin]
  exact hright _ _ _

theorem ReadsAsFilter.or (hleft : ReadsAsFilter ls left) (hright : ReadsAsConjunction rs right) :
    ReadsAsFilter (ls ++ .or :: rs) (.or left right) := by
  obtain ⟨level, atom, hclose, hread⟩ := hleft
  obtain ⟨conjunct, last, hconjoin, hreadRight⟩ := hright
  refine ⟨⟨some left, conjunct⟩, last, congrArg (Filter.or left) (hconjoin (some left)),
    fun outer rest ↦ ?_⟩
  rw [List.append_assoc, hread, List.cons_append, readFrom]
  simp only [hclose]
  exact hreadRight _ _ _

/-- A filter is read as itself, and without parentheses as a conjunction if it is no `or`. -/
theorem reads_tokens (filter : Filter) :
    (filter.isOr = false → ReadsAsConjunction filter.tokens filter) ∧
      ReadsAsFilter filter.tokens filter := by
  induction filter with
  | comparison left op right =>
    have hatom := readsAsAtom_comparison left (Token.operator?_token op) right
    exact ⟨fun _ ↦ hatom.conjunction, hatom.conjunction.whole⟩
  | and left right ihleft ihright =>
    have hleft : ReadsAsConjunction (parenthesized left.isOr left.tokens) left := by
      cases hor : left.isOr with
      | true => exact ihleft.2.atom.conjunction
      | false => exact ihleft.1 hor
    have hright : ReadsAsAtom (parenthesized (!right.isComparison) right.tokens) right := by
      cases right with
      | comparison x op y => exact readsAsAtom_comparison x (Token.operator?_token op) y
      | and | or => exact ihright.2.atom
    exact ⟨fun _ ↦ hleft.and hright, (hleft.and hright).whole⟩
  | or left right ihleft ihright =>
    have hright : ReadsAsConjunction (parenthesized right.isOr right.tokens) right := by
      cases hor : right.isOr with
      | true => exact ihright.2.atom.conjunction
      | false => exact ihright.1 hor
    exact ⟨fun hor ↦ absurd hor (by simp [isOr]), ihleft.2.or hright⟩

/-- **A filter is read off its tokens.** -/
theorem ofTokens_tokens (filter : Filter) : ofTokens (filter.tokens ++ [.finish]) = .ok filter := by
  obtain ⟨level, atom, hclose, hread⟩ := (reads_tokens filter).2
  rw [ofTokens, hread, readFrom]
  simp only [hclose]

end Filter

end RecordStore
