import RecordStore.Proofs.Filter.Tree

/-!
# The grammar of filters

Which lists of tokens are filters, and which filter each of them is, said without a reader:

* a filter is `conjunction (or conjunction)*`;
* a conjunction is `atom (and atom)*`;
* an atom is a filter in parentheses, or an operand, an operator and an operand.

Both chains group to the left, so their rules have the chain itself on the left (`Derives`), and
parentheses leave nothing behind.

The reader accepts exactly this (`ofTokens_iff_derives`). That it accepts no more is carried by an
invariant: the tokens that have been read are those of the levels that are open, one inside of the
other, and of what has been read of the present atom (`Accounts`). A move keeps it
(`Accounts.moves`), so it holds until the filter ends. That it refuses nothing follows the
derivation (`readsAsFilter_of_derives`). As the reader is a function, a list of tokens is one filter
at most.
-/

namespace RecordStore

namespace Token

/-- The token writes the operator. -/
inductive Writes : Token → Operator → Prop where
  /-- By its symbol. -/
  | symbol (op : Operator) : Writes (.operator op) op
  /-- By a keyword. -/
  | keyword : Writes .includes .includes

theorem operator?_eq_some_iff {t : Token} {op : Operator} :
    t.operator? = some op ↔ t.Writes op := by
  constructor
  · intro h
    cases t <;> cases h
    · exact .keyword
    · exact .symbol _
  · rintro ⟨⟩ <;> rfl

end Token

namespace Filter

/-! ### The grammar -/

mutual

/-- The tokens are a filter: conjunctions with `or` between them. -/
inductive Derives : List Token → Filter → Prop where
  /-- A single conjunction. -/
  | one {ts : List Token} {f : Filter} (h : DerivesConjunction ts f) : Derives ts f
  /-- All conjunctions but the last, and the last. -/
  | or {ls rs : List Token} {left right : Filter} (hleft : Derives ls left)
      (hright : DerivesConjunction rs right) : Derives (ls ++ .or :: rs) (.or left right)

/-- The tokens are a conjunction: atoms with `and` between them. -/
inductive DerivesConjunction : List Token → Filter → Prop where
  /-- A single atom. -/
  | one {ts : List Token} {f : Filter} (h : DerivesAtom ts f) : DerivesConjunction ts f
  /-- All atoms but the last, and the last. -/
  | and {ls rs : List Token} {left right : Filter} (hleft : DerivesConjunction ls left)
      (hright : DerivesAtom rs right) : DerivesConjunction (ls ++ .and :: rs) (.and left right)

/-- The tokens are an atom. -/
inductive DerivesAtom : List Token → Filter → Prop where
  /-- A filter in parentheses. -/
  | parentheses {ts : List Token} {f : Filter} (h : Derives ts f) :
    DerivesAtom (.open :: (ts ++ [.close])) f
  /-- A comparison. -/
  | comparison (left : Operand) {t : Token} {op : Operator} (h : t.Writes op) (right : Operand) :
    DerivesAtom [left.token, t, right.token] (.comparison left op right)

end

variable {ts ls os ps rest : List Token} {f filter : Filter}

/-! ### What the grammar has is read -/

mutual

theorem readsAsFilter_of_derives {ts : List Token} {f : Filter} :
    Derives ts f → ReadsAsFilter ts f
  | .one h => (readsAsConjunction_of_derives h).whole
  | .or hleft hright =>
    (readsAsFilter_of_derives hleft).or (readsAsConjunction_of_derives hright)

theorem readsAsConjunction_of_derives {ts : List Token} {f : Filter} :
    DerivesConjunction ts f → ReadsAsConjunction ts f
  | .one h => (readsAsAtom_of_derives h).conjunction
  | .and hleft hright =>
    (readsAsConjunction_of_derives hleft).and (readsAsAtom_of_derives hright)

theorem readsAsAtom_of_derives {ts : List Token} {f : Filter} :
    DerivesAtom ts f → ReadsAsAtom ts f
  | .parentheses h => (readsAsFilter_of_derives h).atom
  | .comparison left h right =>
    readsAsAtom_comparison left (Token.operator?_eq_some_iff.2 h) right

end

/-- **What the grammar has is read.** -/
theorem ofTokens_of_derives (h : Derives ts f) : ofTokens (ts ++ [.finish]) = .ok f := by
  obtain ⟨level, atom, hclose, hread⟩ := readsAsFilter_of_derives h
  rw [ofTokens, hread, readFrom]
  simp only [hclose]

/-! ### What is read, the grammar has -/

/-- The tokens of a left side that waits, and of the keyword behind it. Where nothing waits there
are none. -/
def Waits (derives : List Token → Filter → Prop) (keyword : Token) (side : Option Filter)
    (ts : List Token) : Prop :=
  match side with
  | none => ts = []
  | some left => ∃ ls, derives ls left ∧ ts = ls ++ [keyword]

/-- The tokens that have been read at a level, but for the present atom. -/
def Level.Accounts (level : Level) (ts : List Token) : Prop :=
  ∃ ds cs, Waits Derives .or level.disjunct ds ∧ Waits DerivesConjunction .and level.conjunct cs ∧
    ts = ds ++ cs

/-- The tokens that have been read at the levels around the present one, and of the parentheses
that opened the levels inside. -/
inductive OuterAccounts : List Level → List Token → Prop where
  /-- There is no level around. -/
  | nil : OuterAccounts [] []
  /-- A level, and those around it. -/
  | cons {level : Level} {outer : List Level} {ls os : List Token} (hlevel : level.Accounts ls)
      (houter : OuterAccounts outer os) : OuterAccounts (level :: outer) (os ++ (ls ++ [.open]))

/-- The tokens that have been read of the present atom. -/
inductive Place.Accounts : Place → List Token → Prop where
  /-- None. -/
  | due : Place.Accounts .due []
  /-- The left side of a comparison. -/
  | operand (x : Operand) : Place.Accounts (.operand x) [x.token]
  /-- The left side and the operator of a comparison. -/
  | operator (x : Operand) {t : Token} {op : Operator} (h : t.Writes op) :
    Place.Accounts (.operator x op) [x.token, t]
  /-- All of them. -/
  | after {ts : List Token} {atom : Filter} (h : DerivesAtom ts atom) :
    Place.Accounts (.after atom) ts

/-- The tokens are those that have been read when the reader has come to a place. -/
def Accounts (place : Place) (level : Level) (outer : List Level) (ts : List Token) : Prop :=
  ∃ os ls ps, OuterAccounts outer os ∧ level.Accounts ls ∧ place.Accounts ps ∧ ts = os ++ (ls ++ ps)

theorem accounts_start : Level.start.Accounts [] := ⟨[], [], rfl, rfl, rfl⟩

variable {place place' : Place} {level level' : Level} {outer outer' : List Level} {t : Token}
  {atom : Filter}

/-- An atom completes the conjunction that waits for it. -/
theorem derives_conjoin {cs : List Token} (hwaits : Waits DerivesConjunction .and level.conjunct cs)
    (hatom : DerivesAtom ps atom) : DerivesConjunction (cs ++ ps) (level.conjoin atom) := by
  obtain ⟨disjunct, conjunct⟩ := level
  cases conjunct with
  | none =>
    obtain rfl : cs = [] := hwaits
    exact .one hatom
  | some left =>
    obtain ⟨ls, hleft, rfl⟩ := hwaits
    rw [List.append_assoc]
    exact .and hleft hatom

/-- An atom completes the level that waits for it. -/
theorem derives_close (hlevel : level.Accounts ls) (hatom : DerivesAtom ps atom) :
    Derives (ls ++ ps) (level.close atom) := by
  obtain ⟨ds, cs, hdisjunct, hconjunct, rfl⟩ := hlevel
  have hconjunction := derives_conjoin hconjunct hatom
  obtain ⟨disjunct, conjunct⟩ := level
  cases disjunct with
  | none =>
    obtain rfl : ds = [] := hdisjunct
    exact .one hconjunction
  | some left =>
    obtain ⟨ls, hleft, rfl⟩ := hdisjunct
    rw [List.append_assoc, List.append_assoc]
    exact .or hleft hconjunction

/-- **A move accounts for its token.** -/
theorem Accounts.moves (h : Accounts place level outer ts)
    (hmoves : Moves t place level outer place' level' outer') :
    Accounts place' level' outer' (ts ++ [t]) := by
  obtain ⟨os, ls, ps, houter, hlevel, hplace, rfl⟩ := h
  cases hmoves with
  | «open» =>
    cases hplace with
    | due => exact ⟨_, [], [], .cons hlevel houter, accounts_start, .due, by simp⟩
  | left x =>
    cases hplace with
    | due => exact ⟨os, ls, _, houter, hlevel, .operand x, by simp⟩
  | operator hop x =>
    cases hplace with
    | operand =>
      have hwrites := Token.operator?_eq_some_iff.1 hop
      exact ⟨os, ls, _, houter, hlevel, .operator x hwrites, by simp⟩
  | right x op y =>
    cases hplace with
    | operator _ hwrites =>
      exact ⟨os, ls, _, houter, hlevel, .after (.comparison x hwrites y), by simp⟩
  | and atom =>
    cases hplace with
    | after hatom =>
      obtain ⟨ds, cs, hdisjunct, hconjunct, rfl⟩ := hlevel
      refine ⟨os, ds ++ (cs ++ ps ++ [.and]), [], houter, ⟨ds, _, hdisjunct, ?_, rfl⟩, .due, by simp⟩
      exact ⟨_, derives_conjoin hconjunct hatom, rfl⟩
  | or atom =>
    cases hplace with
    | after hatom =>
      refine ⟨os, ls ++ ps ++ [.or], [], houter, ⟨_, [], ?_, rfl, by rw [List.append_nil]⟩, .due,
        by simp⟩
      exact ⟨_, derives_close hlevel hatom, rfl⟩
  | close atom level around =>
    cases hplace with
    | after hatom =>
      cases houter with
      | @cons _ _ as os haround houter =>
        refine ⟨os, as, _, houter, haround, .after (.parentheses (derives_close hlevel hatom)), ?_⟩
        simp

/-- **What is read, the grammar has.** -/
theorem derives_of_readFrom {before : List Token} (hbefore : Accounts place level outer before)
    (hrest : .finish ∉ rest) (h : readFrom place level outer (rest ++ [.finish]) = .ok filter) :
    Derives (before ++ rest) filter := by
  induction rest generalizing place level outer before with
  | nil =>
    obtain ⟨-, rfl, atom, rfl, rfl⟩ | ⟨_, _, _, -, hnone⟩ := moves_of_readFrom h
    · obtain ⟨os, ls, ps, houter, hlevel, hplace, rfl⟩ := hbefore
      cases houter with
      | nil =>
        cases hplace with
        | after hatom =>
          rw [List.append_nil, List.nil_append]
          exact derives_close hlevel hatom
    · rw [readFrom] at hnone
      cases hnone
  | cons t rest ih =>
    rw [List.mem_cons, not_or] at hrest
    obtain ⟨rfl, -⟩ | ⟨_, _, _, hmoves, hnext⟩ := moves_of_readFrom h
    · exact absurd rfl hrest.1
    · have hderives := ih (hbefore.moves hmoves) hrest.2 hnext
      rwa [List.append_assoc, List.singleton_append] at hderives

theorem derives_of_ofTokens (hts : .finish ∉ ts) (h : ofTokens (ts ++ [.finish]) = .ok f) :
    Derives ts f := by
  have hstart : Accounts .due .start [] [] := ⟨[], [], [], .nil, accounts_start, .due, rfl⟩
  exact derives_of_readFrom hstart hts h

/-- A filter that is refused has a token that fits nowhere, be it the mark of the end. -/
theorem unexpected_of_readFrom {tokens : List Token} {cause : FilterSyntaxError}
    (h : readFrom place level outer tokens = .error cause) :
    ∃ t ∈ tokens ++ [.finish], cause = .unexpected t := by
  induction tokens generalizing place level outer with
  | nil =>
    cases h
    exact ⟨.finish, List.mem_singleton_self _, rfl⟩
  | cons t rest ih =>
    have hhere (h : Except.error (ε := FilterSyntaxError) (α := Filter) (.unexpected t) =
        .error cause) : ∃ u ∈ t :: rest ++ [.finish], cause = .unexpected u := by
      cases h
      exact ⟨t, List.mem_cons_self, rfl⟩
    have hthere {place : Place} {level : Level} {outer : List Level}
        (h : readFrom place level outer rest = .error cause) :
        ∃ u ∈ t :: rest ++ [.finish], cause = .unexpected u := by
      obtain ⟨u, hu, hcause⟩ := ih h
      exact ⟨u, List.mem_cons_of_mem _ hu, hcause⟩
    rw [readFrom.eq_def] at h
    dsimp only at h
    split at h
    · split at h
      · exact hthere h
      split at h
      · exact hthere h
      · exact hhere h
    · split at h
      · exact hthere h
      · exact hhere h
    · split at h
      · exact hthere h
      · exact hhere h
    · split at h
      · exact hthere h
      · exact hthere h
      · exact hthere h
      · cases h
      · exact hhere h

/-- **The reader accepts exactly the grammar**, and gives each list of tokens the filter that the
grammar gives to it. Any other list is refused, with the token that fits nowhere. So no list has two
filters. -/
theorem ofTokens_iff_derives (ts : List Token) (hts : .finish ∉ ts) :
    (∀ f, ofTokens (ts ++ [.finish]) = .ok f ↔ Derives ts f) ∧
    ((∀ f, ¬ Derives ts f) ↔
      ∃ t ∈ ts ++ [.finish], ofTokens (ts ++ [.finish]) = .error (.unexpected t)) ∧
    ∀ f g, Derives ts f → Derives ts g → f = g := by
  have hiff : ∀ f, ofTokens (ts ++ [.finish]) = .ok f ↔ Derives ts f :=
    fun f ↦ ⟨derives_of_ofTokens hts, ofTokens_of_derives⟩
  refine ⟨hiff, ⟨fun hnone ↦ ?_, fun ⟨t, _, hrefused⟩ f hf ↦ ?_⟩, fun f g hf hg ↦ ?_⟩
  · cases hread : ofTokens (ts ++ [.finish]) with
    | ok f => exact absurd ((hiff f).1 hread) (hnone f)
    | error cause =>
      obtain ⟨t, ht, rfl⟩ := unexpected_of_readFrom hread
      refine ⟨t, ?_, rfl⟩
      -- the end is marked already
      simpa using ht
  · rw [(hiff f).2 hf] at hrefused
    cases hrefused
  · have hsame := (hiff f).2 hf
    rw [(hiff g).2 hg] at hsame
    exact (Except.ok.inj hsame).symm

/-- A chain of both kinds, with parentheses inside of it: the tokens of
`a < 1 or (b = "(" or c include x) and d = true or 2 != e`. -/
def tangledTokens : List Token :=
  [.name "a", .operator .less, .number "1", .or,
    .open, .name "b", .operator .equal, .quoted "(", .or, .name "c", .includes, .name "x", .close,
    .and, .name "d", .operator .equal, .bool true, .or, .number "2", .operator .notEqual, .name "e"]

/-- How the tokens are grouped. -/
def tangledFilter : Filter :=
  .or
    (.or (.comparison (.name "a") .less (.number "1"))
      (.and
        (.or (.comparison (.name "b") .equal (.quoted "("))
          (.comparison (.name "c") .includes (.name "x")))
        (.comparison (.name "d") .equal (.bool true))))
    (.comparison (.number "2") .notEqual (.name "e"))

theorem derives_tangled :
    Token.finish ∉ tangledTokens ∧ Derives tangledTokens tangledFilter ∧
      ∀ f, ¬ Derives (tangledTokens ++ [.close]) f := by
  have hts : Token.finish ∉ tangledTokens := by decide
  have hmore : Token.finish ∉ tangledTokens ++ [.close] := by decide
  refine ⟨hts, ((ofTokens_iff_derives tangledTokens hts).1 _).1 (by decide +kernel), ?_⟩
  exact (ofTokens_iff_derives _ hmore).2.1.2 ⟨.close, by decide, by decide +kernel⟩

end Filter

end RecordStore
