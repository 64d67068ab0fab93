import RecordStore.Proofs.Filter.Comparison
import RecordStore.Proofs.Table.Numbering

/-!
# Comparisons of one field with one literal

Whether two values are equal is asked of the equality that unique fields go by, and which of them is
less of an order that is computed apart from it. The six comparisons of a field with a literal say one
thing all the same (`coherent`): there is a literal of the field's kind or not, whatever the operator
and the record are, and if there is one, then each record is below it, equal to it or above it, and the
other three operators deny one of these.

The records of a table are also in one order for all literals: what is above a literal has nothing but
values above the literal after it. This is transitivity (`Value.Precedes.trans`) together with the
order not telling values apart that count as one (`Value.precedes_congr_right`), as the two zeros do.
-/

namespace RecordStore

open RecordStore.Number

theorem Number.Double.foldZero_foldZero (d : Double) : d.foldZero.foldZero = d.foldZero := by
  unfold Double.foldZero
  by_cases h : d = negativeZero
  · rw [if_pos h]
    decide
  · rw [if_neg h, if_neg h]

/-- A literal is coerced to a value of the kind. -/
theorem Kind.kind_of_ofLiteral {kind : Kind} {literal : String} {value : Value}
    (h : kind.ofLiteral literal = .ok value) : value.kind = kind := by
  unfold ofLiteral at h
  cases kind with
  | time =>
    dsimp only at h
    rw [timeOfText] at h
    split at h <;> cases h
    rfl
  | texts => cases h
  | text | int | double | bool =>
    dsimp only at h
    split at h <;> cases h
    rfl

/-! ### The order of values -/

namespace Value

variable {a b c : Value}

theorem Precedes.trans (hab : a.Precedes b) (hbc : b.Precedes c) : a.Precedes c := by
  cases a <;> cases b <;> first | exact False.elim hab | skip
  all_goals cases c <;> first | exact False.elim hbc | skip
  case text.text.text a b c => exact String.lt_trans hab hbc
  case int.int.int a b c => exact Int.lt_trans hab hbc
  case double.double.double a b c => exact Int.lt_trans hab hbc
  case bool.bool.bool a b c => exact ⟨hab.1, hbc.2⟩
  case time.time.time a b c =>
    exact Time.Moment.rank_lt_iff.1
      (Int.lt_trans (Time.Moment.rank_lt_iff.2 hab) (Time.Moment.rank_lt_iff.2 hbc))

/-- Of two zeros, the order sees one. -/
theorem precedes_folded : a.folded.Precedes b.folded ↔ a.Precedes b := by
  cases a <;> cases b <;> try exact Iff.rfl
  case double.double a b =>
    rw [folded, folded, Precedes, Precedes, Double.foldZero_foldZero, Double.foldZero_foldZero]

/-- Values that count as one come after the same values. -/
theorem precedes_congr_right (h : a.same b = true) : c.Precedes a ↔ c.Precedes b := by
  rw [← precedes_folded, same_iff.1 h, precedes_folded]

/-- Values that count as one come before the same values. -/
theorem precedes_congr_left (h : a.same b = true) : a.Precedes c ↔ b.Precedes c := by
  rw [← precedes_folded, same_iff.1 h, precedes_folded]

end Value

namespace Operator

variable {a b c : Value}

/-- What comes after a value comes after all that is at most as great. -/
theorem relates_less_of_lessEqual (hab : less.Relates a b) (hbc : lessEqual.Relates b c) :
    less.Relates a c := by
  rcases hbc with hbc | hbc
  · exact hab.trans hbc
  · exact (Value.precedes_congr_right hbc).1 hab

theorem relates_lessEqual_trans (hab : lessEqual.Relates a b) (hbc : lessEqual.Relates b c) :
    lessEqual.Relates a c := by
  rcases hab with hab | hab
  · exact .inl (relates_less_of_lessEqual hab hbc)
  rcases hbc with hbc | hbc
  · exact .inl ((Value.precedes_congr_left hab).2 hbc)
  · exact .inr (Value.same_trans hab hbc)

/-- What is above a value stays above it when it becomes greater. -/
theorem relates_mono {op : Operator} (hop : op = .greater ∨ op = .greaterEqual)
    (hab : lessEqual.Relates a b) (h : op.Relates a c) : op.Relates b c := by
  rcases hop with rfl | rfl
  · exact relates_less_of_lessEqual h hab
  · have hop : greaterEqual ≠ .includes := by decide
    rw [← relates_invert hop] at h ⊢
    exact relates_lessEqual_trans h hab

/-- Does the operator hold of two values in this order? -/
def admits (op : Operator) (order : Ordering) : Bool :=
  match op with
  | equal => order == .eq
  | notEqual => order != .eq
  | less => order == .lt
  | lessEqual => order != .gt
  | greater => order == .gt
  | greaterEqual => order != .lt
  | includes => false

/-- **All operators go by one order.** -/
theorem exists_order_admits (hkind : a.kind = b.kind) (hscalar : a.kind ≠ .texts) :
    ∃ order, a.compare b = some order ∧
      ∀ op : Operator, op ≠ .includes → decide (op.Relates a b) = op.admits order := by
  obtain ⟨order, horder, hlt, heq, hgt⟩ := Value.exists_order hkind hscalar
  refine ⟨order, horder, fun op hop ↦ Bool.eq_iff_iff.2 (decide_eq_true_iff.trans ?_)⟩
  cases op with
  | equal => rw [Relates, ← heq, admits, beq_iff_eq]
  | notEqual => rw [Relates, ← Bool.not_eq_true, ← heq, admits, bne_iff_ne]
  | less => rw [Relates, ← hlt, admits, beq_iff_eq]
  | lessEqual =>
    rw [Relates, ← hlt, ← heq]
    cases order <;> decide
  | greater => rw [Relates, ← hgt, admits, beq_iff_eq]
  | greaterEqual =>
    rw [Relates, ← hgt, ← heq]
    cases order <;> decide
  | includes => exact absurd rfl hop

/-- Of less, equal and greater an order admits one, and the other operators deny these. -/
theorem exists_outcomes {order : Ordering} {outcome : Operator → Except FilterError Bool}
    (h : ∀ op, op ≠ .includes → outcome op = .ok (op.admits order)) :
    ∃ less equal greater : Bool, [less, equal, greater].count true = 1 ∧
      outcome .less = .ok less ∧ outcome .equal = .ok equal ∧ outcome .greater = .ok greater ∧
      outcome .notEqual = .ok !equal ∧ outcome .lessEqual = .ok !greater ∧
      outcome .greaterEqual = .ok !less := by
  refine ⟨less.admits order, equal.admits order, greater.admits order, ?_, h _ (by decide),
    h _ (by decide), h _ (by decide), h _ (by decide), h _ (by decide), h _ (by decide)⟩
  cases order <;> rfl

end Operator

/-! ### A field and a literal -/

namespace Filter

variable {schema : Schema} {record : Record} {field : Field} {name : String} {operand : Operand}

/-- A comparison with what is no literal of the field's kind is refused, whatever it asks for. -/
theorem evaluate_of_badLiteral (hfield : schema.field? name = some field) (hkind : field.kind ≠ .texts)
    {held : Value} (hheld : record.value? field.key = some held) {cause : CoercionError}
    (hliteral : field.kind.ofLiteral operand.literal = .error cause) {op : Operator}
    (hop : op ≠ .includes) :
    evaluate schema record (.comparison (.name name) op operand) =
      .error (.badLiteral field.name cause) := by
  rw [evaluate, compare, Operand.field?, hfield]
  dsimp only
  rw [compareField, hheld]
  dsimp only
  rw [if_neg hop, if_neg hkind, hliteral]

end Filter

namespace Table

variable {table : Table} {field : Field} {name : String}

/-- **The six comparisons of a field with a literal agree.** Let the table be one that calls lead to,
and the field none of lists. Either all six are refused for all records, with one error, or each record
is below the literal, equal to it or above it, and the other three comparisons deny one of these. Then
what is above the literal stays so as the value of the field becomes greater. The literal may be any
operand: beside a field, even the name of another field is read as a literal. -/
theorem coherent (h : table.Reachable) (hfield : table.schema.field? name = some field)
    (hkind : field.kind ≠ .texts) (literal : Operand) :
    let outcome (op : Operator) (record : Record) : Except FilterError Bool :=
      Filter.evaluate table.schema record (.comparison (.name name) op literal)
    (∃ cause, ∀ op, op ≠ .includes → ∀ record ∈ table.records, outcome op record = .error cause) ∨
    (∀ record ∈ table.records, ∃ less equal greater : Bool,
      [less, equal, greater].count true = 1 ∧
      outcome .less record = .ok less ∧ outcome .equal record = .ok equal ∧
      outcome .greater record = .ok greater ∧ outcome .notEqual record = .ok !equal ∧
      outcome .lessEqual record = .ok !greater ∧ outcome .greaterEqual record = .ok !less) ∧
    ∀ first ∈ table.records, ∀ second ∈ table.records, ∀ x y order,
      first.value? field.key = some x → second.value? field.key = some y →
      x.compare y = some order → order ≠ .gt →
      ∀ op, op = .greater ∨ op = .greaterEqual → outcome op first = .ok true →
        outcome op second = .ok true := by
  intro outcome
  have hmem := (Schema.field?_eq_some hfield).1
  cases hliteral : field.kind.ofLiteral literal.literal with
  | error cause =>
    refine .inl ⟨.badLiteral field.name cause, fun op hop record hrecord ↦ ?_⟩
    obtain ⟨held, hheld, -⟩ := (h.sound.fits record hrecord).exists_value hmem
    exact Filter.evaluate_of_badLiteral hfield hkind hheld hliteral hop
  | ok value =>
    have hvalue := Kind.kind_of_ofLiteral hliteral
    have houtcome (record : Record) (hrecord : record ∈ table.records) (held : Value)
        (hheld : record.value? field.key = some held) (op : Operator) (hop : op ≠ .includes) :
        outcome op record = .ok (decide (op.Relates held value)) :=
      Filter.evaluate_relates hfield hop hkind hheld
        ((h.sound.fits record hrecord).kind field hmem held hheld) hliteral hvalue
    refine .inr ⟨fun record hrecord ↦ ?_, ?_⟩
    · obtain ⟨held, hheld, hheldkind⟩ := (h.sound.fits record hrecord).exists_value hmem
      obtain ⟨order, -, hadmits⟩ := Operator.exists_order_admits
        (hheldkind.trans hvalue.symm) (hheldkind ▸ hkind)
      refine @Operator.exists_outcomes order (outcome · record) fun op hop ↦ ?_
      show outcome op record = _
      rw [houtcome record hrecord held hheld op hop, hadmits op hop]
    · intro first hfirst second hsecond x y order hx hy horder hle op hop hmet
      have hinclude : op ≠ .includes := by rcases hop with rfl | rfl <;> decide
      have hxkind := (h.sound.fits first hfirst).kind field hmem x hx
      have hykind := (h.sound.fits second hsecond).kind field hmem y hy
      obtain ⟨_, horder', hadmits⟩ := Operator.exists_order_admits
        (hxkind.trans hykind.symm) (hxkind ▸ hkind)
      cases horder.symm.trans horder'
      have hxy : Operator.lessEqual.Relates x y :=
        of_decide_eq_true ((hadmits _ (by decide)).trans (bne_iff_ne.2 hle))
      rw [houtcome first hfirst x hx op hinclude, Except.ok.injEq, decide_eq_true_iff] at hmet
      rw [houtcome second hsecond y hy op hinclude, Except.ok.injEq, decide_eq_true_iff]
      exact Operator.relates_mono hop hxy hmet

/-- Levels that are a negative zero, a NaN and a NaN with its sign set. -/
def levels : Table :=
  afterCalls (.empty "Reading") [.addField ⟨"Level", .double, false, false⟩,
    .insert [("level", .double .negativeZero)], .insert [("level", .double ⟨0x7FF8000000000001⟩)],
    .insert [("level", .double ⟨0xFFF8000000000000⟩)]]

/-- The negative zero is at least zero, and hence so is the NaN that comes after it. The other NaN is
below zero, so it is not equal to it. -/
theorem coherent_levels :
    let record (id : Nat) (level : Double) : Record := ⟨id, [("level", .double level)]⟩
    let outcome (op : Operator) (record : Record) : Except FilterError Bool :=
      Filter.evaluate levels.schema record (.comparison (.name "LEVEL") op (.number "0.0"))
    outcome .greaterEqual (record 0 .negativeZero) = .ok true ∧
      outcome .greaterEqual (record 1 ⟨0x7FF8000000000001⟩) = .ok true ∧
      outcome .less (record 2 ⟨0xFFF8000000000000⟩) = .ok true ∧
      outcome .equal (record 2 ⟨0xFFF8000000000000⟩) = .ok false := by
  intro record outcome
  have hreachable : levels.Reachable := ⟨_, _, rfl⟩
  have hzero : outcome .greaterEqual (record 0 .negativeZero) = .ok true := by decide +kernel
  have hbelow : outcome .less (record 2 ⟨0xFFF8000000000000⟩) = .ok true := by decide +kernel
  obtain ⟨cause, hrefused⟩ | ⟨hagree, hmono⟩ := @coherent levels ⟨"Level", .double, false, false⟩
    "LEVEL" hreachable (by decide +kernel) (by decide) (.number "0.0")
  · cases hzero.symm.trans (hrefused .greaterEqual (by decide) _ (by decide +kernel))
  refine ⟨hzero, ?_, hbelow, ?_⟩
  · exact hmono (record 0 .negativeZero) (by decide +kernel) (record 1 ⟨0x7FF8000000000001⟩)
      (by decide +kernel) (.double .negativeZero) (.double ⟨0x7FF8000000000001⟩) .lt
      (by decide +kernel) (by decide +kernel) (by decide +kernel) (by decide) _ (.inr rfl) hzero
  · obtain ⟨less, equal, greater, hone, hless, hequal, -⟩ :=
      hagree (record 2 ⟨0xFFF8000000000000⟩) (by decide +kernel)
    cases hbelow.symm.trans hless
    cases equal with
    | false => exact hequal
    | true => cases greater <;> cases hone

end Table

end RecordStore
