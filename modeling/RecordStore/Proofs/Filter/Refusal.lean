import RecordStore.Proofs.Filter.Check
import RecordStore.Proofs.Filter.Coherence

/-!
# Refused comparisons

Evaluating a comparison looks at what a record holds in a field, and there are six places where it can
end in an error instead of a truth value. None of these depends on the record, as long as it has a value
of the right kind in each field (`Record.Completes`). A comparison is about one field
(`Comparison.About`), or it has lost a name, or both of its sides are literals; the operator and the kind
of the field, or the two literals, then tell whether it is refused and what for
(`Comparison.Refused`). So the records of a type refuse the same comparisons, and for the same causes
(`Filter.refused_alike`).

What is behind it is that a literal is coerced to a value of the field's own kind, and that two values of
one kind that are no lists always have an order.
-/

namespace RecordStore

/-- The record has a value of the right kind in each field of the schema. -/
def Record.Completes (schema : Schema) (record : Record) : Prop :=
  ∀ field ∈ schema.fields, ∃ value, record.value? field.key = some value ∧ value.kind = field.kind

variable {schema : Schema} {record : Record} {c : Comparison} {field : Field} {op : Operator}
  {literal : Operand} {name : String} {cause : FilterError}

/-! ### Values -/

namespace Operator

/-- The operators that ask for an order of the values. -/
def Orders (op : Operator) : Prop := op = less ∨ op = lessEqual ∨ op = greater ∨ op = greaterEqual

/-- An operator fails for want of an order, or because it asks for membership. -/
theorem holds_eq_error_iff {a b : Value} : op.holds a b = .error cause ↔
    op = .includes ∧ cause = .includesWithoutField ∨
      op.Orders ∧ a.compare b = none ∧ cause = .unordered a b op := by
  cases op with
  | equal | notEqual => simp [holds, Orders]
  | includes => simp [holds, Orders, eq_comm]
  | less | lessEqual | greater | greaterEqual =>
    rw [holds]
    cases a.compare b <;> simp [Orders, eq_comm]

end Operator

/-! ### What a comparison is about -/

namespace Comparison

/-- The comparison is about a field: what a record holds there is to stand to the literal as the operator
says. The field is on the left; if it is only on the right, the sides have changed places. -/
inductive About (schema : Schema) : Comparison → Field → Operator → Operand → Prop where
  /-- The left side is the field. -/
  | left {x : Operand} {field : Field} (h : x.field? schema = some field) (op : Operator)
      (literal : Operand) : About schema ⟨x, op, literal⟩ field op literal
  /-- Only the right side is a field. -/
  | right {x : Operand} {field : Field} {literal : Operand} (hliteral : literal.field? schema = none)
      (h : x.field? schema = some field) (op : Operator) :
    About schema ⟨literal, op, x⟩ field op.invert literal

/-- The field is one of the schema's. -/
theorem About.mem (h : c.About schema field op literal) : field ∈ schema.fields := by
  have hmem {x : Operand} (h : x.field? schema = some field) : field ∈ schema.fields := by
    cases x with
    | name s => exact (Schema.field?_eq_some h).1
    | quoted | number | bool | bare => cases h
  cases h with
  | left h | right _ h => exact hmem h

theorem names_eq_nil_iff : c.names = [] ↔ c.left.name? = none ∧ c.right.name? = none := by
  simp [names]

/-- **What a comparison comes to**: a field beside a literal, a lost name, or two literals. -/
theorem about_or_lost_or_literals (schema : Schema) (c : Comparison) :
    (∃ field op literal, c.About schema field op literal) ∨ (∃ name, c.Lost schema name) ∨
      c.names = [] := by
  obtain ⟨left, op, right⟩ := c
  cases hleft : left.field? schema with
  | some field => exact .inl ⟨field, op, right, .left hleft op right⟩
  | none =>
    cases hright : right.field? schema with
    | some field => exact .inl ⟨field, op.invert, left, .right hleft hright op⟩
    | none =>
      refine .inr ?_
      cases hname : Filter.unknownName? schema left right with
      | some name => exact .inl ⟨name, Filter.unknownName?_eq_some_iff.1 hname⟩
      | none =>
        rw [Filter.unknownName?, hleft, hright] at hname
        exact .inr (names_eq_nil_iff.2 (Option.or_eq_none_iff.1 hname))

/-- The cause for which a comparison is refused. No record is asked for it. -/
inductive Refused (schema : Schema) (c : Comparison) : FilterError → Prop where
  /-- A name is that of no field, and there is no field beside it. -/
  | lost {name : String} (h : c.Lost schema name) : Refused schema c (.unknownField name)
  /-- Membership is tested in a literal. -/
  | member (hnames : c.names = []) (hop : c.op = .includes) :
    Refused schema c .includesWithoutField
  /-- Two literals have no order. -/
  | literals (hnames : c.names = []) (hop : c.op.Orders)
      (h : (Value.inferred c.left.text).compare (Value.inferred c.right.text) = none) :
    Refused schema c (.unordered (.inferred c.left.text) (.inferred c.right.text) c.op)
  /-- Membership is tested in a field that holds no list. -/
  | scalar {field : Field} {literal : Operand} (h : c.About schema field .includes literal)
      (hkind : field.kind ≠ .texts) : Refused schema c (.includesOfScalar field.name field.kind)
  /-- A list is compared. -/
  | list {field : Field} {op : Operator} {literal : Operand} (h : c.About schema field op literal)
      (hop : op ≠ .includes) (hkind : field.kind = .texts) : Refused schema c (.listCompared field.name)
  /-- The literal is none of the field's kind. -/
  | badLiteral {field : Field} {op : Operator} {literal : Operand} {cause : CoercionError}
      (h : c.About schema field op literal) (hop : op ≠ .includes) (hkind : field.kind ≠ .texts)
      (hliteral : field.kind.ofLiteral literal.literal = .error cause) :
    Refused schema c (.badLiteral field.name cause)

end Comparison

/-! ### Evaluation -/

namespace Filter

theorem compare_of_about (h : c.About schema field op literal) (record : Record) :
    compare schema record c.left c.op c.right = compareField record field op literal := by
  cases h with
  | left h => rw [compare, h]
  | right hliteral h => rw [compare, hliteral, h]

theorem compare_of_lost (h : c.Lost schema name) (record : Record) :
    compare schema record c.left c.op c.right = .error (.unknownField name) := by
  have hname := unknownName?_eq_some_iff.2 h
  have hfields : (c.left.field? schema).isSome = false ∧ (c.right.field? schema).isSome = false := by
    rw [← Bool.or_eq_false_iff]
    by_contra hsome
    rw [unknownName?, if_pos (Bool.not_eq_false _ ▸ hsome)] at hname
    cases hname
  simp only [Option.isSome_eq_false_iff, Option.isNone_iff_eq_none] at hfields
  rw [compare, hfields.1, hfields.2, hname]

theorem compare_of_literals (h : c.names = []) (record : Record) :
    compare schema record c.left c.op c.right =
      c.op.holds (.inferred c.left.text) (.inferred c.right.text) := by
  obtain ⟨hleft, hright⟩ := Comparison.names_eq_nil_iff.1 h
  have hnone {x : Operand} (h : x.name? = none) : x.field? schema = none := by
    cases x with
    | name s => cases h
    | quoted | number | bool | bare => rfl
  rw [compare, hnone hleft, hnone hright, unknownName?, hnone hleft, hnone hright, hleft, hright]
  rfl

/-- A comparison that is about a field fails by the field and the literal. -/
theorem compare_eq_error_iff_of_about (h : record.Completes schema)
    (habout : c.About schema field op literal) :
    compare schema record c.left c.op c.right = .error cause ↔
      op = .includes ∧ field.kind ≠ .texts ∧ cause = .includesOfScalar field.name field.kind ∨
      op ≠ .includes ∧ field.kind = .texts ∧ cause = .listCompared field.name ∨
      op ≠ .includes ∧ field.kind ≠ .texts ∧ ∃ bad, field.kind.ofLiteral literal.literal = .error bad ∧
        cause = .badLiteral field.name bad := by
  obtain ⟨held, hheld, hheldkind⟩ := h field habout.mem
  rw [compare_of_about habout, compareField, hheld]
  dsimp only
  by_cases hop : op = .includes
  · by_cases hkind : field.kind = .texts <;> simp [hop, hkind, eq_comm]
  by_cases hkind : field.kind = .texts
  · simp [hop, hkind, eq_comm]
  rw [if_neg hop, if_neg hkind]
  cases hliteral : field.kind.ofLiteral literal.literal with
  | error bad => simp [hop, hkind, eq_comm]
  | ok value =>
    -- two values of one kind, so the operator holds or does not
    have hvalue := Kind.kind_of_ofLiteral hliteral
    simp [Operator.holds_eq hop (hheldkind.trans hvalue.symm) (hheldkind ▸ hkind), hop, hkind]

/-- **A comparison fails** for the cause for which it is refused, whatever the record holds. -/
theorem compare_eq_error_iff (h : record.Completes schema) :
    compare schema record c.left c.op c.right = .error cause ↔ c.Refused schema cause := by
  constructor
  · intro hcompare
    obtain ⟨field, op, literal, habout⟩ | ⟨name, hlost⟩ | hnames :=
      c.about_or_lost_or_literals schema
    · rw [compare_eq_error_iff_of_about h habout] at hcompare
      obtain ⟨rfl, hkind, rfl⟩ | ⟨hop, hkind, rfl⟩ | ⟨hop, hkind, bad, hbad, rfl⟩ := hcompare
      · exact .scalar habout hkind
      · exact .list habout hop hkind
      · exact .badLiteral habout hop hkind hbad
    · rw [compare_of_lost hlost] at hcompare
      cases hcompare
      exact .lost hlost
    · rw [compare_of_literals hnames, Operator.holds_eq_error_iff] at hcompare
      obtain ⟨hop, rfl⟩ | ⟨hop, horder, rfl⟩ := hcompare
      · exact .member hnames hop
      · exact .literals hnames hop horder
  · intro hrefused
    cases hrefused with
    | lost hlost => exact compare_of_lost hlost record
    | member hnames hop =>
      rw [compare_of_literals hnames, Operator.holds_eq_error_iff]
      exact .inl ⟨hop, rfl⟩
    | literals hnames hop horder =>
      rw [compare_of_literals hnames, Operator.holds_eq_error_iff]
      exact .inr ⟨hop, horder, rfl⟩
    | scalar habout hkind =>
      exact (compare_eq_error_iff_of_about h habout).2 (.inl ⟨rfl, hkind, rfl⟩)
    | list habout hop hkind =>
      exact (compare_eq_error_iff_of_about h habout).2 (.inr (.inl ⟨hop, hkind, rfl⟩))
    | badLiteral habout hop hkind hbad =>
      exact (compare_eq_error_iff_of_about h habout).2 (.inr (.inr ⟨hop, hkind, _, hbad, rfl⟩))

/-- **The records of a type refuse the same comparisons.** Of two records with a value of the right kind in
each field, one refuses a comparison if and only if the other does, and for the same cause. A comparison
that is about a field, does not ask for membership and has a literal of the field's kind is refused by no
record. -/
theorem refused_alike (schema : Schema) (c : Comparison) :
    (∀ first second : Record, first.Completes schema → second.Completes schema → ∀ cause,
      evaluate schema first (.comparison c.left c.op c.right) = .error cause ↔
        evaluate schema second (.comparison c.left c.op c.right) = .error cause) ∧
    ∀ field op literal value, c.About schema field op literal → op ≠ .includes →
      field.kind.ofLiteral literal.literal = .ok value →
      ∀ record : Record, record.Completes schema →
        ∃ met, evaluate schema record (.comparison c.left c.op c.right) = .ok met := by
  constructor
  · intro first second hfirst hsecond cause
    exact (compare_eq_error_iff hfirst).trans (compare_eq_error_iff hsecond).symm
  · intro field op literal value habout hop hliteral record hrecord
    have hkind : field.kind ≠ .texts := by
      intro hkind
      rw [hkind] at hliteral
      cases hliteral
    cases hcompare : compare schema record c.left c.op c.right with
    | ok met => exact ⟨met, hcompare⟩
    | error cause =>
      rw [compare_eq_error_iff_of_about hrecord habout] at hcompare
      obtain ⟨hincludes, -⟩ | ⟨-, htexts, -⟩ | ⟨-, -, bad, hbad, -⟩ := hcompare
      · exact absurd hincludes hop
      · exact absurd htexts hkind
      · cases hbad.symm.trans hliteral

/-- A reading of a pressure, with the names of those who took it. -/
def pressureRecord (pressure : Number.Double) (names : List String) : Record :=
  ⟨0, [("pressure", .double pressure), ("taken by", .texts names)]⟩

/-- No reading is compared with a text, be it one or a NaN. Both are compared with a number. -/
theorem refused_alike_pressures :
    let schema : Schema := ⟨[⟨"Pressure", .double, true, false⟩, ⟨"Taken by", .texts, false, false⟩]⟩
    let outcome (record : Record) (literal : Operand) : Except FilterError Bool :=
      evaluate schema record (.comparison literal .less (.name "PRESSURE"))
    (∀ cause, outcome (pressureRecord ⟨0x3FF0000000000000⟩ []) (.quoted "high") = .error cause ↔
        outcome (pressureRecord ⟨0x7FF8000000000000⟩ ["Ada"]) (.quoted "high") = .error cause) ∧
      outcome (pressureRecord ⟨0x3FF0000000000000⟩ []) (.quoted "high") =
        .error (.badLiteral "Pressure" (.notDouble "\"high\"")) ∧
      ∃ met, outcome (pressureRecord ⟨0x7FF8000000000000⟩ ["Ada"]) (.number "-1") = .ok met := by
  intro schema outcome
  have hcompletes (pressure : Number.Double) (names : List String) :
      (pressureRecord pressure names).Completes schema := by
    have hpressure : Text.canonical "Pressure" = "pressure" := by decide +kernel
    have htaken : Text.canonical "Taken by" = "taken by" := by decide +kernel
    intro field hfield
    rcases List.mem_cons.1 hfield with rfl | hfield
    · exact ⟨.double pressure, by rw [Field.key, hpressure]; rfl, rfl⟩
    · rw [List.mem_singleton.1 hfield]
      exact ⟨.texts names, by rw [Field.key, htaken]; rfl, rfl⟩
  have habout : Comparison.About schema ⟨.number "-1", .less, .name "PRESSURE"⟩
      ⟨"Pressure", .double, true, false⟩ .greater (.number "-1") :=
    .right rfl (by decide +kernel) .less
  have hliteral : Kind.double.ofLiteral (Operand.number "-1").literal =
      .ok (.double ⟨0xBFF0000000000000⟩) := by decide +kernel
  refine ⟨?_, by decide +kernel, ?_⟩
  · exact (refused_alike schema ⟨.quoted "high", .less, .name "PRESSURE"⟩).1 _ _
      (hcompletes _ _) (hcompletes _ _)
  · exact (refused_alike schema ⟨.number "-1", .less, .name "PRESSURE"⟩).2 _ _ _ _ habout
      (by decide) hliteral _ (hcompletes _ _)

end Filter

end RecordStore
