import RecordStore.Proofs.Filter.Coherence

/-!
# Comparisons with their sides exchanged

A comparison says the same when its sides change places and its operator is inverted
(`evaluate_swapped`), as long as not both sides name a field: then the left side is the field, and the
name on the right is read as a literal. Where one side names a field, the two comparisons come to the
same one by the evaluation itself. Where none does, two values are compared that the operands look
like, of any two kinds. That the order of such values is the other one from the other side
(`Value.compare_swap`) includes integers beside doubles.

In particular a literal in front of a field is compared as it is written, with the literal on the left.
-/

namespace RecordStore

open RecordStore.Number

/-! ### Values of any kinds -/

namespace Value

/-- **The order of two values, seen from the other side.** -/
theorem compare_swap (a b : Value) : b.compare a = (a.compare b).map Ordering.swap := by
  have hint (m n : Int) : Ord.compare n m = (Ord.compare m n).swap := (Int.compare_swap m n).symm
  cases a <;> cases b <;> try rfl
  case text.text a b => exact congrArg some Std.OrientedOrd.eq_swap
  case int.int a b => exact congrArg some (hint _ _)
  case int.double a b => exact congrArg some (hint _ _)
  case double.int a b => exact congrArg some (hint _ _)
  case double.double a b => exact congrArg some (hint _ _)
  case bool.bool a b => exact congrArg some Std.OrientedOrd.eq_swap
  case time.time a b => exact congrArg some (hint _ _)

theorem equals_comm (a b : Value) : a.equals b = b.equals a := by
  unfold equals
  by_cases hkind : a.kind = b.kind
  · rw [if_pos hkind, if_pos hkind.symm]
    exact same_comm a b
  · rw [if_neg hkind, if_neg (Ne.symm hkind), compare_swap a b]
    rcases a.compare b with _ | _ | _ | _ <;> rfl

end Value

namespace Operator

/-- **An operator and its inverse** hold of the same values, in one order and in the other, and have no
meaning for the same values. The errors differ in what is named first. -/
theorem toOption_holds_invert (op : Operator) (a b : Value) :
    (op.invert.holds b a).toOption = (op.holds a b).toOption := by
  cases op with
  | equal | notEqual => simp only [invert, holds, Value.equals_comm b a]
  | includes => rfl
  | less | lessEqual | greater | greaterEqual =>
    simp only [invert, holds, Value.compare_swap a b]
    rcases a.compare b with _ | _ | _ | _ <;> rfl

end Operator

/-! ### Comparisons -/

namespace Filter

variable {schema : Schema} {record : Record} {left right : Operand} {field : Field}

theorem isSome_unknownName?_comm (schema : Schema) (left right : Operand) :
    (unknownName? schema right left).isSome = (unknownName? schema left right).isSome := by
  unfold unknownName?
  rw [Bool.or_comm]
  split
  · rfl
  · cases left.name? <;> cases right.name? <;> rfl

/-- A comparison with the field on the right is the one with its sides exchanged. -/
theorem evaluate_of_field_right (record : Record) (hleft : left.field? schema = none)
    (hright : right.field? schema = some field) (op : Operator) :
    evaluate schema record (.comparison left op right) =
      evaluate schema record (.comparison right op.invert left) := by
  rw [evaluate, evaluate, compare, compare, hleft, hright]

/-- Without a field, values are compared, or both comparisons lack a field for a name. -/
theorem toOption_evaluate_of_no_field (record : Record) (hleft : left.field? schema = none)
    (hright : right.field? schema = none) (op : Operator) :
    (evaluate schema record (.comparison right op.invert left)).toOption =
      (evaluate schema record (.comparison left op right)).toOption := by
  have hunknown := isSome_unknownName?_comm schema left right
  rw [evaluate, evaluate, compare, compare, hleft, hright]
  dsimp only
  cases hname : unknownName? schema left right with
  | none =>
    rw [hname, Option.isSome_none, Option.isSome_eq_false_iff, Option.isNone_iff_eq_none] at hunknown
    rw [hunknown]
    exact Operator.toOption_holds_invert op _ _
  | some name =>
    rw [hname, Option.isSome_some] at hunknown
    obtain ⟨other, hother⟩ := Option.isSome_iff_exists.1 hunknown
    rw [hother]
    rfl

/-- **A comparison says the same with its sides exchanged** and its operator inverted: the same truth
value, or no truth value in either way. That holds for any record with a value of the right kind in
each field and for any two operands, unless both name fields. If the right one names a field that is
none of lists, and the left one is a literal of its kind, then the comparison says that the literal's
value stands to the field's as the operator says, in this order. -/
theorem evaluate_swapped
    (hrecord : ∀ field ∈ schema.fields, ∃ value, record.value? field.key = some value ∧
      value.kind = field.kind)
    (hone : left.field? schema = none ∨ right.field? schema = none) (op : Operator) :
    (evaluate schema record (.comparison right op.invert left)).toOption =
        (evaluate schema record (.comparison left op right)).toOption ∧
      ∀ field value, right.field? schema = some field → field.kind ≠ .texts → op ≠ .includes →
        field.kind.ofLiteral left.literal = .ok value →
        ∃ held, record.value? field.key = some held ∧
          evaluate schema record (.comparison left op right) =
            .ok (decide (op.Relates value held)) := by
  constructor
  · cases hleft : left.field? schema with
    | none =>
      cases hright : right.field? schema with
      | none => exact toOption_evaluate_of_no_field record hleft hright op
      | some field => rw [evaluate_of_field_right record hleft hright]
    | some field =>
      have hright : right.field? schema = none := hone.resolve_left (by simp [hleft])
      rw [evaluate_of_field_right record hright hleft, Operator.invert_invert]
  · intro field value hright hkind hop hliteral
    have hleft : left.field? schema = none := hone.resolve_right (by simp [hright])
    have hinvert : op.invert ≠ .includes := by
      cases op <;> first | decide | exact absurd rfl hop
    -- only a name can be that of a field
    obtain ⟨name, rfl⟩ : ∃ name, right = .name name := by
      cases right <;> first | exact ⟨_, rfl⟩ | cases hright
    obtain ⟨held, hheld, hheldkind⟩ := hrecord field (Schema.field?_eq_some hright).1
    refine ⟨held, hheld, ?_⟩
    rw [evaluate_of_field_right record hleft hright, evaluate_relates hright hinvert hkind hheld
      hheldkind hliteral (Kind.kind_of_ofLiteral hliteral)]
    exact congrArg Except.ok (decide_eq_decide.2 (Operator.relates_invert hop))

/-- A level of seven and a half. -/
def levelRecord : Record := ⟨0, [("level", .double ⟨0x401E000000000000⟩)]⟩

/-- Five is less than the level, and the level is greater than five. -/
theorem evaluate_swapped_level :
    let schema : Schema := ⟨[⟨"Level", .double, false, false⟩]⟩
    evaluate schema levelRecord (.comparison (.number "5") .less (.name "LEVEL")) = .ok true ∧
      (evaluate schema levelRecord (.comparison (.name "LEVEL") .greater (.number "5"))).toOption =
        some true := by
  intro schema
  have hrecord : ∀ field ∈ schema.fields, ∃ value, levelRecord.value? field.key = some value ∧
      value.kind = field.kind := by
    intro field hfield
    rw [List.mem_singleton.1 hfield]
    exact ⟨.double ⟨0x401E000000000000⟩, by decide +kernel, rfl⟩
  have hliteral : Kind.double.ofLiteral (Operand.number "5").literal =
      .ok (.double ⟨0x4014000000000000⟩) := by decide +kernel
  obtain ⟨hswapped, hnatural⟩ := @evaluate_swapped schema levelRecord (.number "5") (.name "LEVEL")
    hrecord (.inl rfl) .less
  obtain ⟨held, hheld, hless⟩ := hnatural ⟨"Level", .double, false, false⟩ _ (by decide +kernel)
    (by decide) (by decide) hliteral
  have hlevel : levelRecord.value? (Field.key ⟨"Level", .double, false, false⟩) =
      some (.double ⟨0x401E000000000000⟩) := by decide +kernel
  cases hlevel.symm.trans hheld
  have htrue : evaluate schema levelRecord (.comparison (.number "5") .less (.name "LEVEL")) =
      .ok true := by
    rw [hless]
    exact congrArg Except.ok (by decide +kernel)
  refine ⟨htrue, ?_⟩
  rw [htrue] at hswapped
  exact hswapped

end Filter

end RecordStore
