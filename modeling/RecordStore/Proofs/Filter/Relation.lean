import RecordStore.Filter.Evaluation
import RecordStore.Proofs.Time.Order

/-!
# What the operators say

A filter compares two values by the order that `Value.compare` finds for them, and asks for equality
elsewhere. What its operators are to say is told here without either: that one value precedes another
of its kind (`Value.Precedes`), or that the two are the same (`Operator.Relates`). Texts and moments
precede each other as lists do, of characters and of parts.

Of two values of one kind that are no lists, one precedes, or the other does, or they are the same, and
the order says which (`Value.exists_order`). Moments and doubles are compared by ranks, so what has to
be known of these is that they keep the order of the parts (`Moment.rank_lt_iff`) and that no two
moments or doubles share one. Hence all operators but inclusion mean what they are to say
(`Operator.holds_eq`).
-/

namespace RecordStore

open RecordStore.Number RecordStore.Time

/-! ### Values -/

namespace Value

/-- One value comes before another of its kind: texts by their characters, numbers by size, moments by
their parts, and `false` before `true`. -/
def Precedes : Value → Value → Prop
  | text a, text b => List.Lex (fun c d : Char ↦ c.toNat < d.toNat) a.toList b.toList
  | int a, int b => a.toInt < b.toInt
  | double a, double b => a.foldZero.rank < b.foldZero.rank
  | bool a, bool b => a = false ∧ b = true
  | time a, time b => List.Lex (fun x y : Int ↦ x < y) a.parts b.parts
  | _, _ => False

variable {a b : Value}

theorem same_comm (a b : Value) : a.same b = b.same a := Bool.eq_iff_iff.2 ⟨same_symm, same_symm⟩

/-- **Of two values of one kind** that are no lists, one precedes, or the other does, or they are the
same, and the order of the two says which. -/
theorem exists_order (hkind : a.kind = b.kind) (hscalar : a.kind ≠ .texts) :
    ∃ order, a.compare b = some order ∧ (order = .lt ↔ a.Precedes b) ∧
      (order = .eq ↔ a.same b = true) ∧ (order = .gt ↔ b.Precedes a) := by
  cases a <;> cases b <;> cases hkind
  case text.text a b =>
    refine ⟨_, rfl, compareOfLessAndEq_eq_lt, ?_, ?_⟩
    · show _ ↔ decide (text a = text b) = true
      rw [Std.compare_eq_iff_eq, decide_eq_true_iff, text.injEq]
    · rw [Std.OrientedCmp.gt_iff_lt]
      exact compareOfLessAndEq_eq_lt
  case int.int a b =>
    refine ⟨_, rfl, Int.compare_eq_lt, ?_, Int.compare_eq_gt⟩
    show _ ↔ decide (int a = int b) = true
    rw [Int.compare_eq_eq, Int64.toInt_inj, decide_eq_true_iff, int.injEq]
  case double.double a b =>
    refine ⟨_, rfl, Int.compare_eq_lt, ?_, Int.compare_eq_gt⟩
    rw [Double.compare, Int.compare_eq_eq, same_iff, folded, folded, double.injEq]
    exact ⟨Double.rank_injective, congrArg Double.rank⟩
  case bool.bool a b => exact ⟨_, rfl, by cases a <;> cases b <;> simp [Precedes] <;> decide⟩
  case time.time a b =>
    refine ⟨_, rfl, Int.compare_eq_lt.trans Moment.rank_lt_iff, ?_,
      Int.compare_eq_gt.trans Moment.rank_lt_iff⟩
    show _ ↔ decide (time a = time b) = true
    rw [Moment.compare, Int.compare_eq_eq, Moment.rank_inj, decide_eq_true_iff, time.injEq]
  case texts.texts => exact absurd rfl hscalar

theorem kind_eq_of_precedes (h : a.Precedes b) : a.kind = b.kind ∧ a.kind ≠ .texts := by
  cases a <;> cases b <;> first | exact False.elim h | exact ⟨rfl, by simp [kind]⟩

theorem precedes_iff :
    a.Precedes b ↔ (a.kind = b.kind ∧ a.kind ≠ .texts) ∧ a.compare b = some .lt := by
  constructor
  · intro h
    obtain ⟨order, horder, hlt, -⟩ := exists_order (kind_eq_of_precedes h).1 (kind_eq_of_precedes h).2
    rw [horder, hlt.2 h]
    exact ⟨kind_eq_of_precedes h, rfl⟩
  · rintro ⟨⟨hkind, hscalar⟩, hcompare⟩
    obtain ⟨order, horder, hlt, -⟩ := exists_order hkind hscalar
    exact hlt.1 (Option.some.inj (horder.symm.trans hcompare))

instance : DecidableRel Precedes := fun _ _ ↦ decidable_of_iff _ precedes_iff.symm

end Value

/-! ### Operators -/

namespace Operator

/-- What an operator says of two values. -/
def Relates (op : Operator) (a b : Value) : Prop :=
  match op with
  | equal => a.same b = true
  | notEqual => a.same b = false
  | less => a.Precedes b
  | lessEqual => a.Precedes b ∨ a.same b = true
  | greater => b.Precedes a
  | greaterEqual => b.Precedes a ∨ a.same b = true
  | includes => b.kind = .text ∧ a.contains b.display = true

instance (op : Operator) : DecidableRel op.Relates := fun a b ↦
  match op with
  | equal => inferInstanceAs (Decidable (a.same b = true))
  | notEqual => inferInstanceAs (Decidable (a.same b = false))
  | less => inferInstanceAs (Decidable (a.Precedes b))
  | lessEqual => inferInstanceAs (Decidable (a.Precedes b ∨ a.same b = true))
  | greater => inferInstanceAs (Decidable (b.Precedes a))
  | greaterEqual => inferInstanceAs (Decidable (b.Precedes a ∨ a.same b = true))
  | includes => inferInstanceAs (Decidable (b.kind = .text ∧ a.contains b.display = true))

variable {a b : Value}

/-- The operator that says the same of the values in the other order. -/
theorem relates_invert {op : Operator} (hop : op ≠ .includes) :
    op.invert.Relates a b ↔ op.Relates b a := by
  cases op with
  | less | greater => exact Iff.rfl
  | equal | notEqual | lessEqual | greaterEqual => simp only [invert, Relates, Value.same_comm a b]
  | includes => exact absurd rfl hop

/-- **Of values of one kind** that are no lists, all operators but inclusion hold as they are to. -/
theorem holds_eq {op : Operator} (hop : op ≠ .includes) (hkind : a.kind = b.kind)
    (hscalar : a.kind ≠ .texts) : op.holds a b = .ok (decide (op.Relates a b)) := by
  have hequals : a.equals b = a.same b := by rw [Value.equals, if_pos hkind]
  obtain ⟨order, horder, hlt, heq, hgt⟩ := Value.exists_order hkind hscalar
  suffices h : ∃ met, op.holds a b = .ok met ∧ (met = true ↔ op.Relates a b) by
    obtain ⟨met, hmet, hiff⟩ := h
    rw [hmet, Bool.eq_iff_iff.2 (hiff.trans decide_eq_true_iff.symm)]
  cases op with
  | equal => exact ⟨_, rfl, by rw [hequals, Relates]⟩
  | notEqual => exact ⟨_, rfl, by rw [hequals, Relates, Bool.not_eq_true']⟩
  | less =>
    rw [holds, horder, Relates, ← hlt]
    exact ⟨_, rfl, beq_iff_eq⟩
  | lessEqual =>
    rw [holds, horder, Relates, ← hlt, ← heq]
    exact ⟨_, rfl, by cases order <;> decide⟩
  | greater =>
    rw [holds, horder, Relates, ← hgt]
    exact ⟨_, rfl, beq_iff_eq⟩
  | greaterEqual =>
    rw [holds, horder, Relates, ← hgt, ← heq]
    exact ⟨_, rfl, by cases order <;> decide⟩
  | includes => exact absurd rfl hop

end Operator

end RecordStore
