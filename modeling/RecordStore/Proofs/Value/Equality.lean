import RecordStore.Proofs.Filter.Swapping
import RecordStore.Table.Index

/-!
# Equality, hashing and order of values

Filters order values, unique fields ask whether they are equal, and an index that is kept in a hash table
also depends on what is hashed of them. The three are defined apart from each other, and each of them has
to take the two zeros for one. That they fit together (`order_fits_equality`) is what filters and unique
fields rely on:

* equality is an equivalence, of which a NaN is no exception;
* values are equal if and only if a hasher is given the same pieces for both (`pieces_eq_iff`), so a table
  that looks into one bucket only finds what is in the whole of it (`searchBucket_eq_holder?`);
* within a kind other than lists the order is total, up to equality;
* seen from the other side any two values are in the reverse order, and values that have none are lists, or
  of two kinds that are not both numbers.
-/

namespace RecordStore

open RecordStore.Number

/-! ### Hashing -/

/-- What a hasher is given at a time. -/
inductive Piece where
  /-- The kind of a value. -/
  | kind (kind : Kind)
  /-- A text. -/
  | text (s : String)
  /-- A word of 64 bits, an integer's or a double's. -/
  | word (w : UInt64)
  /-- A truth value. -/
  | truth (b : Bool)
  /-- A moment. -/
  | moment (m : Time.Moment)
  /-- The number of texts that follow. -/
  | length (n : Nat)
  deriving DecidableEq

namespace Value

/-- What a hasher is given of a value besides its kind. A negative zero is given as zero. -/
def contents : Value → List Piece
  | text s => [.text s]
  | int n => [.word n.toUInt64]
  | double d => [.word d.foldZero.bits]
  | bool b => [.truth b]
  | time m => [.moment m]
  | texts items => .length items.length :: items.map .text

/-- What a hasher is given of a value. -/
def pieces (v : Value) : List Piece := .kind v.kind :: v.contents

variable {a b c : Value}

theorem pieces_folded (v : Value) : v.folded.pieces = v.pieces := by
  cases v with
  | double d => rw [pieces, pieces, folded, contents, contents, Double.foldZero_foldZero]; rfl
  | text | int | bool | time | texts => rfl

theorem folded_eq_of_pieces (h : a.pieces = b.pieces) : a.folded = b.folded := by
  obtain ⟨hkind, hcontents⟩ := List.cons.inj h
  have hkind : a.kind = b.kind := Piece.kind.inj hkind
  cases a <;> cases b <;> cases hkind
  case text.text => simpa [contents, folded] using hcontents
  case int.int a b =>
    have hword : a.toUInt64 = b.toUInt64 := by simpa [contents] using hcontents
    exact congrArg int (congrArg Int64.ofUInt64 hword)
  case double.double a b =>
    have hbits : a.foldZero.bits = b.foldZero.bits := by simpa [contents] using hcontents
    exact congrArg double (congrArg Double.mk hbits)
  case bool.bool => simpa [contents, folded] using hcontents
  case time.time => simpa [contents, folded] using hcontents
  case texts.texts a b =>
    have hmap : a.map Piece.text = b.map Piece.text := (List.cons.inj hcontents).2
    exact congrArg texts (List.map_injective_iff.2 (fun _ _ ↦ Piece.text.inj) hmap)

/-- **Equal values are given to a hasher in the same pieces**, and different ones in others. -/
theorem pieces_eq_iff : a.pieces = b.pieces ↔ a.same b = true := by
  rw [same_iff]
  refine ⟨folded_eq_of_pieces, fun h ↦ ?_⟩
  rw [← pieces_folded a, h, pieces_folded]

end Value

namespace Index

/-- The entries in the bucket of a value, in a table with `size` buckets. -/
def bucket (hash : List Piece → Nat) (size : Nat) (index : Index) (value : Value) : Index :=
  index.filter fun e ↦ hash e.1.pieces % size == hash value.pieces % size

/-- The number of the record that holds a value, by a search in the value's bucket only. -/
def searchBucket (hash : List Piece → Nat) (size : Nat) (index : Index) (value : Value) : Option Nat :=
  (index.bucket hash size value).holder? value

variable {index : Index} {value : Value}

/-- **A bucket is enough**, whatever the hash function and the number of buckets. -/
theorem searchBucket_eq_holder? (hash : List Piece → Nat) (size : Nat) (index : Index) (value : Value) :
    index.searchBucket hash size value = index.holder? value := by
  have hbucket (e : Value × Nat) : (hash e.1.pieces % size == hash value.pieces % size) = true ∧
      e.1.same value = true ↔ e.1.same value = true := by
    refine and_iff_right_of_imp fun hsame ↦ ?_
    rw [Value.pieces_eq_iff.2 hsame, beq_self_eq_true]
  rw [searchBucket, holder?, holder?, bucket, List.find?_filter]
  simp only [hbucket, Bool.decide_eq_true]

/-- A value is found if and only if it is equal to one that was entered. -/
theorem isSome_holder?_iff : (index.holder? value).isSome = true ↔
    ∃ e ∈ index, e.1.same value = true := by
  rw [holder?, Option.isSome_map, List.find?_isSome]

end Index

/-! ### Order -/

namespace Kind

/-- The values of the kind are numbers. -/
def IsNumeric (kind : Kind) : Prop := kind = int ∨ kind = double

end Kind

namespace Value

variable {a b c : Value}

/-- One value is at most as great as another. -/
def AtMost (a b : Value) : Prop := a.compare b = some .lt ∨ a.compare b = some .eq

theorem compare_eq_some_eq_iff (hkind : a.kind = b.kind) (hscalar : a.kind ≠ .texts) :
    a.compare b = some .eq ↔ a.same b = true := by
  obtain ⟨order, horder, -, heq, -⟩ := exists_order hkind hscalar
  rw [horder, Option.some.injEq, heq]

/-- Values of one kind that are no lists are at most as great as each other as the operator says. -/
theorem atMost_iff (hkind : a.kind = b.kind) (hscalar : a.kind ≠ .texts) :
    a.AtMost b ↔ Operator.lessEqual.Relates a b := by
  obtain ⟨order, horder, hlt, heq, -⟩ := exists_order hkind hscalar
  rw [AtMost, horder, Option.some.injEq, Option.some.injEq, hlt, heq, Operator.Relates]

theorem AtMost.trans (hab : a.kind = b.kind) (hbc : b.kind = c.kind) (hscalar : a.kind ≠ .texts)
    (h₁ : a.AtMost b) (h₂ : b.AtMost c) : a.AtMost c := by
  rw [atMost_iff hab hscalar] at h₁
  rw [atMost_iff hbc (hab ▸ hscalar)] at h₂
  rw [atMost_iff (hab.trans hbc) hscalar]
  exact Operator.relates_lessEqual_trans h₁ h₂

/-- What is at most as great in both ways is equal. -/
theorem AtMost.antisymm (hkind : a.kind = b.kind) (hscalar : a.kind ≠ .texts) (h₁ : a.AtMost b)
    (h₂ : b.AtMost a) : a.same b = true := by
  rw [← compare_eq_some_eq_iff hkind hscalar]
  refine h₁.resolve_left fun hlt ↦ ?_
  -- the order would be reversed from the other side
  rw [AtMost, compare_swap a b, hlt] at h₂
  rcases h₂ with h₂ | h₂ <;> exact absurd h₂ (by decide)

theorem AtMost.total (hkind : a.kind = b.kind) (hscalar : a.kind ≠ .texts) :
    a.AtMost b ∨ b.AtMost a := by
  obtain ⟨order, horder, -⟩ := exists_order hkind hscalar
  rw [AtMost, AtMost, compare_swap a b, horder]
  cases order <;> decide

/-- **Where there is no order**, a value is a list or the kinds do not compare. -/
theorem compare_eq_none_iff : a.compare b = none ↔ a.kind = .texts ∨ b.kind = .texts ∨
    a.kind ≠ b.kind ∧ ¬ (a.kind.IsNumeric ∧ b.kind.IsNumeric) := by
  cases a <;> cases b <;> simp [compare, kind, Kind.IsNumeric]

/-- **Equality, hashing and order fit together.** Being equal is an equivalence. Two values are equal if
and only if a hasher is given the same for both, so a hash table finds a value if and only if one of its
keys is equal to it. On the values of a kind other than lists the order is total: any two have one, it is
transitive, and they are equal exactly where neither is less than the other. The order of any two values
is reversed from the other side. They have none exactly if one of them is a list, or they are of two
kinds that are not both numbers. -/
theorem order_fits_equality :
    Equivalence (fun a b : Value ↦ a.same b = true) ∧
    (∀ a b : Value, a.pieces = b.pieces ↔ a.same b = true) ∧
    (∀ hash size (index : Index) value, (index.searchBucket hash size value).isSome = true ↔
      ∃ e ∈ index, e.1.same value = true) ∧
    (∀ kind : Kind, kind ≠ .texts → ∀ a b c : Value, a.kind = kind → b.kind = kind → c.kind = kind →
      (a.AtMost b ∨ b.AtMost a) ∧ (a.AtMost b → b.AtMost c → a.AtMost c) ∧
      (a.AtMost b → b.AtMost a → a.same b = true) ∧ (a.compare b = some .eq ↔ a.same b = true)) ∧
    (∀ a b : Value, b.compare a = (a.compare b).map Ordering.swap) ∧
    ∀ a b : Value, a.compare b = none ↔ a.kind = .texts ∨ b.kind = .texts ∨
      a.kind ≠ b.kind ∧ ¬ (a.kind.IsNumeric ∧ b.kind.IsNumeric) := by
  refine ⟨⟨same_refl, same_symm, same_trans⟩, fun a b ↦ pieces_eq_iff, fun hash size index value ↦ ?_,
    fun kind hkind a b c ha hb hc ↦ ?_, compare_swap, fun a b ↦ compare_eq_none_iff⟩
  · rw [Index.searchBucket_eq_holder?, Index.isSome_holder?_iff]
  · have hab := ha.trans hb.symm
    have hbc := hb.trans hc.symm
    have hscalar : a.kind ≠ .texts := ha ▸ hkind
    exact ⟨AtMost.total hab hscalar, AtMost.trans hab hbc hscalar, AtMost.antisymm hab hscalar,
      compare_eq_some_eq_iff hab hscalar⟩

/-- The two zeros are one key and in one place of the order, and a NaN is equal to itself. -/
theorem order_fits_equality_zeros :
    let nan : Value := .double ⟨0x7FF8000000000000⟩
    (Index.searchBucket List.length 7 [(.double .negativeZero, 3)] (.double .zero)).isSome = true ∧
      Value.compare (.double .negativeZero) (.double .zero) = some .eq ∧ nan.same nan = true := by
  intro nan
  have hsame : Value.same (.double .negativeZero) (.double .zero) = true := by decide
  obtain ⟨hequivalence, -, hfound, horder, -⟩ := order_fits_equality
  refine ⟨(hfound _ 7 _ _).2 ⟨_, List.mem_cons_self, hsame⟩, ?_, hequivalence.refl nan⟩
  exact (horder .double (by decide) _ _ nan rfl rfl rfl).2.2.2.2 hsame

end Value

end RecordStore
