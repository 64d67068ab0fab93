/-!
# Doubles

A double is a 64-bit word in the binary interchange format: a sign, eleven bits of exponent and
fifty-two of fraction. Doubles are kept as words and not as native floating-point numbers, so that
the two zeros and the many NaNs can be told apart and every operation is exact.

The order is the total order of the standard: negative words below positive ones, each half by
magnitude, NaN outermost. `rank` maps a word to its place in that order as an integer, and two
doubles with one rank are one word (`rank_injective`).
-/

namespace RecordStore.Number

/-- A double-precision number, as its 64-bit word. -/
structure Double where
  /-- The word: sign, exponent, fraction. -/
  bits : UInt64
  deriving DecidableEq, Repr

namespace Double

/-- The weight of the sign bit, and the number of magnitudes. -/
def signWeight : Nat := 0x8000000000000000

/-- The number of fractions, and the weight of the exponent. -/
def exponentWeight : Nat := 0x10000000000000

/-- The word without its sign. -/
def magnitude (d : Double) : Nat := d.bits.toNat % signWeight

/-- Is the sign bit set? -/
def isNegative (d : Double) : Bool := signWeight ≤ d.bits.toNat

/-- The double with the given sign and magnitude. -/
def ofMagnitude (negative : Bool) (magnitude : Nat) : Double :=
  ⟨UInt64.ofNat (if negative then signWeight + magnitude else magnitude)⟩

/-- The magnitude of infinity: all exponent bits set, no fraction. -/
def infinityMagnitude : Nat := 0x7FF0000000000000

/-- The magnitude of the quiet NaN without a payload. -/
def quietNaNMagnitude : Nat := 0x7FF8000000000000

/-- Positive zero. -/
def zero : Double := ⟨0⟩

/-- Negative zero, which compares equal to zero wherever values are compared. -/
def negativeZero : Double := ⟨0x8000000000000000⟩

/-- Zero for either zero, every other double unchanged. -/
def foldZero (d : Double) : Double := if d = negativeZero then zero else d

/-- The place of a double in the total order. -/
def rank (d : Double) : Int :=
  if d.isNegative then -(d.magnitude : Int) - 1 else d.magnitude

/-- The total order of the standard. -/
def compare (a b : Double) : Ordering := Ord.compare a.rank b.rank

theorem bits_toNat (d : Double) :
    d.bits.toNat = d.magnitude + if d.isNegative then signWeight else 0 := by
  have := d.bits.toNat_lt
  unfold magnitude isNegative signWeight
  split <;> simp_all <;> omega

theorem rank_injective {a b : Double} (h : a.rank = b.rank) : a = b := by
  have ha := a.bits_toNat
  have hb := b.bits_toNat
  have : a.bits.toNat = b.bits.toNat := by
    unfold rank at h
    split at h <;> split at h <;> simp_all <;> omega
  cases a; cases b
  simpa using UInt64.toNat_inj.1 this

end Double

end RecordStore.Number
