import RecordStore.Number.Rounding

/-!
# Shortest decimals

The decimal that stands for a double: of all decimal grids (the multiples of one power of ten) the
coarsest that has a point which rounds to the double, and on that grid the point nearest to the
double. A point as near above as another is below is preferred.

A double `m * 2 ^ q` is the image of every real between the middles to its neighbours; the middles
themselves belong to it when `m` is even. If a grid has a point in that interval, one of the two
points next to the double itself is in it, so two candidates are tested per grid.
-/

namespace RecordStore.Number

/-- A decimal number, `digits * 10 ^ exponent`. -/
structure Decimal where
  /-- The significant digits, as a number. -/
  digits : Nat
  /-- The power of ten. -/
  exponent : Int
  deriving DecidableEq, Repr

namespace Double

/-- The reals that round to a positive double, in quarters of the last place: the double itself
is `4 * significand` of them. -/
structure RoundingInterval where
  /-- The significand of the double. -/
  significand : Nat
  /-- The exponent of the last place. -/
  place : Int
  /-- The lower end, in quarters of the last place. -/
  lower : Nat
  /-- The upper end, in quarters of the last place. -/
  upper : Nat

/-- The interval of a positive finite double. Below a power of two the neighbour is only half as
far away, and so is the middle. -/
def roundingInterval (d : Double) : RoundingInterval :=
  let field : Nat := d.magnitude / exponentWeight
  let fraction : Nat := d.magnitude % exponentWeight
  let significand := if field = 0 then fraction else exponentWeight + fraction
  let place : Int := if field = 0 then -1074 else (field : Int) - 1075
  ⟨significand, place,
    if fraction = 0 && 1 < field then 4 * significand - 1 else 4 * significand - 2,
    4 * significand + 2⟩

/-- The point of the grid of `10 ^ exponent` that stands for the double, if one does. A quarter of
the last place is `unit / grid` steps of the grid. -/
def RoundingInterval.point? (i : RoundingInterval) (exponent : Int) : Option Decimal :=
  let unit := raised 2 (i.place - 2) * raised 10 (-exponent)
  let grid := raised 2 (2 - i.place) * raised 10 exponent
  let exact := 4 * i.significand * unit
  let below := exact / grid
  let above := below + 1
  let holds (n : Nat) : Bool :=
    if i.significand % 2 = 0 then i.lower * unit ≤ n * grid && n * grid ≤ i.upper * unit
    else i.lower * unit < n * grid && n * grid < i.upper * unit
  if holds below && (!holds above || exact - below * grid < above * grid - exact) then
    some ⟨below, exponent⟩
  else if holds above then some ⟨above, exponent⟩
  else none

/-- A power of ten above the double, and not far above it: the first grid worth a try. -/
def RoundingInterval.topExponent (i : RoundingInterval) : Int :=
  let binary : Int := (i.significand.log2 : Int) + i.place + 1
  (if 0 ≤ binary then binary * 31 / 100 else binary * 30 / 100) + 1

/-- The shortest decimal for a positive finite double: the first hit on ever finer grids. Seventeen
digits always suffice, and the first grid is at most some ten steps too coarse. -/
def shortest (d : Double) : Decimal :=
  let i := d.roundingInterval
  ((List.range 40).findSome? fun (n : Nat) ↦ i.point? (i.topExponent - (n : Int))).getD ⟨0, 0⟩

end Double

end RecordStore.Number
