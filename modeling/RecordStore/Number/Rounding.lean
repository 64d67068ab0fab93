import RecordStore.Number.Double

/-!
# Rounding to the nearest double

Integers and decimal numerals become doubles by one rule: the double nearest to the exact value,
and of two equally near ones the one with an even fraction. All arithmetic is on natural numbers.
-/

namespace RecordStore.Number

/-- The power of a base with an integer exponent, one where the exponent is negative. A factor
`base ^ e` is the quotient of `raised base e` and `raised base (-e)`. -/
def raised (base : Nat) (e : Int) : Nat := Nat.pow base e.toNat

/-- The natural number nearest to `num / den`, a tie going to the even neighbour. -/
def roundQuotient (num den : Nat) : Nat :=
  let q := num / den
  let r := num % den
  if den < 2 * r || (2 * r = den && q % 2 = 1) then q + 1 else q

/-- The exponent `e` with `2 ^ e ≤ num / den < 2 ^ (e + 1)`. -/
def quotientLog (num den : Nat) : Int :=
  let e : Int := (num.log2 : Int) - den.log2
  if den * raised 2 e ≤ num * raised 2 (-e) then e else e - 1

namespace Double

/-- The magnitude of the double nearest to `num / den`. The last place of the significand is
worth `2 ^ place`: fifty-two binary places below the leading one, but never less than the least
positive double. A significand that rounds up to the next power of two carries into the exponent,
and what would exceed the greatest double is infinity. -/
def nearestMagnitude (num den : Nat) : Nat :=
  if num = 0 then 0
  else
    let place := max (quotientLog num den - 52) (-1074)
    let significand := roundQuotient (num * raised 2 (-place)) (den * raised 2 place)
    min ((place + 1074).toNat * exponentWeight + significand) infinityMagnitude

/-- The double nearest to an integer. -/
def ofInt (n : Int) : Double := ofMagnitude (n < 0) (nearestMagnitude n.natAbs 1)

/-- The magnitude of the double nearest to `digits * 10 ^ exponent`. Values at or above `10 ^ 400`
are infinite and those below `10 ^ (-398)` are zero, which keeps the powers of ten in bounds. -/
def decimalMagnitude (digits : Nat) (exponent : Int) : Nat :=
  if digits = 0 then 0
  else if 400 < exponent then infinityMagnitude
  else if exponent < -(400 + (digits.log2 : Int) / 3) then 0
  else nearestMagnitude (digits * raised 10 exponent) (raised 10 (-exponent))

/-- The double nearest to `digits * 10 ^ exponent`, with the given sign. -/
def ofDecimal (negative : Bool) (digits : Nat) (exponent : Int) : Double :=
  ofMagnitude negative (decimalMagnitude digits exponent)

end Double

end RecordStore.Number
