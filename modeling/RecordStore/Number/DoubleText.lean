import RecordStore.Number.Numeral
import RecordStore.Number.Rounding
import RecordStore.Number.Shortest

/-!
# The text of a double

A double is written with the fewest digits that read back. From `1e-4` up to, but not including,
`1e16` it is written positionally and keeps a fraction, if only `.0`; outside that range with an
exponent. Reading takes either form, a sign, and the names of infinity and NaN in any case.
-/

namespace RecordStore.Number

namespace Double

/-- The least power of ten of a leading digit that is written positionally. -/
def leastPositional : Int := -4

/-- The greatest power of ten of a leading digit that is written positionally. -/
def greatestPositional : Int := 15

/-- The positional form of a decimal, always with a fraction. -/
def positionalText (digits : String) (exponent : Int) : String :=
  let count : Int := digits.length
  if 0 ≤ exponent then
    digits ++ String.ofList (List.replicate exponent.toNat '0') ++ ".0"
  else if 0 < count + exponent then
    let whole := (count + exponent).toNat
    String.ofList (digits.toList.take whole) ++ "." ++ String.ofList (digits.toList.drop whole)
  else
    "0." ++ String.ofList (List.replicate (-(count + exponent)).toNat '0') ++ digits

/-- The form with an exponent: one digit, the others after a point, the power of ten. -/
def exponentText (digits : String) (lead : Int) : String :=
  match digits.toList with
  | [] => ""
  | first :: more =>
    let fraction := if more.isEmpty then "" else "." ++ String.ofList more
    String.ofList [first] ++ fraction ++ "e" ++ toString lead

/-- The text of a decimal, in the form that the power of ten of its leading digit asks for. -/
def decimalText (d : Decimal) : String :=
  let digits := toString d.digits
  let lead := d.exponent + digits.length - 1
  if leastPositional ≤ lead && lead ≤ greatestPositional then
    positionalText digits d.exponent
  else exponentText digits lead

/-- The text of a double. -/
def text (d : Double) : String :=
  if infinityMagnitude < d.magnitude then "NaN"
  else
    let sign := if d.isNegative then "-" else ""
    if d.magnitude = infinityMagnitude then sign ++ "inf"
    else if d.magnitude = 0 then sign ++ "0.0"
    else sign ++ decimalText d.shortest

/-- The names of the values that are no numbers, in lower case, with their magnitudes. -/
def specialNames : List (String × Nat) :=
  [("inf", infinityMagnitude), ("infinity", infinityMagnitude), ("nan", quietNaNMagnitude)]

/-- The exponent at the end of a numeral: none, or an `e`, an optional sign and digits. -/
def exponentOf? : List Char → Option Int
  | [] => some 0
  | c :: cs =>
    if c = 'e' || c = 'E' then
      let (sign, digits) := readSign cs
      if isDigits digits then
        some (if sign = ['-'] then -(digitsValue digits : Int) else digitsValue digits)
      else none
    else none

/-- The double that an unsigned numeral stands for. The point may stand at either end of the
digits, of which there is at least one. -/
def ofDigits? (negative : Bool) (cs : List Char) : Option Double :=
  let whole := cs.takeWhile Char.isDigit
  let rest := cs.dropWhile Char.isDigit
  let (fraction, rest) := match rest with
    | '.' :: more => (more.takeWhile Char.isDigit, more.dropWhile Char.isDigit)
    | more => ([], more)
  if whole.isEmpty && fraction.isEmpty then none
  else (exponentOf? rest).map fun exponent ↦
    ofDecimal negative (digitsValue (whole ++ fraction)) (exponent - fraction.length)

/-- The double that a text stands for. -/
def ofText? (s : String) : Option Double :=
  let (sign, body) := readSign s.toList
  let negative := sign = ['-']
  match specialNames.lookup (String.ofList (body.map Char.toLower)) with
  | some magnitude => some (ofMagnitude negative magnitude)
  | none => ofDigits? negative body

end Double

end RecordStore.Number
