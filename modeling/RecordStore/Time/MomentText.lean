import RecordStore.Number.Numeral
import RecordStore.Text.Blank
import RecordStore.Time.Moment

/-!
# The text of a moment

A moment is written `2024-01-01T12:30:00`, without its fraction of a second. A year of more than
four digits, or before year 0, has a sign; a leap second is written as second 60.

The reader is more lenient: blanks may stand before each number, every number may have fewer
digits, and a fraction of a second may follow, of which the first nine digits count. Digits without
a sign make a year of at most four of them.
-/

namespace RecordStore.Time

open RecordStore.Text RecordStore.Number

/-- Takes a number of at most `width` digits off the front, after any blanks. -/
def readNumber (width : Nat) (cs : List Char) : Option (Nat × List Char) :=
  let cs := skipBlanks cs
  match (cs.take width).takeWhile Char.isDigit with
  | [] => none
  | digits => some (digitsValue digits, cs.drop digits.length)

/-- Takes a year off the front, after any blanks: a sign and any number of digits, or up to four
digits. -/
def readYear (cs : List Char) : Option (Int × List Char) :=
  match skipBlanks cs with
  | '-' :: cs => (readDigits cs).map fun (digits, rest) ↦ (-(digitsValue digits : Int), rest)
  | '+' :: cs => (readDigits cs).map fun (digits, rest) ↦ (digitsValue digits, rest)
  | cs => (readNumber 4 cs).map fun (n, rest) ↦ (n, rest)

/-- Takes the character `c` off the front. -/
def readMark (c : Char) : List Char → Option (List Char)
  | [] => none
  | d :: rest => if d = c then some rest else none

/-- The nanoseconds that the digits after the point stand for. -/
def fractionNanos (digits : List Char) : Nat :=
  digitsValue ((digits ++ List.replicate 9 '0').take 9)

/-- Takes an optional fraction of a second off the front. -/
def readNanos : List Char → Option (Nat × List Char)
  | '.' :: cs => (readDigits cs).map fun (digits, rest) ↦ (fractionNanos digits, rest)
  | cs => some (0, cs)

namespace Moment

/-- The moment that a text stands for. -/
def ofText? (s : String) : Option Moment := do
  let (year, rest) ← readYear s.toList
  let rest ← readMark '-' rest
  let (month, rest) ← readNumber 2 rest
  let rest ← readMark '-' rest
  let (day, rest) ← readNumber 2 rest
  let rest ← readMark 'T' rest
  let (hour, rest) ← readNumber 2 rest
  let rest ← readMark ':' rest
  let (minute, rest) ← readNumber 2 rest
  let rest ← readMark ':' rest
  let (second, rest) ← readNumber 2 rest
  let (nanos, rest) ← readNanos rest
  if rest.isEmpty then ofParts? year month day hour minute second nanos else none

end Moment

/-- The digits of a number, with zeros in front up to the width. -/
def padded (width n : Nat) : String :=
  let digits := toString n
  String.ofList (List.replicate (width - digits.length) '0') ++ digits

/-- The text of a year: four digits where they suffice, else a sign and at least four digits. -/
def yearText (year : Int) : String :=
  if year < 0 then "-" ++ padded 4 year.natAbs
  else if year ≤ 9999 then padded 4 year.natAbs
  else "+" ++ padded 4 year.natAbs

namespace Moment

/-- The second as it is written: 60 in a leap second. -/
def shownSecond (m : Moment) : Nat := m.second + m.nanos / nanosPerSecond

/-- The text of a moment. -/
def text (m : Moment) : String :=
  yearText m.year ++ "-" ++ padded 2 m.month ++ "-" ++ padded 2 m.day ++ "T" ++
    padded 2 m.hour ++ ":" ++ padded 2 m.minute ++ ":" ++ padded 2 m.shownSecond

end Moment

end RecordStore.Time
