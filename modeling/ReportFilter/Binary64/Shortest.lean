/-
# The shortest text of a double precision number

A number is written with the fewest digits that read back as it, and of those
texts with the nearest. The numbers that round to `m * 2^e` lie between the
halfway points to its neighbours, the points themselves included when `m` is
even. On the grid of numbers with a given count of digits only the two points
around the number need to be tried: if any point of the grid lies between the
halfway points, so does one of these two.

The text is positional while the first digit stands at most sixteen places
before the point and at most four behind it, and always shows that the number
is not an integer type: by a point or by an exponent of at least two digits.

Key definitions: `Binary64.shortest`, `Binary64.print`.
-/
import ReportFilter.Binary64
import ReportFilter.Decimal.Printer

namespace ReportFilter
namespace Binary64

/-- A positive number with its interval, as whole numbers over one denominator:
`value` lies between `low` and `high`, and a text whose number lies between
them reads back. The ends belong to the interval when `closed`. -/
structure Interval where
  low : Nat
  value : Nat
  high : Nat
  denominator : Nat
  closed : Bool

/-- The interval of the numbers that round to `m * 2^e`, in quarters of
`2^e`. Below a power of two the numbers lie twice as close. -/
def interval (m : Nat) (e : Int) : Interval :=
  let below := if m = twoTo 52 ∧ leastExponent < e then 1 else 2
  let scale := twoTo (e - 2).toNat
  { low := (4 * m - below) * scale
    value := 4 * m * scale
    high := (4 * m + 2) * scale
    denominator := twoTo (2 - e).toNat
    closed := m % 2 == 0 }

/-- Whether `num / den` reads back as the interval's number. -/
def Interval.holds (i : Interval) (num den : Nat) : Bool :=
  let n := num * i.denominator
  let (l, h) := (i.low * den, i.high * den)
  if i.closed then l ≤ n && n ≤ h else l < n && n < h

/-- The place of the first digit of `num / den`: zero for the units, one for
the tens, minus one for the tenths. -/
def firstPlace (num den : Nat) : Int :=
  if den ≤ num then ((Nat.toDigits 10 (num / den)).length : Int) - 1
  else -((Nat.toDigits 10 ((den + num - 1) / num - 1)).length : Int)

/-- The number of `10^place` in the interval that is nearest to its value, the
even one of two, when one of the two around the value lies in the interval. -/
def Interval.nearest? (i : Interval) (place : Int) : Option Nat :=
  let up := Decimal.tenTo place.toNat
  let down := Decimal.tenTo (-place).toNat
  let num := i.value * down
  let den := i.denominator * up
  let c := num / den
  let lower := i.holds (c * up) down
  let upper := i.holds ((c + 1) * up) down
  let r := 2 * (num % den)
  if lower ∧ (¬ upper ∨ r < den ∨ (r = den ∧ c % 2 = 0)) then some c
  else if upper then some (c + 1)
  else none

/-- The first of the grids with `digits`, `digits + 1`, … digits, `tries` of
them, that has a point in the interval: the point and its place. The last
grid's lower point stands in when none has. -/
def Interval.search (i : Interval) (first : Int) : Nat → Nat → Nat × Int
  | digits, tries =>
    let place := first + 1 - digits
    match i.nearest? place, tries with
    | some c, _ => (c, place)
    | none, 0 =>
      let num := i.value * Decimal.tenTo (-place).toNat
      (num / (i.denominator * Decimal.tenTo place.toNat), place)
    | none, tries + 1 => i.search first (digits + 1) tries

/-- The digits of the shortest text of `m * 2^e`, as a whole number without
trailing zero, and the place of the last of them. -/
def shortest (m : Nat) (e : Int) : Nat × Int :=
  let i := interval m e
  let (c, place) := i.search (firstPlace i.value i.denominator) 1 16
  dropZeros c place 17
where
  /-- Moves trailing zeros of the digits into the place. -/
  dropZeros (c : Nat) (place : Int) : Nat → Nat × Int
    | 0 => (c, place)
    | k + 1 => if c % 10 = 0 then dropZeros (c / 10) (place + 1) k else (c, place)

/-- A positive number with the given digits, the last of them at `place`. -/
def printDigits (c : Nat) (place : Int) : List Char :=
  let digits := Text.numeral c
  let power := place + digits.length - 1
  if -4 ≤ power ∧ power < 16 then
    if 0 ≤ place then digits ++ List.replicate place.toNat '0' ++ ".0".toList
    else Decimal.positional digits place.natAbs
  else
    digits.take 1 ++ (if digits.length ≤ 1 then [] else '.' :: digits.drop 1) ++
      'e' :: (if power < 0 then '-' else '+') :: Text.padded 2 power.natAbs

/-- A number in writing. -/
def print : Binary64 → List Char
  | finite negative 0 _ => Decimal.sign negative ++ "0.0".toList
  | finite negative m e =>
    let (c, place) := shortest m e
    Decimal.sign negative ++ printDigits c place
  | infinity negative => Decimal.sign negative ++ "inf".toList
  | nan => "nan".toList

end Binary64
end ReportFilter
