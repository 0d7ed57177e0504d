/-
# Decimal numbers read

A number in writing is an optional sign, then digits with at most one point
among them and an optional power of ten, or a word for an infinity or a NaN in
any case. There is at least one digit before the power of ten; the digits may
be those of any script.

Where numbers are handed over as texts, white space may stand around them and
underscores anywhere in them, and the powers of ten are limited.

Key definitions: `Decimal.read?`, `Decimal.readLoose?`.
-/
import ReportFilter.Decimal
import ReportFilter.Text.Blank
import ReportFilter.Text.Numeral

namespace ReportFilter
namespace Decimal

/-- The power of ten that a text after the digits writes. -/
def readPower? : List Char → Option Int
  | [] => some 0
  | c :: s =>
    if c = 'e' ∨ c = 'E' then
      let (negative, s) := Text.takeSign s
      match Text.takeDigits s with
      | ([], _) => none
      | (ds, []) => some (if negative then -Text.digitsValue ds else Text.digitsValue ds)
      | _ => none
    else none

/-- The digits after the point, and the text after them. -/
def takeFraction : List Char → List Nat × List Char
  | '.' :: s => Text.takeDigits s
  | s => ([], s)

/-- The finite number that a text without sign writes. -/
def readFinite? (negative : Bool) (s : List Char) : Option Decimal :=
  let (whole, s) := Text.takeDigits s
  let (fraction, s) := takeFraction s
  if whole ++ fraction = [] then none
  else (readPower? s).map fun power =>
    finite negative (Text.digitsValue (whole ++ fraction)) (power - fraction.length)

/-- A NaN's payload. -/
def readPayload? (s : List Char) : Option Nat :=
  match Text.takeDigits s with
  | (ds, []) => some (Text.digitsValue ds)
  | _ => none

/-- The number that a word writes. -/
def readWord? (negative : Bool) (s : List Char) : Option Decimal :=
  let s := s.map Char.toLower
  if s = "inf".toList ∨ s = "infinity".toList then some (infinity negative)
  else if "nan".toList.isPrefixOf s then (readPayload? (s.drop 3)).map (nan negative false)
  else if "snan".toList.isPrefixOf s then (readPayload? (s.drop 4)).map (nan negative true)
  else none

/-- The number that a text writes. -/
def read? (s : List Char) : Option Decimal :=
  let (negative, s) := Text.takeSign s
  match readFinite? negative s with
  | some d => some d
  | none => readWord? negative s

/-- The greatest power of ten of a first digit. -/
def greatestPower : Int := 999999999999999999

/-- The least power of ten of a last digit. -/
def leastPower : Int := -1999999999999999997

/-- Whether the powers of ten of a number's digits are within the limits. -/
def inRange : Decimal → Bool
  | finite _ coefficient exponent =>
    leastPower ≤ exponent && exponent + (Text.numeral coefficient).length - 1 ≤ greatestPower
  | _ => true

/-- The number that a text writes, with white space around it and underscores
in it. -/
def readLoose? (s : List Char) : Option Decimal :=
  (read? ((Text.trim s).filter (· ≠ '_'))).filter inRange

end Decimal
end ReportFilter
