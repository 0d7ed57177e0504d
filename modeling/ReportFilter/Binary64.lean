/-
# Double precision numbers

A finite number is a sign and a whole significand times a power of two, with
at most 53 bits and no power below `2^-1074`; the significand has all 53 bits
unless the power is the least. Reading rounds to the nearest such number, and
of two equally near ones to the even significand.

Key definitions: `Binary64`, `Binary64.ofRatio`, `Binary64.ofDecimal`.
-/
import ReportFilter.Decimal
import ReportFilter.Rounding

namespace ReportFilter

/-- A double precision number. -/
inductive Binary64 where
  /-- `(-1)^negative * significand * 2^exponent`. -/
  | finite (negative : Bool) (significand : Nat) (exponent : Int)
  | infinity (negative : Bool)
  | nan
  deriving DecidableEq, Repr

namespace Binary64

/-- A power of two. -/
def twoTo (n : Nat) : Nat := Nat.pow 2 n

/-- The least exponent of a finite number. -/
def leastExponent : Int := -1074

/-- The greatest exponent of a finite number. -/
def greatestExponent : Int := 971

/-- The significand of a positive quotient at an exponent. -/
def significandAt (num den : Nat) (exponent : Int) : Nat :=
  roundedQuotient (num * twoTo (-exponent).toNat) (den * twoTo exponent.toNat)

/-- The exponent at which a positive quotient has a significand of 53 bits
before it is rounded, or the least exponent. -/
def exponentFor (num den : Nat) : Int :=
  let e : Int := num.log2 - den.log2 - 52
  let small := num * twoTo (-e).toNat < den * twoTo e.toNat * twoTo 52
  max leastExponent (if small then e - 1 else e)

/-- The number nearest to a quotient. -/
def ofRatio (negative : Bool) (num den : Nat) : Binary64 :=
  if num = 0 then finite negative 0 leastExponent
  else
    let e := exponentFor num den
    let m := significandAt num den e
    let (m, e) := if m = twoTo 53 then (twoTo 52, e + 1) else (m, e)
    if greatestExponent < e then infinity negative else finite negative m e

/-- The number nearest to a decimal number. Beyond 400 places on either side
every number rounds to an infinity or to zero, so no power of ten is formed. -/
def ofDecimal : Decimal → Binary64
  | .finite negative coefficient exponent =>
    let first := exponent + (Nat.toDigits 10 coefficient).length
    if coefficient = 0 ∨ first < -400 then finite negative 0 leastExponent
    else if 400 < first then infinity negative
    else if exponent < 0 then ofRatio negative coefficient (Decimal.tenTo exponent.natAbs)
    else ofRatio negative (coefficient * Decimal.tenTo exponent.natAbs) 1
  | .infinity negative => infinity negative
  | .nan .. => nan

end Binary64
end ReportFilter
