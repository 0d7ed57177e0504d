/-
# Remainders of double precision numbers

The remainder of a division by a positive whole number, which is not negative,
and the difference of a whole number and a double precision number. Both are
worked out exactly and then rounded once; where an infinity or what is no
number is divided, there is no remainder.

Key definitions: `Binary64.ratio`, `Binary64.remainder`, `Binary64.subtractFrom`.
-/
import ReportFilter.Binary64

namespace ReportFilter
namespace Binary64

/-- A finite number as a quotient of whole numbers. -/
def ratio (negative : Bool) (significand : Nat) (exponent : Int) : Int × Nat :=
  let num : Int := significand * twoTo exponent.toNat
  (if negative then -num else num, twoTo (-exponent).toNat)

/-- The remainder of a division by `n`. -/
def remainder (x : Binary64) (n : Nat) : Binary64 :=
  match x with
  | finite negative m e =>
    let (num, den) := ratio negative m e
    ofRatio false (num % (n * den : Nat)).toNat den
  | _ => nan

/-- The difference of `n` and a number. -/
def subtractFrom (n : Nat) : Binary64 → Binary64
  | finite negative m e =>
    let (num, den) := ratio negative m e
    let difference := (n * den : Nat) - num
    ofRatio (difference < 0) difference.natAbs den
  | infinity negative => infinity !negative
  | nan => nan

end Binary64
end ReportFilter
