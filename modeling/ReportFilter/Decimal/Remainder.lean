/-
# Remainders of decimal numbers

The remainder of a division by a whole number has the sign of the dividend. It
is worked out exactly, as long as the quotient has at most 28 digits, and then
rounded to 28 digits, a half to the even neighbour. A NaN goes through; a
signaling one and an infinity have no remainder.

Key definitions: `Decimal.rounded`, `Decimal.remainder?`.
-/
import ReportFilter.Decimal
import ReportFilter.Rounding
import ReportFilter.Text.Numeral

namespace ReportFilter
namespace Decimal

/-- The most digits of a result. -/
def precision : Nat := 28

/-- The least power of ten of a result's last digit. -/
def leastPlace : Int := -1000026

/-- A finite number rounded to the precision. When more digits are dropped than
there are, none is left. -/
def rounded (negative : Bool) (coefficient : Nat) (exponent : Int) : Decimal :=
  let digits := (Text.numeral coefficient).length
  let place := max leastPlace (exponent + digits - precision)
  if place ≤ exponent then finite negative coefficient exponent
  else
    let dropped := (place - exponent).toNat
    let c := if digits < dropped then 0 else roundedQuotient coefficient (tenTo dropped)
    if c = tenTo precision then finite negative (tenTo (precision - 1)) (place + 1)
    else finite negative c place

/-- The remainder of a division by `n`, if there is one. The cases are a
dividend of zero, a quotient of too many digits, a dividend without fraction, a
dividend that is less than `n`, and one with a fraction. -/
def remainder? (d : Decimal) (n : Nat) : Option Decimal :=
  match d with
  | finite negative c e =>
    let places := e + (Text.numeral c).length - (Text.numeral n).length
    if c = 0 then some (rounded negative 0 (min e 0))
    else if precision < places then none
    else if 0 ≤ e then
      let c := c * tenTo e.toNat
      if tenTo precision ≤ c / n then none else some (rounded negative (c % n) 0)
    else if places < 0 then some (rounded negative c e)
    else
      let n := n * tenTo (-e).toNat
      if tenTo precision ≤ c / n then none else some (rounded negative (c % n) e)
  | infinity _ => none
  | nan negative signaling payload =>
    if signaling then none else some (nan negative false (payload % tenTo precision))

end Decimal
end ReportFilter
