/-
# Decimal numbers in writing

A finite number is written with all digits of its coefficient. It is written
positionally when its exponent is not positive and its first digit stands no
more than six places after the point; otherwise one digit stands before the
point and the power of ten follows an `E`.

Key definition: `Decimal.print`.
Key theorem: `Decimal.print_ofInt`.
-/
import ReportFilter.Decimal
import ReportFilter.Text.Numeral

namespace ReportFilter
namespace Decimal

/-- The sign of a number in writing. -/
def sign (negative : Bool) : List Char := if negative then ['-'] else []

/-- Digits with the point `places` digits from the right. -/
def positional (digits : List Char) (places : Nat) : List Char :=
  if places = 0 then digits
  else if places < digits.length then
    digits.take (digits.length - places) ++ '.' :: digits.drop (digits.length - places)
  else '0' :: '.' :: List.replicate (places - digits.length) '0' ++ digits

/-- Digits with the point after the first, and a power of ten. -/
def scientific (digits : List Char) (power : Int) : List Char :=
  digits.take 1 ++ (if digits.length ≤ 1 then [] else '.' :: digits.drop 1) ++
    'E' :: (if power < 0 then '-' else '+') :: Text.numeral power.natAbs

/-- A decimal number in writing. -/
def print : Decimal → List Char
  | finite negative coefficient exponent =>
    let digits := Text.numeral coefficient
    let power := exponent + digits.length - 1
    sign negative ++
      if exponent ≤ 0 ∧ -6 ≤ power then positional digits exponent.natAbs
      else scientific digits power
  | infinity negative => sign negative ++ "Infinity".toList
  | nan negative signaling payload =>
    sign negative ++ (if signaling then "sNaN" else "NaN").toList ++
      if payload = 0 then [] else Text.numeral payload

/-- An integer is written the same way as a decimal number. -/
theorem print_ofInt (n : Int) : print (ofInt n) = Text.signed n := by
  cases n with
  | ofNat k =>
    have h : ¬ ((k : Int) < 0) := by omega
    simp [ofInt, print, sign, h, positional, Text.signed]
    omega
  | negSucc k =>
    have h : (Int.negSucc k) < 0 := by omega
    simp [ofInt, print, sign, h, positional, Text.signed]
    omega

end Decimal
end ReportFilter
