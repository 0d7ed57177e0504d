/-
# Decimal numbers

A decimal number is a sign, a whole coefficient and a power of ten, so `1.50`
and `1.5` are two numbers of one value; besides these there are the infinities
and the NaNs, which may signal and may carry a payload.

Key definitions: `Decimal`, `Decimal.ofInt`.
-/

namespace ReportFilter

/-- A decimal number. -/
inductive Decimal where
  /-- `(-1)^negative * coefficient * 10^exponent`. -/
  | finite (negative : Bool) (coefficient : Nat) (exponent : Int)
  | infinity (negative : Bool)
  | nan (negative signaling : Bool) (payload : Nat)
  deriving DecidableEq, Repr

namespace Decimal

/-- A power of ten. -/
def tenTo (n : Nat) : Nat := Nat.pow 10 n

/-- An integer as a decimal number. -/
def ofInt (n : Int) : Decimal := finite (decide (n < 0)) n.natAbs 0

end Decimal
end ReportFilter
