/-
# Sets of characters given by code point ranges

A character class of the Unicode standard is a list of inclusive ranges of
code points, in ascending order.

Key definition: `Text.within`.
-/

namespace ReportFilter
namespace Text

/-- Whether a character's code point lies in one of the ranges, ends included. -/
def within (ranges : List (Nat × Nat)) (c : Char) : Bool :=
  ranges.any fun r => r.1 ≤ c.toNat && c.toNat ≤ r.2

theorem within_iff {ranges : List (Nat × Nat)} {c : Char} :
    within ranges c = true ↔ ∃ r ∈ ranges, r.1 ≤ c.toNat ∧ c.toNat ≤ r.2 := by
  simp [within]

end Text
end ReportFilter
