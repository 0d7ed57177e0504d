/-
# Double precision numbers read

A double precision number is read from a decimal number in writing, as the one
nearest to it, or from a word for an infinity or for what is no number. There
may be white space around it and single underscores between its digits.

Key definition: `Binary64.read?`.
-/
import ReportFilter.Binary64
import ReportFilter.Decimal.Reader
import ReportFilter.Text.Grouped

namespace ReportFilter
namespace Binary64

/-- The number that a word writes. -/
def readWord? (negative : Bool) (s : List Char) : Option Binary64 :=
  let s := s.map Char.toLower
  if s = "inf".toList ∨ s = "infinity".toList then some (infinity negative)
  else if s = "nan".toList then some nan
  else none

/-- The number that a text writes. -/
def read? (s : List Char) : Option Binary64 := do
  let (negative, s) := Text.takeSign (← Text.ungrouped? (Text.unspaced s))
  match Decimal.readFinite? negative s with
  | some d => some (ofDecimal d)
  | none => readWord? negative s

end Binary64
end ReportFilter
