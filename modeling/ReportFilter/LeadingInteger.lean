/-
# Leading integers

A count of days comes from a form, as in `3 days`: the integer that a text
starts with counts, after white space, and zero when there is none. The
integer may have at most as many digits as an integer is written with.

Key definitions: `LeadingInteger.read`, `LeadingInteger.ofValue`.
Key theorem: `LeadingInteger.read_eq_zero`.
-/
import ReportFilter.Value.Printer

namespace ReportFilter
namespace LeadingInteger

/-- The integer that a text starts with, or zero. -/
def read (s : List Char) : Except Failure Int :=
  let (negative, s) := Text.takeSign (s.dropWhile Text.isBlank)
  let digits := (Text.takeDigits s).1
  let n := Text.digitsValue digits
  if Text.digitLimit < digits.length then .error .tooManyDigits
  else .ok (if negative then -n else n)

/-- The integer that a value is or starts with. -/
def ofValue : Value → Except Failure Int
  | .bool b => .ok (if b then 1 else 0)
  | .int n => .ok n
  | .none => .ok 0
  | v => do read (← v.plain).toList

/-- A text that has no digit after white space and a sign counts as zero. -/
theorem read_eq_zero {s : List Char}
    (h : (Text.takeDigits (Text.takeSign (s.dropWhile Text.isBlank)).2).1 = []) :
    read s = .ok 0 := by
  simp only [read, h]
  simp [Text.digitsValue, Text.digitLimit]

end LeadingInteger
end ReportFilter
