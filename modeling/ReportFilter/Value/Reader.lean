/-
# Values handed over as texts

A caller may hand a value over as a text that says what kind of value it is. A
text that does not read as a value of its kind is a failure of its own.

Key definitions: `Value.ofInteger`, `Value.ofFloat`, `Value.ofDecimal`,
`Value.ofDate`, `Value.ofTimestamp`.
Key theorem: `Value.ofInteger_eq_ok_iff`.
-/
import ReportFilter.Binary64.Reader
import ReportFilter.Calendar.Reader
import ReportFilter.Failure
import ReportFilter.Text.Grouped

namespace ReportFilter
namespace Value

/-- A value that has been read, or why there is none. -/
def orFail {α : Type} (kind : α → Value) (e : Failure) : Option α → Except Failure Value
  | some a => .ok (kind a)
  | .none => .error e

/-- The integer that a text writes, of no more digits than integers have. -/
def ofInteger (s : String) : Except Failure Value :=
  orFail int .unreadable (Text.integer? s.toList)

/-- The number in double precision that a text writes. -/
def ofFloat (s : String) : Except Failure Value :=
  orFail float .unreadable (Binary64.read? s.toList)

/-- The decimal number that a text writes. -/
def ofDecimal (s : String) : Except Failure Value :=
  orFail decimal .decimalOperation (Decimal.readLoose? s.toList)

/-- The date that a text writes. -/
def ofDate (s : String) : Except Failure Value :=
  orFail date .unreadable (Date.readIso? s.toList)

/-- The timestamp that a text writes. -/
def ofTimestamp (s : String) : Except Failure Value :=
  orFail timestamp .unreadable (Timestamp.readIso? s.toList)

/-- A text is handed over as an integer if and only if it writes one. -/
theorem ofInteger_eq_ok_iff {s : String} {v : Value} :
    ofInteger s = .ok v ↔ ∃ n, Text.integer? s.toList = some n ∧ v = .int n := by
  cases h : Text.integer? s.toList <;> simp [ofInteger, orFail, h, eq_comm]

end Value
end ReportFilter
