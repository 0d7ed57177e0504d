/-
# Values

What a user or a caller hands to a filter: nothing, a truth value, a number of
one of three kinds, a text, a date or a timestamp.

Key definition: `Value`.
-/
import ReportFilter.Binary64
import ReportFilter.Calendar.Timestamp
import ReportFilter.Decimal

namespace ReportFilter

/-- A filter value. -/
inductive Value where
  | none
  | bool (b : Bool)
  | int (n : Int)
  | float (x : Binary64)
  | decimal (d : Decimal)
  | text (s : String)
  | date (d : Date)
  | timestamp (t : Timestamp)
  deriving DecidableEq, Repr

namespace Value

/-- The integer that a value is; truth values count as 0 and 1. -/
def toInt? : Value → Option Int
  | bool b => some (if b then 1 else 0)
  | int n => some n
  | _ => Option.none

end Value
end ReportFilter
