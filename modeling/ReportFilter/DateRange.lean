/-
# Days relative to today

A range of days is bounded by two counts of days from today, both included; an
end that is not given is open. The first day starts after the last second of
the day before it, and the last day ends with its last second.

Key definitions: `DateRange.lower`, `DateRange.upper`, `DateRange.decide`.
-/
import ReportFilter.Decision

namespace ReportFilter
namespace DateRange

/-- On the day that lies `days` after today, or later. -/
def lower (today : Date) (days : Int) : Except Failure Condition := do
  let yesterday ← today.plusDays (-1)
  let day ← yesterday.plusDays days
  .ok (.after (.endOfDay day))

/-- On the day that lies `days` after today, or earlier. -/
def upper (today : Date) (days : Int) : Except Failure Condition := do
  let day ← today.plusDays days
  .ok (.upTo (.endOfDay day))

/-- A bound that may be left open. -/
def bound (condition : Int → Except Failure Condition) : Option Int → Decision
  | none => .skip
  | some days => .ofExcept ((condition days).map .append)

/-- The days from the first to the last. The lower bound is appended even if
the upper one is out of the calendar. -/
def decide (today : Date) (first last : Option Int) : Decision :=
  (bound (lower today) first).andThen (bound (upper today) last)

end DateRange
end ReportFilter
