/-
# Weeks

Days of the week are numbered from Sunday as 0, and a week may start on any of
them. Besides these there are the numbered weeks of a year: they start on
Monday, and the first is the one that holds the first Thursday.

Key definitions: `Date.weekday`, `Date.daysSinceMonday`, `Date.daysIntoWeek`,
`Date.ofWeek?`.
-/
import ReportFilter.Calendar.Date

namespace ReportFilter
namespace Date

/-- The day of the week, Sunday being 0; 0001-01-01 is a Monday. -/
def weekday (d : Date) : Nat := d.ordinal % 7

/-- The day of the week, Monday being 0. -/
def daysSinceMonday (d : Date) : Nat := (d.ordinal + 6) % 7

/-- Sunday, the last day in one numbering, is the first one in the other. -/
theorem weekday_eq_daysSinceMonday (d : Date) : d.weekday = (d.daysSinceMonday + 1) % 7 := by
  simp only [weekday, daysSinceMonday]; omega

/-- The number of days since the week began, when it begins on `firstDay`. -/
def daysIntoWeek (d : Date) (firstDay : Int) : Int := ((d.weekday : Int) - firstDay % 7) % 7

/-! ### Numbered weeks -/

/-- The ordinal of a year's first of January. -/
def firstOrdinal (year : Nat) : Nat := daysBeforeYear year + 1

/-- Whether a year has a week 53: it starts on a Thursday, or on a Wednesday
with a leap day to come. -/
def hasWeek53 (year : Nat) : Bool :=
  firstOrdinal year % 7 = 4 || (firstOrdinal year % 7 = 3 && isLeapYear year)

/-- The ordinal of the Monday of a year's first week. -/
def firstMonday (year : Nat) : Int :=
  let first := firstOrdinal year
  let back := (first + 6) % 7
  if 3 < back then first - back + 7 else first - back

/-- The date of a day, from Monday as 1, of a numbered week. -/
def ofWeek? (year week day : Nat) : Option Date :=
  if 1 ≤ year ∧ 1 ≤ week ∧ (week ≤ 52 ∨ (week = 53 ∧ hasWeek53 year)) ∧ 1 ≤ day ∧ day ≤ 7 then
    ofOrdinal? (firstMonday year + (week - 1) * 7 + (day - 1))
  else none

end Date
end ReportFilter
