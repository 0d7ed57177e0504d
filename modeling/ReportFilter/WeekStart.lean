/-
# First days of weeks

The first day of the week is a number from Sunday as 0, but an override may put
any value in its place. What is used of it is its remainder by seven: of
integers and truth values an integer, of a number in double precision or in
decimal one of that kind. A text is taken for a fragment, and has the number
seven in its slot.

A week begins as many days before a date as the date's day of the week is
behind the first day, counted by seven again. These days may be given in double
precision, and then a timestamp goes back by a part of a day too; they are
never decimal.

Key definitions: `Value.bySeven`, `Value.daySpan`, `Moment.weekBeginning`,
`Date.weekBeginning`.
Key theorem: `Moment.weekBeginning_int`.
-/
import ReportFilter.Binary64.Remainder
import ReportFilter.DateInput
import ReportFilter.Decimal.Remainder
import ReportFilter.Fragment.Number

namespace ReportFilter

/-- The remainder of a value by seven. -/
def Value.bySeven : Value → Except Failure Value
  | .bool b => .ok (.int (if b then 1 else 0))
  | .int n => .ok (.int (n % 7))
  | .float x => .ok (.float (x.remainder 7))
  | .decimal d =>
    match d.remainder? 7 with
    | some r => .ok (.decimal r)
    | .none => .error .decimalOperation
  | .text s => (Fragment.fillNumber s 7).map .text
  | _ => .error .notANumber

/-- The span of as many days as a value is. -/
def Value.daySpan : Value → Except Failure TimeSpan
  | .float (.finite negative m e) =>
    match TimeSpan.ofFraction? negative m e with
    | some s => .ok s
    | .none => .error .outOfCalendar
  | .float (.infinity _) => .error .outOfCalendar
  | .float .nan => .error .undefinedDays
  | v =>
    match v.toInt? with
    | some n => .ok (.ofDays n)
    | .none => .error .notANumber

namespace Moment

/-- The moment a number of days later. -/
def addDayValue (m : Moment) (days : Value) : Except Failure Moment := do
  m.plus (← days.daySpan)

/-- The moment as long before as its date is into its week, which begins on the
first day that a value gives. -/
def weekBeginning (m : Moment) (firstDay : Value) : Except Failure Moment := do
  match ← firstDay.bySeven with
  | .int n => m.beginningOfWeek n
  | .float x =>
    m.minus (← (Value.float ((x.subtractFrom m.day.weekday).remainder 7)).daySpan)
  | _ => .error .notANumber

/-- Where the first day is an integer, whole days are counted. -/
theorem weekBeginning_int (m : Moment) (n : Int) :
    m.weekBeginning (.int n) = m.beginningOfWeek n := by
  show m.beginningOfWeek (n % 7) = m.beginningOfWeek n
  simp only [beginningOfWeek, Date.daysIntoWeek, Int.emod_emod]

end Moment

/-- The date on which a week begins. -/
def Date.weekBeginning (d : Date) (firstDay : Value) : Except Failure Date :=
  ((Moment.date d).weekBeginning firstDay).map Moment.day

/-- Where the first day is an integer, whole days are counted. -/
theorem Date.weekBeginning_int (d : Date) (n : Int) :
    d.weekBeginning (.int n) = d.plusDays (-d.daysIntoWeek n) := by
  rw [Date.weekBeginning, Moment.weekBeginning_int]
  simp only [Moment.beginningOfWeek, Moment.addDays, Moment.day, plusDays, addDays?_of_span]
  cases d.addDays? (-d.daysIntoWeek n) <;> rfl

end ReportFilter
