/-
# Dates given by users

A value is read as a date or a timestamp: these stand for themselves, and any
other value is read from its text, without white space around it, in an ISO
form. A text of ten characters is a date, any other is a timestamp.

Key definitions: `Moment`, `Moment.plus`, `DateInput.read`.
Key theorems: `Moment.plus_ofDays`, `DateInput.read_toValue`.
-/
import ReportFilter.Calendar.Reader
import ReportFilter.Calendar.TimeSpan
import ReportFilter.Calendar.Week
import ReportFilter.Value.Printer

namespace ReportFilter

/-- A date or a timestamp. -/
inductive Moment where
  | date (d : Date)
  | timestamp (t : Timestamp)
  deriving DecidableEq, Repr

namespace Moment

/-- A moment as a value. -/
def toValue : Moment → Value
  | date d => .date d
  | timestamp t => .timestamp t

/-- The moment that a value is. -/
def ofValue? : Value → Option Moment
  | .date d => some (date d)
  | .timestamp t => some (timestamp t)
  | _ => none

/-- The date of a moment. -/
def day : Moment → Date
  | date d => d
  | timestamp t => t.date

/-- The moment a number of days later. -/
def addDays : Moment → Int → Except Failure Moment
  | date d, n => match d.addDays? n with
    | some d => .ok (date d)
    | none => .error .outOfCalendar
  | timestamp t, n => match t.addDays? n with
    | some t => .ok (timestamp t)
    | none => .error .outOfCalendar

/-- The moment a span later. A date moves by the days of the span alone. -/
def plus : Moment → TimeSpan → Except Failure Moment
  | date d, s => (date d).addDays s.days
  | timestamp t, s => match t.plus? s with
    | some t => .ok (timestamp t)
    | none => .error .outOfCalendar

/-- The moment a span earlier. -/
def minus : Moment → TimeSpan → Except Failure Moment
  | date d, s => (date d).addDays (-s.days)
  | timestamp t, s => (timestamp t).plus s.neg

/-- A span of whole days moves a moment by these days. -/
theorem plus_ofDays (m : Moment) (n : Int) : m.plus (.ofDays n) = m.addDays n := by
  cases m with
  | date d => simp [plus]
  | timestamp t => simp [plus, addDays, Timestamp.plus?_ofDays]

/-- The moment as many days earlier as its date is into its week. -/
def beginningOfWeek (m : Moment) (firstDay : Int) : Except Failure Moment :=
  m.addDays (-m.day.daysIntoWeek firstDay)

end Moment

/-- The date a number of days later. The days make a span first, which may have
too many of them. -/
def Date.plusDays (d : Date) (n : Int) : Except Failure Date :=
  match (TimeSpan.ofDays? n).bind fun s => d.addDays? s.days with
  | some e => .ok e
  | none => .error .outOfCalendar

namespace DateInput

/-- The moment that a text writes. -/
def readText? (s : List Char) : Option Moment :=
  let s := Text.trim s
  if s.length = 10 then (Date.readIso? s).map .date else (Timestamp.readIso? s).map .timestamp

/-- The moment that a value is or writes. -/
def read (v : Value) : Except Failure Moment :=
  match Moment.ofValue? v with
  | some m => .ok m
  | none => do
    match readText? (← v.plain).toList with
    | some m => .ok m
    | none => .error (.invalidDate v)

/-- Dates and timestamps stand for themselves. -/
theorem read_toValue (m : Moment) : read m.toValue = .ok m := by
  cases m <;> rfl

end DateInput
end ReportFilter
