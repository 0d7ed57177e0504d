/-
# Timestamps

A time of day to the microsecond, and a date with a time of day that may state
its offset from universal time. Moving a timestamp by days keeps the time and
the offset.

Key definitions: `TimeOfDay`, `UtcOffset`, `Timestamp`, `Timestamp.addDays?`.
-/
import ReportFilter.Calendar.Date

namespace ReportFilter

/-- A time of day. -/
structure TimeOfDay where
  hour : Nat
  minute : Nat
  second : Nat
  microsecond : Nat
  hour_lt : hour < 24
  minute_lt : minute < 60
  second_lt : second < 60
  microsecond_lt : microsecond < 1000000
  deriving DecidableEq, Repr

namespace TimeOfDay

/-- The time of day with the given parts, if there is one. -/
def ofParts? (hour minute second microsecond : Nat) : Option TimeOfDay :=
  if h : hour < 24 ∧ minute < 60 ∧ second < 60 ∧ microsecond < 1000000 then
    some ⟨hour, minute, second, microsecond, h.1, h.2.1, h.2.2.1, h.2.2.2⟩
  else none

theorem ofParts?_self (t : TimeOfDay) :
    ofParts? t.hour t.minute t.second t.microsecond = some t := by
  simp [ofParts?, t.hour_lt, t.minute_lt, t.second_lt, t.microsecond_lt]

/-- The first moment of a day. -/
def midnight : TimeOfDay := ⟨0, 0, 0, 0, by decide, by decide, by decide, by decide⟩

/-- The last whole second of a day. -/
def lastSecond : TimeOfDay := ⟨23, 59, 59, 0, by decide, by decide, by decide, by decide⟩

/-- The microseconds since midnight. -/
def sinceMidnight (t : TimeOfDay) : Nat :=
  ((t.hour * 60 + t.minute) * 60 + t.second) * 1000000 + t.microsecond

end TimeOfDay

/-- An offset from universal time of less than a day, positive to the east. -/
structure UtcOffset where
  microseconds : Int
  lt_day : microseconds.natAbs < 86400000000
  deriving DecidableEq, Repr

namespace UtcOffset

/-- Universal time itself. -/
def zero : UtcOffset := ⟨0, by decide⟩

/-- The offset of a number of microseconds, if it is less than a day. -/
def ofMicroseconds? (n : Int) : Option UtcOffset :=
  if h : n.natAbs < 86400000000 then some ⟨n, h⟩ else none

end UtcOffset

/-- A date with a time of day, with or without an offset. -/
structure Timestamp where
  date : Date
  time : TimeOfDay
  offset : Option UtcOffset
  deriving DecidableEq, Repr

namespace Timestamp

/-- The first moment of a date, without offset. -/
def beginningOfDay (d : Date) : Timestamp := ⟨d, .midnight, none⟩

/-- The last second of a date, without offset. -/
def endOfDay (d : Date) : Timestamp := ⟨d, .lastSecond, none⟩

/-- The timestamp a number of days later, if the calendar has its date. -/
def addDays? (t : Timestamp) (days : Int) : Option Timestamp :=
  (t.date.addDays? days).map fun d => { t with date := d }

/-- The microseconds since the start of 0001-01-01, by the clock that the
timestamp was read from. -/
def sinceStart (t : Timestamp) : Nat :=
  (t.date.ordinal - 1) * 86400000000 + t.time.sinceMidnight

end Timestamp
end ReportFilter
