/-
# Spans of time

A span of time is a whole number of microseconds. A span of whole days is
exact. Where days are given in double precision, the whole ones count exactly,
and what is left of a day is multiplied out in double precision and rounded to
a microsecond.

A timestamp moves by the whole span, a date only by its days.

Key definitions: `TimeSpan`, `TimeSpan.ofDays`, `TimeSpan.ofDays?`,
`TimeSpan.ofFraction?`, `TimeSpan.days`, `Timestamp.plus?`.
Key theorems: `TimeSpan.days_ofDays`, `Date.addDays?_of_span`,
`Timestamp.plus?_ofDays`.
-/
import ReportFilter.Binary64
import ReportFilter.Calendar.Timestamp

namespace ReportFilter

/-- A span of time, which may be negative. -/
structure TimeSpan where
  microseconds : Int
  deriving DecidableEq, Repr

namespace TimeSpan

/-- The microseconds of a day. -/
def perDay : Nat := 86400000000

/-- A number of days. -/
def ofDays (n : Int) : TimeSpan := ⟨n * perDay⟩

/-- The days of a span, without what is left of a day. -/
def days (s : TimeSpan) : Int := s.microseconds / perDay

/-- The most days of a span. -/
def dayLimit : Nat := 999999999

/-- A number of days, if it is within the limit. -/
def ofDays? (n : Int) : Option TimeSpan :=
  if n.natAbs ≤ dayLimit then some (ofDays n) else none

/-- A span with the opposite direction. -/
def neg (s : TimeSpan) : TimeSpan := ⟨-s.microseconds⟩

/-- The microseconds of a part `num / den` of a day. -/
def ofDayPart (num den : Nat) : Nat :=
  match Binary64.ofRatio false (perDay * num) den with
  | .finite _ m e =>
    roundedQuotient (m * Binary64.twoTo e.toNat) (Binary64.twoTo (-e).toNat)
  | _ => 0

/-- A number of days in double precision, if it is within the limit. -/
def ofFraction? (negative : Bool) (significand : Nat) (exponent : Int) : Option TimeSpan :=
  let num := significand * Binary64.twoTo exponent.toNat
  let den := Binary64.twoTo (-exponent).toNat
  let n : Int := num / den * perDay + ofDayPart (num % den) den
  let s : TimeSpan := ⟨if negative then -n else n⟩
  if s.days.natAbs ≤ dayLimit then some s else none

@[simp] theorem days_ofDays (n : Int) : (ofDays n).days = n := by
  simp only [ofDays, days, perDay]
  omega

end TimeSpan

/-- A span has room for more days than the calendar has: what is beyond its limit
is out of the calendar from every date. -/
theorem Date.addDays?_of_span (d : Date) (n : Int) :
    (TimeSpan.ofDays? n).bind (fun s => d.addDays? s.days) = d.addDays? n := by
  unfold TimeSpan.ofDays?
  split
  · rw [Option.bind_some, TimeSpan.days_ofDays]
  · next hlimit =>
    have hpos := d.ordinal_pos
    have hle := d.ordinal_le
    have hout : ¬ (1 ≤ (d.ordinal : Int) + n ∧ (d.ordinal : Int) + n ≤ Date.lastOrdinal) := by
      unfold TimeSpan.dayLimit at hlimit
      unfold Date.lastOrdinal at hle ⊢
      omega
    rw [Option.bind_none, addDays?, ofOrdinal?, if_neg hout]

namespace TimeOfDay

/-- The time of day some microseconds after midnight. -/
def ofMicroseconds (n : Nat) (h : n < TimeSpan.perDay) : TimeOfDay where
  hour := n / 3600000000
  minute := n / 60000000 % 60
  second := n / 1000000 % 60
  microsecond := n % 1000000
  hour_lt := by simp only [TimeSpan.perDay] at h; omega
  minute_lt := by omega
  second_lt := by omega
  microsecond_lt := by omega

/-- A time of day is known by its microseconds since midnight. -/
theorem ofMicroseconds_sinceMidnight (t : TimeOfDay) (h : t.sinceMidnight < TimeSpan.perDay) :
    ofMicroseconds t.sinceMidnight h = t := by
  obtain ⟨hour, minute, second, microsecond, h1, h2, h3, h4⟩ := t
  simp only [ofMicroseconds, sinceMidnight, mk.injEq]
  omega

theorem sinceMidnight_lt (t : TimeOfDay) : t.sinceMidnight < TimeSpan.perDay := by
  have := t.hour_lt
  have := t.minute_lt
  have := t.second_lt
  have := t.microsecond_lt
  simp only [sinceMidnight, TimeSpan.perDay]
  omega

end TimeOfDay

namespace Timestamp

/-- The timestamp a span later, if the calendar has its date. -/
def plus? (t : Timestamp) (s : TimeSpan) : Option Timestamp :=
  let n : Int := t.time.sinceMidnight + s.microseconds
  (t.date.addDays? (n / TimeSpan.perDay)).map fun d =>
    { t with
      date := d
      time := .ofMicroseconds (n % TimeSpan.perDay).toNat (by simp only [TimeSpan.perDay]; omega) }

/-- A span of whole days moves the date alone. -/
theorem plus?_ofDays (t : Timestamp) (n : Int) : t.plus? (.ofDays n) = t.addDays? n := by
  have h := t.time.sinceMidnight_lt
  have hq : ((t.time.sinceMidnight : Int) + (TimeSpan.ofDays n).microseconds) / TimeSpan.perDay
      = n := by
    simp only [TimeSpan.ofDays, TimeSpan.perDay] at *
    omega
  have hr : (((t.time.sinceMidnight : Int) + (TimeSpan.ofDays n).microseconds) %
      TimeSpan.perDay).toNat = t.time.sinceMidnight := by
    simp only [TimeSpan.ofDays, TimeSpan.perDay] at *
    omega
  simp only [plus?, addDays?, hq, hr, t.time.ofMicroseconds_sinceMidnight]

end Timestamp
end ReportFilter
