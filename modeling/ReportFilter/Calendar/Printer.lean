/-
# Dates and timestamps in writing

Three forms: the ISO form, the form that a database reads in a literal, and
the form in which a message shows a value. The ISO form of a timestamp shows
microseconds and seconds of the offset only when they are not zero. The
database form has neither fraction nor offset, and writes the year without
zeros in front.

Key definitions: `Date.iso`, `Timestamp.iso`, `Date.literalText`,
`Timestamp.literalText`, `Date.shown`, `Timestamp.shown`.
-/
import ReportFilter.Calendar.Timestamp
import ReportFilter.Text.Numeral

namespace ReportFilter

open Text (numeral padded)

namespace Date

/-- `YYYY-MM-DD`. -/
def iso (d : Date) : List Char :=
  padded 4 d.year ++ '-' :: padded 2 d.month ++ '-' :: padded 2 d.day

/-- The form that a database reads: the ISO form without zeros before the year. -/
def literalText (d : Date) : List Char :=
  numeral d.year ++ '-' :: padded 2 d.month ++ '-' :: padded 2 d.day

end Date

namespace TimeOfDay

/-- `HH:MM:SS`. -/
def toSeconds (t : TimeOfDay) : List Char :=
  padded 2 t.hour ++ ':' :: padded 2 t.minute ++ ':' :: padded 2 t.second

/-- A fraction of a second in microseconds, if there is one. -/
def fraction (microsecond : Nat) : List Char :=
  if microsecond = 0 then [] else '.' :: padded 6 microsecond

/-- `HH:MM:SS[.ffffff]`. -/
def iso (t : TimeOfDay) : List Char := t.toSeconds ++ fraction t.microsecond

end TimeOfDay

namespace UtcOffset

/-- `+HH:MM[:SS[.ffffff]]`. -/
def iso (o : UtcOffset) : List Char :=
  let n := o.microseconds.natAbs
  let seconds := n / 1000000
  (if o.microseconds < 0 then '-' else '+') ::
    padded 2 (seconds / 3600) ++ ':' :: padded 2 (seconds / 60 % 60) ++
      if n % 60000000 = 0 then []
      else ':' :: padded 2 (seconds % 60) ++ TimeOfDay.fraction (n % 1000000)

end UtcOffset

namespace Timestamp

/-- The ISO form, with the given character between date and time. -/
def iso (separator : Char) (t : Timestamp) : List Char :=
  t.date.iso ++ separator :: t.time.iso ++
    match t.offset with
    | none => []
    | some o => o.iso

/-- The form that a database reads, to the second. -/
def literalText (t : Timestamp) : List Char :=
  t.date.literalText ++ ' ' :: t.time.toSeconds

end Timestamp

/-! ### In messages -/

/-- A constructor with its arguments. -/
def shownCall (name : String) (arguments : List (List Char)) : List Char :=
  name.toList ++ '(' :: (", ".toList).intercalate arguments ++ [')']

/-- A date in a message. -/
def Date.shown (d : Date) : List Char :=
  shownCall "datetime.date" [numeral d.year, numeral d.month, numeral d.day]

/-- An offset in a message: days, seconds and microseconds that are not zero,
only the days negative. -/
def UtcOffset.shown (o : UtcOffset) : List Char :=
  if o.microseconds = 0 then "datetime.timezone.utc".toList
  else
    let days := if o.microseconds < 0 then ["days=-1".toList] else []
    let n := (o.microseconds % 86400000000).toNat
    let seconds := if n / 1000000 = 0 then [] else ["seconds=".toList ++ numeral (n / 1000000)]
    let rest := n % 1000000
    let microseconds := if rest = 0 then [] else ["microseconds=".toList ++ numeral rest]
    shownCall "datetime.timezone"
      [shownCall "datetime.timedelta" (days ++ seconds ++ microseconds)]

/-- A timestamp in a message: seconds and microseconds are left out from the
right while they are zero. -/
def Timestamp.shown (t : Timestamp) : List Char :=
  let seconds :=
    if t.time.microsecond ≠ 0 then [numeral t.time.second, numeral t.time.microsecond]
    else if t.time.second ≠ 0 then [numeral t.time.second]
    else []
  let zone := match t.offset with
    | none => []
    | some o => ["tzinfo=".toList ++ o.shown]
  shownCall "datetime.datetime"
    ([numeral t.date.year, numeral t.date.month, numeral t.date.day,
      numeral t.time.hour, numeral t.time.minute] ++ seconds ++ zone)

end ReportFilter
