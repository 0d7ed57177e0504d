/-
# Dates and timestamps read

The ISO 8601 forms: a calendar date (`YYYY-MM-DD`, `YYYYMMDD`) or a day of a
numbered week (`YYYY-Www-D`, `YYYYWwwD`, and without the day for its Monday),
then for a timestamp one separator of any kind, a time of two to six digits
with or without colons, a fraction, and an offset or `Z`.

Lengths and positions are counted in octets of UTF-8. `octets` gives a
character as many places as it has octets, so that a position is an index.
Behind the last place a text reads as if it went on with `NUL`.

Key definitions: `Date.readIso?`, `Timestamp.readIso?`.
-/
import ReportFilter.Calendar.Timestamp
import ReportFilter.Calendar.Week
import ReportFilter.Decimal

namespace ReportFilter
namespace Iso

/-- The character that a text ends with, and goes on with behind its end. -/
def nul : Char := '\x00'

/-- A text with one place for each octet: a character of several octets is
followed by fillers, which are neither digits nor marks. -/
def octets (s : List Char) : List Char :=
  s.flatMap fun c => c :: List.replicate (c.utf8Size - 1) '\uFFFF'

/-- A number of exactly `count` ASCII digits, added to the digits `value`
before it, and the text after it. -/
def takeNumber : (count value : Nat) → List Char → Option (Nat × List Char)
  | 0, value, s => some (value, s)
  | _ + 1, _, [] => none
  | count + 1, value, c :: s =>
    if c.isDigit then takeNumber count (10 * value + (c.toNat - '0'.toNat)) s else none

/-- A text without the hyphen that it has to start with when `dashed`. -/
def dropHyphen? (dashed : Bool) : List Char → Option (List Char)
  | c :: s => if dashed then (if c = '-' then some s else none) else some (c :: s)
  | [] => if dashed then none else some []

/-! ### Dates -/

/-- A day of a numbered week, after the `W`. The day is read when the week
ends before the date's `length`; `start` is where the week number starts. -/
def readWeek? (year : Nat) (dashed : Bool) (start length : Nat) (s : List Char) :
    Option Date := do
  let (week, s) ← takeNumber 2 0 s
  if start + 2 < length then
    let s ← dropHyphen? dashed s
    let (day, _) ← takeNumber 1 0 s
    Date.ofWeek? year week day
  else Date.ofWeek? year week 1

/-- The date that a text starts with, where the date is `length` long. What
comes after the last digit that is needed is not looked at. -/
def readDate? (length : Nat) (s : List Char) : Option Date := do
  let (year, s) ← takeNumber 4 0 s
  let dashed := s.head? = some '-'
  let s := if dashed then s.drop 1 else s
  match s with
  | 'W' :: s => readWeek? year dashed (if dashed then 6 else 5) length s
  | s =>
    let (month, s) ← takeNumber 2 0 s
    let s ← dropHyphen? dashed s
    let (day, _) ← takeNumber 2 0 s
    Date.ofParts? year month day

/-! ### Times -/

/-- A fraction of a second in microseconds: up to six digits count, and more
are skipped. The flag tells that nothing follows. -/
def readFraction? (s : List Char) : Option (Nat × Bool) := do
  let count := min 6 s.length
  let (value, s) ← takeNumber count 0 s
  some (value * Decimal.tenTo (6 - count), (s.dropWhile Char.isDigit).headD nul == nul)

/-- Parts of two digits, as many as are left of three, with the microseconds
after them and a flag that tells that nothing follows. All parts are divided
by colons or none is, as the first shows; a point or a comma starts the
fraction early. -/
def readParts? : (left : Nat) → (colons : Option Bool) → List Char →
    Option (List Nat × Nat × Bool)
  | 0, _, s => do
    let (fraction, ended) ← readFraction? s
    some ([], fraction, ended)
  | left + 1, colons, s => do
    let (part, s) ← takeNumber 2 0 s
    match s with
    | [] => some ([part], 0, true)
    | [c] => some ([part], 0, c == nul)
    | c :: more =>
      let colons := colons.getD (c == ':')
      if colons && c == ':' then
        let (parts, rest) ← readParts? left (some colons) more
        some (part :: parts, rest)
      else if c == '.' || c == ',' then
        let (fraction, ended) ← readFraction? more
        some ([part], fraction, ended)
      else if !colons then
        let (parts, rest) ← readParts? left (some colons) (c :: more)
        some (part :: parts, rest)
      else none

/-- Hours, minutes, seconds and microseconds, and a flag that tells that
nothing follows. Parts that are not written are zero. -/
def readClock? (s : List Char) : Option ((Nat × Nat × Nat × Nat) × Bool) := do
  let (parts, fraction, ended) ← readParts? 3 none s
  some ((parts.getD 0 0, parts.getD 1 0, parts.getD 2 0, fraction), ended)

/-- Whether a character starts the offset. -/
def isZoneMark (c : Char) : Bool := c == '+' || c == '-' || c == 'Z'

/-- The offset after its mark. One of less than a second is none at all. -/
def readOffset? (mark : Char) (s : List Char) : Option UtcOffset :=
  if mark = 'Z' then (if s.headD nul = nul then some .zero else none)
  else
    match readClock? s with
    | some ((hour, minute, second, fraction), true) =>
      let seconds := hour * 3600 + minute * 60 + second
      let n : Nat := if seconds = 0 then 0 else seconds * 1000000 + fraction
      UtcOffset.ofMicroseconds? (if mark = '-' then -n else n)
    | _ => none

/-- A time of day and its offset. Before an offset the time may be followed by
anything; without offset it has to be the end. -/
def readTime? (s : List Char) : Option (TimeOfDay × Option UtcOffset) := do
  let ((hour, minute, second, fraction), ended) ← readClock? (s.takeWhile (!isZoneMark ·))
  let offset ← match s.dropWhile (!isZoneMark ·) with
    | [] => if ended then some none else none
    | mark :: zone => (readOffset? mark zone).map some
  let time ← TimeOfDay.ofParts? hour minute second fraction
  some (time, offset)

/-! ### Timestamps -/

/-- Whether the text has a digit at a position. -/
def digitAt (s : List Char) (i : Nat) : Bool := (s[i]?.map Char.isDigit).getD false

/-- The length of the date at the start of a timestamp. A hyphen after
`YYYY-Www` divides week and day unless a digit stands two places further: then
it is the separator. After `YYYYWww` an even count of digits is read as a time
without separator mark. -/
def dateLength? (s : List Char) : Option Nat :=
  let n := s.length
  if n = 7 then some 7
  else if s[4]? = some '-' then
    if s[5]? = some 'W' then
      if s[8]? = some '-' then
        if n = 9 then none else if digitAt s 10 then some 8 else some 10
      else some 8
    else some 10
  else if s[4]? = some 'W' then
    let stop := 7 + ((s.drop 7).takeWhile Char.isDigit).length
    if stop < 9 then some stop else if stop % 2 = 0 then some 7 else some 8
  else some 8

/-- A timestamp in places. -/
def readTimestamp? (s : List Char) : Option Timestamp := do
  let length ← dateLength? s
  let date ← readDate? length s
  match s.drop length with
  | [] => some (.beginningOfDay date)
  | separator :: rest =>
    let (time, offset) ← readTime? (rest.drop (separator.utf8Size - 1))
    some ⟨date, time, offset⟩

end Iso

/-- The date that a text of ten octets writes. -/
def Date.readIso? (s : List Char) : Option Date :=
  let s := Iso.octets s
  if s.length = 10 then Iso.readDate? 10 s else none

/-- The timestamp that a text writes; a date alone is its midnight. -/
def Timestamp.readIso? (s : List Char) : Option Timestamp := Iso.readTimestamp? (Iso.octets s)

end ReportFilter
