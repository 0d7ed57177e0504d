/-
# Amounts of money

An amount as people write it, with a currency, groups of digits and either
decimal mark, read as a decimal number. Everything but digits, points, commas
and minus signs is noise. If both marks appear, the last one is the decimal
mark and the other one groups. A comma alone is the decimal mark when it
appears once with one or two digits after it, and groups otherwise; points
alone never group.

Key definitions: `Amount.normalized`, `Amount.read`, `Amount.ofValue`.
-/
import ReportFilter.Decimal.Reader
import ReportFilter.Value.Printer

namespace ReportFilter
namespace Amount

/-- Whether a character of an amount is more than noise. -/
def isSignificant (c : Char) : Bool := Text.isDigit c || c == '.' || c == ',' || c == '-'

/-- A text with points for its commas. -/
def pointed (s : List Char) : List Char := s.map fun c => if c = ',' then '.' else c

/-- A text without one of its characters. -/
def without (mark : Char) (s : List Char) : List Char := s.filter (· != mark)

/-- The last point or comma of a text. -/
def lastMark? (s : List Char) : Option Char := s.reverse.find? fun c => c == '.' || c == ','

/-- An amount with a point for its decimal mark and no groups. -/
def normalized (s : List Char) : List Char :=
  if s.contains ',' then
    if s.contains '.' then
      if lastMark? s = some ',' then pointed (without '.' s) else without ',' s
    else
      let tail := s.reverse.takeWhile (· != ',')
      if s.count ',' = 1 ∧ 1 ≤ tail.length ∧ tail.length ≤ 2 then pointed s else without ',' s
  else s

/-- The number that a text writes. -/
def read (s : String) : Except Failure Decimal :=
  match Decimal.read? (normalized (s.toList.filter isSignificant)) with
  | some d => .ok d
  | none => .error (.invalidNumber s)

/-- The number that a value is or writes. A double precision number is the
decimal number that its shortest text writes. -/
def ofValue : Value → Except Failure Decimal
  | .bool b => .ok (.ofInt (if b then 1 else 0))
  | .int n => .ok (.ofInt n)
  | .decimal d => .ok d
  | .float x =>
    match Decimal.read? x.print with
    | some d => .ok d
    | none => .error (.invalidNumber (String.ofList x.print))
  | .none => read ""
  | v => do read (← v.plain)

end Amount
end ReportFilter
