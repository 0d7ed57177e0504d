/-
# Notices

What a failure of the filter layer tells: a message without internals, which a
user may see, details for a log, and the failure that led to it.

Key definitions: `Notice`, `Failure.notice?`.
Key theorem: `Failure.notice?_isSome_iff`.
-/
import ReportFilter.Value.Printer

namespace ReportFilter

/-- A failure that led to another. -/
inductive Cause where
  | value
  | invalidOperation
  deriving DecidableEq, Repr

/-- What a failure of the filter layer tells. -/
structure Notice where
  kind : Kind
  message : String
  details : String
  cause : Option Cause
  deriving DecidableEq, Repr

/-- A notice; without details the message serves as details. -/
def Notice.create (kind : Kind) (message details : String) (cause : Option Cause) : Notice :=
  ⟨kind, message, if details = "" then message else details, cause⟩

/-- Names in one line. -/
def listed (names : List String) : String := ", ".intercalate names

namespace Failure

/-- The notice of a failure of the filter layer. -/
def notice? : Failure → Option Notice
  | unknownOperator name =>
    some (.create .operatorNotFound "operator not defined"
      ("Operator " ++ name.shown ++ " not defined") none)
  | unlinked operator delegate =>
    some (.create .operator "operator is not ready"
      ("operator " ++ shownText operator ++ " delegates to " ++
        (delegate.elim "None" shownText) ++ ", which has not been linked") none)
  | unknownValidator name available =>
    some (.create .unknownValidator "unknown validator"
      ("validator " ++ shownText name ++ " is not registered. Available: " ++ listed available)
      none)
  | invalidDate value =>
    some (.create .invalidDate "invalid date value"
      ("cannot read a date from " ++ value.shown) (some .value))
  | invalidNumber text =>
    some (.create .invalidNumber "invalid numeric value"
      ("cannot read a number from " ++ shownText text) (some .invalidOperation))
  | rejected count =>
    some (.create .validation "rejected" (toString count ++ " values rejected") none)
  | _ => none

/-- A failure has a notice exactly when it is one of the filter layer. -/
theorem notice?_isSome_iff (f : Failure) :
    f.notice?.isSome = true ↔ f.kind.isA .operator = true := by
  cases f <;> simp [notice?, kind] <;> decide

end Failure
end ReportFilter
