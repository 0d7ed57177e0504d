/-
# Failures

Why an operation fails. A failure is one of a few kinds, and a caller that is
prepared for a kind is prepared for every kind under it. Failures of the filter
layer itself carry a notice: a message that may be shown to a user, details
for a log, and the cause when another failure led to it.

Key definitions: `Failure`, `Failure.kind`, `Kind.isA`.
-/
import ReportFilter.Value

namespace ReportFilter

/-- The kinds of failure. -/
inductive Kind where
  /-- Any failure of the filter layer itself. -/
  | operator
  /-- No operator has the name. -/
  | operatorNotFound
  /-- A validator rejects a value. -/
  | validation
  /-- A value is no date. -/
  | invalidDate
  /-- A value is no number. -/
  | invalidNumber
  /-- No validator has the name. -/
  | unknownValidator
  /-- Something that was looked up is missing. -/
  | lookup
  /-- A value is out of the set that is asked for. -/
  | value
  /-- A value is of the wrong type, or there are too many or too few of them. -/
  | type
  /-- A date is out of the calendar, or a count is out of range. -/
  | overflow
  /-- No slot has the name. -/
  | key
  /-- There is no such position. -/
  | index
  /-- A text has no such part. -/
  | attribute
  /-- Delegation never ends. -/
  | recursion
  /-- A decimal number has no result. -/
  | invalidOperation
  /-- A text would be too long. -/
  | memory
  deriving DecidableEq, Repr

namespace Kind

/-- The kinds that a kind is directly under. -/
def parents : Kind → List Kind
  | operatorNotFound => [operator, lookup]
  | validation => [operator, value]
  | invalidDate => [validation]
  | invalidNumber => [validation]
  | unknownValidator => [operator]
  | key => [lookup]
  | index => [lookup]
  | _ => []

/-- The kinds that a kind is under, itself included. -/
def ancestors (k : Kind) : List Kind :=
  k :: k.parents ++ k.parents.flatMap parents

/-- Whether a caller that is prepared for `other` is prepared for `k`. -/
def isA (k other : Kind) : Bool := k.ancestors.contains other

/-- The kinds of failure of the filter layer, and the two general kinds that
some of them are under. -/
def general : List Kind :=
  [operator, operatorNotFound, validation, invalidDate, invalidNumber, unknownValidator,
    lookup, value]

end Kind

/-- Why an operation fails. -/
inductive Failure where
  /-- No operator has the name. -/
  | unknownOperator (name : Value)
  /-- The operator that this one delegates to has not been linked. -/
  | unlinked (operator : String) (delegate : Option String)
  /-- No validator has the name; these are the ones there are. -/
  | unknownValidator (name : String) (available : List String)
  /-- The value does not read as a date. -/
  | invalidDate (value : Value)
  /-- The text does not read as a number. -/
  | invalidNumber (text : String)
  /-- A validator refuses that many values. -/
  | rejected (count : Nat)
  /-- No dialect has the name. -/
  | unknownDialect (name : Value)
  /-- A behavior is given more or fewer values than it takes. -/
  | valueCount
  /-- There is no setting or option of the name. -/
  | unknownOption
  /-- An operator is compared with something that is none. -/
  | incomparable
  /-- A value that days are counted or worked out from is not a number. -/
  | notANumber
  /-- A number of days is in double precision but no number. -/
  | undefinedDays
  /-- An operation on a decimal number has no result. -/
  | decimalOperation
  /-- A signaling NaN is looked up, which equals nothing. -/
  | unsearchable
  /-- A text does not read as a value of the kind that it is handed over as. -/
  | unreadable
  /-- An integer has too many digits for its text. -/
  | tooManyDigits
  /-- A date or a span of days is out of range. -/
  | outOfCalendar
  /-- A count is out of range. -/
  | outOfRange
  /-- A text would be too long. -/
  | outOfMemory
  /-- A fragment's slots and its arguments do not match in number or kind. -/
  | fragmentArguments
  /-- A fragment has a malformed slot. -/
  | fragmentSlot
  /-- An operator has no template. -/
  | noTemplate
  /-- A template is malformed. -/
  | template
  /-- A template has a slot of an unknown name. -/
  | slotName
  /-- A template has a slot at a position, or asks for a character behind a
  text's end. -/
  | slotPosition
  /-- A template asks for a part of a text by name. -/
  | slotPart
  /-- A template asks for an item of a text by name, or of what has no items. -/
  | slotItem
  /-- A template asks for a layout of what is no text. -/
  | slotLayout
  /-- Operators delegate to each other in a circle, or too far. -/
  | endlessDelegation
  deriving DecidableEq, Repr

/-- The kind of a failure. -/
def Failure.kind : Failure → Kind
  | unknownOperator _ => .operatorNotFound
  | unlinked .. => .operator
  | unknownValidator .. => .unknownValidator
  | invalidDate _ => .invalidDate
  | invalidNumber _ => .invalidNumber
  | rejected _ => .validation
  | unknownDialect _ | unreadable | tooManyDigits | undefinedDays | fragmentSlot
  | template => .value
  | valueCount | unknownOption | incomparable | notANumber | unsearchable | fragmentArguments
  | noTemplate | slotItem | slotLayout => .type
  | outOfCalendar | outOfRange => .overflow
  | decimalOperation => .invalidOperation
  | outOfMemory => .memory
  | slotName => .key
  | slotPosition => .index
  | slotPart => .attribute
  | endlessDelegation => .recursion

theorem exists_of_bind_eq_ok {α β : Type} {x : Except Failure α} {f : α → Except Failure β}
    {b : β} (h : (x >>= f) = .ok b) : ∃ a, x = .ok a ∧ f a = .ok b := by
  cases x with
  | error e => cases h
  | ok a => exact ⟨a, rfl, h⟩

end ReportFilter
