/-
# Behaviors

What an operator does with a field and its values. Most behaviors append
predicates; those that forward hand values to the operator that theirs
delegates to.

Key definitions: `Behavior`, `Behavior.signature`, `Behavior.accepts`.
-/
import ReportFilter.Signature

namespace ReportFilter

/-- A behavior. -/
inductive Behavior where
  /-- The operator's template with the first value. -/
  | template
  /-- Today. -/
  | today
  /-- The day a number of days ago. -/
  | ago
  /-- The day in a number of days. -/
  | inDays
  /-- Up to the day a number of days ago. -/
  | moreThanAgo
  /-- From the day a number of days ago up to today. -/
  | lessThanAgo
  /-- From today up to the day in a number of days. -/
  | inLessThan
  /-- From the day in a number of days on. -/
  | inMoreThan
  /-- The week of today, or one that many days earlier. -/
  | thisWeek
  /-- A date, handed to the delegate. -/
  | onDate
  /-- Between two dates. -/
  | between
  /-- One of the values. -/
  | equals
  /-- None of the values. -/
  | notEquals
  /-- An amount. -/
  | numericEquals
  /-- A text that contains the value. -/
  | contains
  /-- A text that does not contain the value. -/
  | notContains
  /-- A predicate that is always true. -/
  | alwaysTrue
  /-- The value handed to the delegate. -/
  | forward
  /-- At least one value, all handed to the delegate, whose validators see them
  first. -/
  | forwardAll
  deriving DecidableEq, Repr

namespace Behavior

/-- The parameters that take values. -/
def valueParameters : Behavior → List Parameter
  | today => []
  | ago | inDays | thisWeek => [.optional]
  | moreThanAgo | lessThanAgo | inLessThan | inMoreThan | onDate | numericEquals | forward =>
    [.required]
  | between => [.required, .required]
  | template | equals | notEquals | contains | notContains | alwaysTrue => [.rest]
  | forwardAll => [.required, .rest]

/-- The parameters of a behavior. -/
def signature (b : Behavior) : List Parameter := Signature.ofValues b.valueParameters

/-- The arity of a behavior. -/
def arity (b : Behavior) : Int := Signature.arity b.signature

/-- Whether a behavior can be called with that many values. -/
def accepts (b : Behavior) (count : Nat) : Bool := Signature.accepts b.signature count

/-- Whether a behavior asks for the first day of the week. -/
def readsSettings (b : Behavior) : Bool := b = thisWeek

end Behavior
end ReportFilter
