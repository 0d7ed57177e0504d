/-
# What behaviors decide

A behavior decides from the operator, the values, today's date and the first
day of the week, and not from what a query already holds. Of the field it needs
to know only what a template shows.

Key definitions: `Situation`, `Behavior.decide`.
Key theorem: `Behavior.decide_of_not_accepts`.
-/
import ReportFilter.Amount
import ReportFilter.DateRange
import ReportFilter.LeadingInteger
import ReportFilter.Operator
import ReportFilter.Template
import ReportFilter.Text.Lowercase
import ReportFilter.WeekStart

namespace ReportFilter

/-- What a behavior knows besides field and values. -/
structure Situation where
  operator : Operator
  today : Date
  weekStart : Except Failure Value

namespace Situation

/-- The operator's template with the first value. A template without a slot
for the value takes none, and its text is not filled. -/
def decideTemplate (s : Situation) (field : String) (values : List Value) :
    Except Failure Decision :=
  match s.operator.template with
  | none => .error .noTemplate
  | some template =>
    if Template.hasSlot template "value" then do
      let fragment ← Template.render template
        [("field", Fragment.escape field), ("op", s.operator.comparison), ("value", "%s")]
      .ok (.append (.stated ⟨fragment, [values.headD (.text "")]⟩))
    else do
      let predicate ← Template.render template [("field", field), ("op", s.operator.comparison)]
      .ok (.append (.stated ⟨predicate, []⟩))

/-- The week of today, moved back by a number of days: from its first midnight
to the midnight after it. -/
def decideThisWeek (s : Situation) (values : List Value) : Except Failure Decision := do
  let first ← s.today.weekBeginning (← s.weekStart)
  let offset ← LeadingInteger.ofValue (values.headD .none)
  let start ← first.plusDays (-offset)
  let _ ← s.operator.linked
  let stop ← start.plusDays 7
  .ok (.handOver false [.timestamp (.beginningOfDay start), .timestamp (.beginningOfDay stop)])

/-- A date for the delegate; a blank value asks for nothing. -/
def decideOnDate (s : Situation) (value : Value) : Except Failure Decision := do
  if ← value.isBlank then .ok .skip
  else
    let _ ← s.operator.linked
    let moment ← DateInput.read value
    .ok (.handOver false [moment.toValue])

/-- Between two dates; a blank one asks for nothing. -/
def decideBetween (first last : Value) : Except Failure Decision := do
  if ← first.isBlank then .ok .skip
  else if ← last.isBlank then .ok .skip
  else
    let a ← DateInput.read first
    let b ← DateInput.read last
    .ok (.append (.between a b))

/-- One of the values that are there; without any, nothing matches. -/
def decideEquals (values : List Value) : Decision :=
  let values := values.filter (· ≠ .none)
  .append (if values = [] then .never else .oneOf values)

/-- None of the values that are not blank; without any, a value is missing. -/
def decideNotEquals (values : List Value) : Except Failure Decision := do
  let values ← compact values
  .ok (.append (if values = [] then .missing else .noneOf values))

/-- The lower case of the text to search for, which is empty without value. -/
def searchText (values : List Value) : Except Failure String := do
  let text ← match values.headD .none with
    | .none => .ok ""
    | v => v.plain
  .ok (String.ofList (Text.lower text.toList))

/-- The values handed to the delegate. -/
def decideForward (s : Situation) (validated : Bool) (values : List Value) :
    Except Failure Decision := do
  let _ ← s.operator.linked
  .ok (.handOver validated values)

end Situation

/-- What a behavior decides. Calls with too few or too many values are not
accepted; behaviors that may be called without a value take it for missing. -/
def Behavior.decide (b : Behavior) (s : Situation) (field : String) (values : List Value) :
    Decision :=
  if !b.accepts values.length then .fail .valueCount
  else
    let value := values.headD .none
    let days (range : Int → Option Int × Option Int) : Decision :=
      .ofExcept ((LeadingInteger.ofValue value).map fun n =>
        DateRange.decide s.today (range n).1 (range n).2)
    match b with
    | template => .ofExcept (s.decideTemplate field values)
    | today => DateRange.decide s.today (some 0) (some 0)
    | ago => days fun n => (some (-n), some (-n))
    | inDays => days fun n => (some n, some n)
    | moreThanAgo => days fun n => (none, some (-n))
    | lessThanAgo => days fun n => (some (-n), some 0)
    | inLessThan => days fun n => (some 0, some n)
    | inMoreThan => days fun n => (some n, none)
    | thisWeek => .ofExcept (s.decideThisWeek values)
    | onDate => .ofExcept (s.decideOnDate value)
    | between => .ofExcept (Situation.decideBetween value (values.getD 1 .none))
    | equals => Situation.decideEquals values
    | notEquals => .ofExcept (Situation.decideNotEquals values)
    | numericEquals => .ofExcept ((Amount.ofValue value).map fun d => .append (.amount d))
    | contains => .ofExcept ((Situation.searchText values).map fun s => .append (.contains s))
    | notContains => .ofExcept ((Situation.searchText values).map fun s => .append (.lacks s))
    | alwaysTrue => .append .always
    | forward => .ofExcept (s.decideForward false values)
    | forwardAll => .ofExcept (s.decideForward true values)

/-- A wrong number of values is a failure before anything else. -/
theorem Behavior.decide_of_not_accepts {b : Behavior} {values : List Value}
    (h : b.accepts values.length = false) (s : Situation) (field : String) :
    b.decide s field values = .fail .valueCount := by
  simp [Behavior.decide, h]

end ReportFilter
