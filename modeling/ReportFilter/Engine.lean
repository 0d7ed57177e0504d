/-
# The filter engine

The engine holds what filters work with: the operators, the validators and
their journal, the settings, and today's date. Applying an operator to a field
and values validates the values and then appends the predicates that its
behavior decides on; a behavior may hand values on to the operator that its
own is linked to, and so on.

A filter that fails leaves what it did before it failed: notes in the journal,
settings read, and predicates that were appended.

Key definitions: `Engine`, `Engine.validate`, `Engine.modify`, `Engine.apply`,
`Engine.applyFilter`, `Engine.buildFilter`.
-/
import ReportFilter.Catalogue
import ReportFilter.Settings
import ReportFilter.Situation

namespace ReportFilter

/-- What filters work with. -/
structure Engine where
  registry : Registry
  validators : Validators
  journal : Journal
  settings : SettingsStore
  today : Date

/-- An engine at work on a query. -/
structure Work where
  engine : Engine
  query : Query

/-- A finished filter: its condition, and the values of its bind parameters. -/
structure Result where
  sql : String
  parameters : List Value
  deriving DecidableEq, Repr

/-- The condition of a query and the values of its bind parameters. -/
def Query.build (q : Query) : Result := ⟨q.sql, q.parameters⟩

namespace Engine

/-- An engine with the built-in operators. -/
def standard (environment : Environment) (today : Date) : Engine :=
  ⟨.standard, .initial, [], .fresh environment, today⟩

/-- The engine after its settings have been read. -/
def readSettings (e : Engine) : Engine := { e with settings := e.settings.afterRead }

/-- The settings overridden. -/
def configure (e : Engine) (overrides : List (String × Value)) : Attempt Engine :=
  (e.settings.configure overrides).map fun s => { e with settings := s }

/-- The first day of the week in use. -/
def weekStart (e : Engine) : Except Failure Value := e.settings.current.weekStart

/-- An operator's validators run on the values. -/
def validate (e : Engine) (op : Operator) (values : List Value) : Attempt Engine :=
  (e.validators.run op.validators values e.journal).map fun j => { e with journal := j }

/-- What an operator's behavior knows. -/
def situation (e : Engine) (op : Operator) : Situation := ⟨op, e.today, e.weekStart⟩

/-- A new query in the dialect of the settings, which are read. -/
def newQuery (e : Engine) (dialect : Option Dialect) (parameterized : Bool) :
    Except Failure Query × Engine :=
  match dialect with
  | some d => (.ok (.empty d parameterized), e)
  | none => ((Dialect.find e.settings.current.dialect).map (.empty · parameterized), e.readSettings)

end Engine

namespace Work

/-- The work with another query. -/
def withQuery (w : Work) (a : Attempt Query) : Attempt Work := a.map fun q => { w with query := q }

/-- An operator's validators run on the values. -/
def validate (w : Work) (op : Operator) (values : List Value) : Attempt Work :=
  (w.engine.validate op values).map fun e => { w with engine := e }

/-- The operator that another is linked to. -/
def target (w : Work) (op : Operator) : Except Failure Operator :=
  match op.delegate.bind w.engine.registry.get? with
  | some target => .ok target
  | none => .error (.unlinked op.name op.delegateName)

/-- The conditions of a decision on a field appended to the query. -/
def append (w : Work) (field : String) (d : Decision) : Attempt Work :=
  w.withQuery (w.query.appendAll (d.conditions.map (Condition.clause w.query.dialect field)))

/-- An operator's predicates for a field and values, along at most `steps`
operators. -/
def modifyWithin : (steps : Nat) → Operator → String → List Value → Work → Attempt Work
  | 0, _, _, _, w => .fail w .endlessDelegation
  | steps + 1, op, field, values, w =>
    let decision := op.behavior.decide (w.engine.situation op) field values
    let w := if op.behavior.readsSettings && op.behavior.accepts values.length then
      { w with engine := w.engine.readSettings } else w
    (w.append field decision).andThen fun w =>
      match decision.ending with
      | .done => .done w
      | .fail e => .fail w e
      | .handOver validated values =>
        match w.target op with
        | .error e => .fail w e
        | .ok next =>
          if validated then (w.validate next values).andThen (modifyWithin steps next field values)
          else modifyWithin steps next field values w

/-- The most operators that a chain of delegation visits. Each takes two nested calls, its own
and its behavior's. Calls nest a thousand deep at most, and some twenty of them are open when
a filter starts, so the number is an estimate. -/
def longestChain : Nat := 490

/-- A limit to chains of delegation: the longest chain that there may be, or more
operators than a chain can visit without a circle. Along a chain the values
change at most twice: they become a date once, and the two ends of a week once. -/
def chainLimit (w : Work) : Nat := min (3 * w.engine.registry.size + 1) longestChain

/-- An operator's predicates for a field and values. -/
def modify (w : Work) (op : Operator) (field : String) (values : List Value) : Attempt Work :=
  modifyWithin w.chainLimit op field values w

/-- An operator's validators, then its predicates. -/
def apply (w : Work) (op : Operator) (field : String) (values : List Value) : Attempt Work :=
  (w.validate op values).andThen fun w => w.modify op field values

/-- The operator of a name applied to a field and values. -/
def applyFilter (w : Work) (field : String) (operator : Value) (values : List Value) :
    Attempt Work :=
  match w.engine.registry.find operator with
  | .ok op => w.apply op field values
  | .error e => .fail w e

/-- The days between two days relative to today. -/
def dateRange (w : Work) (field : String) (first last : Option Int) : Attempt Work :=
  let decision := DateRange.decide w.engine.today first last
  (w.append field decision).andThen fun w =>
    match decision.ending with
    | .fail e => .fail w e
    | _ => .done w

end Work

/-- A single filter on a new query. -/
def Engine.buildFilter (e : Engine) (dialect : Option Dialect) (parameterized : Bool)
    (field : String) (operator : Value) (values : List Value) : Except Failure Result × Engine :=
  match e.newQuery dialect parameterized with
  | (.error f, e) => (.error f, e)
  | (.ok q, e) =>
    let a := Work.applyFilter ⟨e, q⟩ field operator values
    (a.outcome.map fun _ => a.state.query.build, a.state.engine)

end ReportFilter
