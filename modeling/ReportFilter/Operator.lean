/-
# Operators

An operator is a named rule that turns a field and values into predicates. An
operator that delegates names its target, and is linked to it later, once.

Key definitions: `Operator`, `Operator.Spec`, `Operator.Spec.made`, `Operator.ofSpec`.
Key theorem: `Operator.name_ofSpec`.
-/
import ReportFilter.Behavior
import ReportFilter.Validation

namespace ReportFilter

/-- An operator. -/
structure Operator where
  name : String
  /-- The number of values, or minus one more than their least number. -/
  arity : Int
  /-- The key that the operator's display name is looked up by. -/
  label : String
  /-- The comparison that a template shows. -/
  comparison : String
  template : Option String
  /-- The names of the validators that have to accept the values. -/
  validators : List String
  behavior : Behavior
  /-- The name of the operator that this one delegates to. -/
  delegateName : Option String
  /-- The operator that this one is linked to, by name. -/
  delegate : Option String
  deriving DecidableEq, Repr

/-- The template of operators that give none. -/
def defaultTemplate : String := "\x7bfield\x7d \x7bop\x7d \x7bvalue\x7d"

namespace Operator

/-- What an operator is made from. The name may be any value. -/
structure Spec where
  name : Value
  arity : Option Int := none
  label : Option String := none
  comparison : Option String := none
  template : Option String := some defaultTemplate
  validators : List String := []
  delegateName : Option String := none
  behavior : Behavior := .template
  /-- Options that operators do not have. -/
  unknownOptions : List String := []
  deriving DecidableEq, Repr

/-- A text, or another when it is missing or empty. -/
def textOr (s : Option String) (other : String) : String :=
  match s with
  | none => other
  | some s => if s = "" then other else s

/-- The operator of a spec under a name, where nothing is wrong with the spec. -/
def Spec.made (spec : Spec) (name : String) : Operator where
  name
  arity := spec.arity.getD spec.behavior.arity
  label := textOr spec.label name
  comparison := textOr spec.comparison name
  template := spec.template
  validators := spec.validators
  behavior := spec.behavior
  delegateName := spec.delegateName
  delegate := none

/-- The operator of a spec under a name. Its validators have to exist. -/
def ofSpec (validators : Validators) (name : String) (spec : Spec) : Except Failure Operator := do
  if spec.unknownOptions ≠ [] then .error .unknownOption
  spec.validators.forM fun v => do
    let _ ← validators.get v
  .ok (spec.made name)

/-- Whether the number of values may vary. -/
def isVariadic (op : Operator) : Bool := op.arity < 0

/-- The name of the operator that this one is linked to. -/
def linked (op : Operator) : Except Failure String :=
  match op.delegate with
  | some target => .ok target
  | none => .error (.unlinked op.name op.delegateName)

/-- The operator linked to another, if it is not linked yet. -/
def link (op : Operator) (target : String) : Operator :=
  match op.delegate with
  | some _ => op
  | none => { op with delegate := some target }

/-- An operator in a message. -/
def shown (op : Operator) : String := "<Operator " ++ shownText op.name ++ ">"

theorem name_ofSpec {validators : Validators} {name : String} {spec : Spec} {op : Operator}
    (h : ofSpec validators name spec = .ok op) : op.name = name ∧ op.delegate = none := by
  simp only [ofSpec] at h
  split at h
  · cases h
  · cases hv : spec.validators.forM fun v => do
        let _ ← validators.get v
    · rw [hv] at h; cases h
    · rw [hv] at h; cases h; exact ⟨rfl, rfl⟩

/-- Only the first link counts. -/
theorem link_link (op : Operator) (a b : String) : (op.link a).link b = op.link a := by
  obtain ⟨_, _, _, _, _, _, _, _, d⟩ := op
  cases d <;> rfl

end Operator
end ReportFilter
