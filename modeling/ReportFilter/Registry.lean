/-
# The registry of operators

Operators by name, in the order of their registration. The first registration
of a name counts: a second one returns the operator that is there. Definitions
are registered when the registry is loaded, once. From then on, operators that
name a registered target are linked to it.

A load that fails leaves the operators that were registered before the failure
and may be repeated.

Key definitions: `Registry`, `Registry.register`, `Registry.load`,
`Registry.find`, `Registry.operatorFor`, `Registry.linkAll`.
Key theorems: `Registry.register_of_get?`, `Registry.load_of_loaded`.
-/
import ReportFilter.Operator

namespace ReportFilter

/-- A registry. -/
structure Registry where
  definitions : List Operator.Spec
  /-- The operators under their names, in the order of registration. -/
  entries : List (String × Operator)
  loaded : Bool
  deriving DecidableEq, Repr

namespace Registry

/-- A registry that has not been loaded. -/
def ofDefinitions (definitions : List Operator.Spec) : Registry := ⟨definitions, [], false⟩

/-- The operator of a name. -/
def get? (r : Registry) (name : String) : Option Operator := r.entries.lookup name

/-- The names in the order of registration. -/
def names (r : Registry) : List String := r.entries.map (·.1)

/-- The operators in the order of registration. -/
def operators (r : Registry) : List Operator := r.entries.map (·.2)

/-- The number of operators. -/
def size (r : Registry) : Nat := r.entries.length

/-- A registry in a message. -/
def shown (r : Registry) : String :=
  "OperatorRegistry(" ++ toString r.size ++ " operators)"

/-! ### Registration -/

/-- An operator linked to its target, if the target is registered. -/
def linkEntry (r : Registry) (op : Operator) : Operator :=
  match op.delegateName with
  | none => op
  | some target => if (r.get? target).isSome then op.link target else op

/-- The registry with its operators changed. -/
def mapOperators (r : Registry) (f : String → Operator → Operator) : Registry :=
  { r with entries := r.entries.map fun e => (e.1, f e.1 e.2) }

/-- Every operator linked to its target, where the target is registered. -/
def linkAll (r : Registry) : Registry := r.mapOperators fun _ op => r.linkEntry op

/-- A spec registered: the operator that is now under its name, and the
registry. A failure changes nothing. -/
def register (r : Registry) (validators : Validators) (spec : Operator.Spec) :
    Except Failure (Operator × Registry) := do
  let name ← spec.name.plain
  match r.get? name with
  | some op => .ok (op, r)
  | none =>
    let op ← Operator.ofSpec validators name spec
    let r := { r with entries := r.entries ++ [(name, op)] }
    let r := if r.loaded then r.linkAll else r
    .ok ((r.get? name).getD op, r)

/-- Several specs registered in order, up to the first that fails. -/
def registerAll (r : Registry) (validators : Validators) : List Operator.Spec → Attempt Registry
  | [] => .done r
  | spec :: specs =>
    match r.register validators spec with
    | .ok (_, r) => r.registerAll validators specs
    | .error e => .fail r e

/-- The definitions registered and all operators linked, unless that has been
done. -/
def load (r : Registry) (validators : Validators) : Attempt Registry :=
  if r.loaded then .done r
  else (r.registerAll validators r.definitions).andThen fun r =>
    .done { r.linkAll with loaded := true }

/-! ### Looking operators up -/

/-- The operator of a name, compared by its text. -/
def find (r : Registry) (name : Value) : Except Failure Operator := do
  match r.get? (← name.plain) with
  | some op => .ok op
  | none => .error (.unknownOperator name)

/-- An operator, or the name of one. -/
inductive OperatorRef where
  | operator (op : Operator)
  | name (name : Value)
  deriving DecidableEq, Repr

/-- The operator that is meant: an operator stands for itself. -/
def operatorFor (r : Registry) : OperatorRef → Except Failure Operator
  | .operator op => .ok op
  | .name name => r.find name

/-- Whether an operator has the name, compared by its text. -/
def contains (r : Registry) (name : Value) : Except Failure Bool :=
  name.plain.map fun s => (r.get? s).isSome

/-- The operators of several names. -/
def findAll (r : Registry) (names : List String) : Except Failure (List Operator) :=
  names.mapM fun n => r.find (.text n)

/-- The operator that is used when none is chosen. -/
def defaultOperator (r : Registry) : Except Failure Operator := r.find (.text "=")

/-- The operators by name, in ascending order. -/
def sorted (r : Registry) : List Operator :=
  r.operators.mergeSort fun a b => decide (a.name ≤ b.name)

/-- Whether one operator's name comes before another's, which is looked up
first. -/
def less (r : Registry) (a b : Value) : Except Failure Bool := do
  let y ← r.find b
  let x ← r.find a
  .ok (decide (x.name < y.name))

/-- An operator is not compared with a value that is none. -/
def lessThanValue (r : Registry) (a : Value) : Except Failure Bool := do
  let _ ← r.find a
  .error .incomparable

/-- The operator of a name linked to another, if it is not linked yet. The other need not be
registered. -/
def linkTo (r : Registry) (name : Value) (target : Operator) : Except Failure Registry :=
  (r.find name).map fun op =>
    r.mapOperators fun key e => if key = op.name then e.link target.name else e

/-- One registered operator linked to another by hand. It is looked up before its target. -/
def link (r : Registry) (name target : Value) : Except Failure Registry := do
  let _ ← r.find name
  r.linkTo name (← r.find target)

/-! ### What registration keeps -/

/-- A second load does nothing. -/
theorem load_of_loaded {r : Registry} (validators : Validators) (h : r.loaded = true) :
    r.load validators = .done r := by
  simp [load, h]

/-- A name that is taken stays with its operator. -/
theorem register_of_get? {r : Registry} {validators : Validators} {spec : Operator.Spec}
    {name : String} {op : Operator} (hn : spec.name.plain = .ok name)
    (h : r.get? name = some op) : r.register validators spec = .ok (op, r) := by
  simp only [register, hn]
  show (match r.get? name with
    | some op => Except.ok (op, r)
    | none => _) = _
  rw [h]

end Registry
end ReportFilter
