/-
# Decisions

What becomes of a field and values: which conditions are appended, in order,
and how it ends. It is done, it fails, or it hands values to the operator that
the operator at hand delegates to. The conditions in front of a failure are
appended all the same.

Key definitions: `Decision`, `Decision.andThen`.
Key theorem: `Decision.andThen_assoc`.
-/
import ReportFilter.Condition

namespace ReportFilter

/-- How a decision ends. -/
inductive Ending where
  | done
  | fail (e : Failure)
  /-- The values go to the delegate; `validated` tells that its validators see
  them first. -/
  | handOver (validated : Bool) (values : List Value)
  deriving DecidableEq, Repr

/-- What a behavior decides. -/
structure Decision where
  conditions : List Condition
  ending : Ending
  deriving DecidableEq, Repr

namespace Decision

/-- No condition. -/
def skip : Decision := ⟨[], .done⟩

/-- One condition. -/
def append (c : Condition) : Decision := ⟨[c], .done⟩

/-- The values handed to the delegate. -/
def handOver (validated : Bool) (values : List Value) : Decision := ⟨[], .handOver validated values⟩

/-- A failure. -/
def fail (e : Failure) : Decision := ⟨[], .fail e⟩

/-- A decision that may fail before it starts. -/
def ofExcept : Except Failure Decision → Decision
  | .ok d => d
  | .error e => fail e

/-- One decision after another, if the first is done. -/
def andThen (a b : Decision) : Decision :=
  match a.ending with
  | .done => ⟨a.conditions ++ b.conditions, b.ending⟩
  | _ => a

/-- How decisions are grouped does not matter. -/
theorem andThen_assoc (a b c : Decision) :
    (a.andThen b).andThen c = a.andThen (b.andThen c) := by
  obtain ⟨as, e⟩ := a
  obtain ⟨bs, f⟩ := b
  cases e <;> cases f <;> simp [andThen]

end Decision
end ReportFilter
