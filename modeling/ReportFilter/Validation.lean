/-
# Validation

Operators name the validators that have to accept their values before a
predicate is built. A validator sees all values of the operator. Blank values
are never an error; a validator that fails ends the validation.

Validators are kept in a table by name, where a later one under a taken name
takes its place. The journal records the runs of those that note them.

Key definitions: `Validator`, `Validators`, `Validators.run`.
Key theorem: `Validators.lookup_replace`.
-/
import ReportFilter.Attempt
import ReportFilter.DateInput

namespace ReportFilter

/-- The notes of validators: the name it ran under and the number of values. -/
abbrev Journal := List (String × Nat)

/-- What a validator does with the values. -/
inductive Validator where
  /-- Every value that is not blank has to read as a date. -/
  | dates
  /-- No values are accepted. -/
  | reject
  /-- All values are accepted, and their number is noted in the journal. -/
  | record
  /-- Any other check of the values, which may leave notes in the journal. -/
  | custom (check : List Value → Journal → Attempt Journal)

namespace Validator

/-- Every value that is not blank has to read as a date. -/
def checkDates : List Value → Except Failure Unit
  | [] => .ok ()
  | v :: vs => do
    unless ← v.isBlank do
      let _ ← DateInput.read v
    checkDates vs

/-- A run of a validator under a name. -/
def run (validator : Validator) (name : String) (values : List Value) (journal : Journal) :
    Attempt Journal :=
  match validator with
  | dates => ⟨journal, checkDates values⟩
  | reject => .fail journal (.rejected values.length)
  | record => .done (journal ++ [(name, values.length)])
  | custom check => check values journal

end Validator

/-- The validators by name, in the order of their first registration. -/
structure Validators where
  entries : List (String × Validator)

namespace Validators

/-- The validators that there are to start with. -/
def initial : Validators := ⟨[("dates", .dates)]⟩

/-- The names in ascending order. -/
def names (t : Validators) : List String :=
  (t.entries.map (·.1)).mergeSort (fun a b => decide (a ≤ b))

/-- A table entry replaced, or added at the end. -/
def replace (name : String) (validator : Validator) :
    List (String × Validator) → List (String × Validator)
  | [] => [(name, validator)]
  | e :: es => if e.1 = name then (name, validator) :: es else e :: replace name validator es

/-- The table with a validator under a name. -/
def register (t : Validators) (name : String) (validator : Validator) : Validators :=
  ⟨replace name validator t.entries⟩

/-- The validator of a name. -/
def get (t : Validators) (name : String) : Except Failure Validator :=
  match t.entries.lookup name with
  | some v => .ok v
  | none => .error (.unknownValidator name t.names)

/-- The validators of several names run in order, up to the first that fails. -/
def run (t : Validators) : List String → List Value → Journal → Attempt Journal
  | [], _, journal => .done journal
  | name :: names, values, journal =>
    match t.get name with
    | .error e => .fail journal e
    | .ok v => (v.run name values journal).andThen (t.run names values)

/-- The last registration of a name counts, and no other name is touched. -/
theorem lookup_replace (entries : List (String × Validator)) (name other : String)
    (v : Validator) :
    (replace name v entries).lookup other =
      if other = name then some v else entries.lookup other := by
  have beq (a b : String) : (a == b) = decide (a = b) := rfl
  induction entries with
  | nil => by_cases h : other = name <;> simp [replace, List.lookup_cons, beq, h]
  | cons e es ih =>
    obtain ⟨n, w⟩ := e
    by_cases hn : n = name
    · by_cases h : other = name <;> simp [replace, List.lookup_cons, beq, hn, h]
    · by_cases ho : other = n
      · have : other ≠ name := ho ▸ hn
        simp [replace, hn, ho]
      · simp [replace, List.lookup_cons, beq, hn, ho, ih]

end Validators
end ReportFilter
