/-
# Conditions

What the built-in operators ask of a field. A condition is stated as a clause:
a fragment with a slot for each value. The field is escaped in it, so percent
signs in the field stay. A clause without values is not filled, and the field
stands in it as it is.

Key definitions: `Condition`, `Condition.clause`.
-/
import ReportFilter.DateInput
import ReportFilter.Like
import ReportFilter.Query

namespace ReportFilter

/-- A condition on a field. -/
inductive Condition where
  /-- No row meets it. -/
  | never
  /-- Every row meets it. -/
  | always
  /-- The field is null. -/
  | missing
  /-- The field is one of the values. -/
  | oneOf (values : List Value)
  /-- The field is null, or it is none of the values. -/
  | noneOf (values : List Value)
  /-- The field is the amount. -/
  | amount (d : Decimal)
  /-- The field is later. -/
  | after (t : Timestamp)
  /-- The field is not later. -/
  | upTo (t : Timestamp)
  /-- The field lies between the two, both included. -/
  | between (first last : Moment)
  /-- The text, in lower case, occurs in the lower case of the field. -/
  | contains (text : String)
  /-- It does not occur. -/
  | lacks (text : String)
  /-- What a clause says that an operator's template states. -/
  | stated (c : Clause)
  deriving DecidableEq, Repr

namespace Condition

/-- The values that a condition compares the field with. The pattern of a
search is one value. -/
def values : Condition → List Value
  | never | always | missing => []
  | oneOf vs | noneOf vs => vs
  | amount d => [.decimal d]
  | after t | upTo t => [.timestamp t]
  | between a b => [a.toValue, b.toValue]
  | contains s | lacks s => [.text (Like.containing s)]
  | stated c => c.values

/-- A search for a pattern in the lower case of a field. -/
def search (d : Dialect) (comparison field : String) : String :=
  "LOWER(" ++ field ++ ") " ++ comparison ++ " %s" ++ d.likeEscape

/-- The fragment that states a condition on a field. -/
def fragment (d : Dialect) (field : String) : Condition → String
  | never => "1=0"
  | always => "1=1"
  | missing => field ++ " IS NULL"
  | oneOf vs => Fragment.escape field ++ " IN " ++ Fragment.slotList vs.length
  | noneOf vs =>
    "(" ++ Fragment.escape field ++ " IS NULL OR " ++ Fragment.escape field ++ " NOT IN " ++
      Fragment.slotList vs.length ++ ")"
  | amount _ => Fragment.escape field ++ " = %s"
  | after _ => Fragment.escape field ++ " > %s"
  | upTo _ => Fragment.escape field ++ " <= %s"
  | between _ _ => Fragment.escape field ++ " BETWEEN %s AND %s"
  | contains _ => search d "LIKE" (Fragment.escape field)
  | lacks _ => search d "NOT LIKE" (Fragment.escape field)
  | stated c => c.fragment

/-- The clause that states a condition on a field. -/
def clause (d : Dialect) (field : String) (c : Condition) : Clause := ⟨c.fragment d field, c.values⟩

@[simp] theorem clause_stated (d : Dialect) (field : String) (c : Clause) :
    (stated c).clause d field = c := rfl

end Condition
end ReportFilter
