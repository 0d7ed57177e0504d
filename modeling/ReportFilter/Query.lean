/-
# Queries

A query collects predicates for a WHERE clause. A predicate is appended as a
clause: a fragment with the values for its slots. Inline, the slots take the
values as literals; otherwise they take bind parameters, numbered through the
whole query, and the values are kept for them.

A clause without values is appended as it is. A clause whose slots and values
do not match is not appended, but bind parameters that were made for it stay.

Key definitions: `Clause`, `Query`, `Query.append`, `Query.sql`.
-/
import ReportFilter.Attempt
import ReportFilter.Dialect
import ReportFilter.Fragment

namespace ReportFilter

/-- A predicate to be appended: a fragment, and values for its slots. -/
structure Clause where
  fragment : String
  values : List Value
  deriving DecidableEq, Repr

/-- A query under construction. -/
structure Query where
  dialect : Dialect
  parameterized : Bool
  predicates : List String
  parameters : List Value
  deriving DecidableEq, Repr

namespace Query

/-- A query without predicates. -/
def empty (dialect : Dialect) (parameterized : Bool) : Query := ⟨dialect, parameterized, [], []⟩

/-- The predicates joined to one condition. -/
def sql (q : Query) : String := " AND ".intercalate q.predicates

/-- A query in a message. -/
def shown (q : Query) : String := "Query(" ++ shownText q.sql ++ ")"

/-- The query with one more predicate. -/
def push (q : Query) (predicate : String) : Query :=
  { q with predicates := q.predicates ++ [predicate] }

/-- The bind parameters of a row of values behind the first `count` ones. -/
def placeholders (dialect : Dialect) (count : Nat) : List Value → List String
  | [] => []
  | _ :: vs => dialect.placeholder (count + 1 : Nat) :: placeholders dialect (count + 1) vs

/-- The query with a fragment whose slots take the given texts. -/
def pushFilled (q : Query) (fragment : String) (arguments : List String) : Attempt Query :=
  match Fragment.fill fragment arguments with
  | .ok predicate => .done (q.push predicate)
  | .error e => .fail q e

/-- The query with one more clause. -/
def append (q : Query) (c : Clause) : Attempt Query :=
  if c.values = [] then .done (q.push c.fragment)
  else if q.parameterized then
    { q with parameters := q.parameters ++ c.values }.pushFilled c.fragment
      (placeholders q.dialect q.parameters.length c.values)
  else
    match c.values.mapM q.dialect.literal with
    | .ok literals => q.pushFilled c.fragment literals
    | .error e => .fail q e

/-- The query with several more clauses, up to the first that fails. -/
def appendAll (q : Query) : List Clause → Attempt Query
  | [] => .done q
  | c :: cs => (q.append c).andThen fun q => q.appendAll cs

end Query
end ReportFilter
