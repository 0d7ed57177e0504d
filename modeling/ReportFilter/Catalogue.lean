/-
# The catalogue of built-in operators

The operators that every report offers, in the order in which they are
registered, and the groups of them that suit a kind of column.

Key definitions: `Catalogue.operators`, `Catalogue.Category`, `Registry.standard`.
-/
import ReportFilter.Registry

namespace ReportFilter
namespace Catalogue

open Operator (Spec)

/-- A template that compares the field with nothing. -/
def fieldTemplate (rest : String) : Option String := some ("\x7bfield\x7d " ++ rest)

/-- The built-in operators. -/
def operators : List Spec := [
  { name := .text ">t-", label := some "label_less_than_ago", behavior := .lessThanAgo },
  { name := .text "w", arity := some 0, label := some "label_this_week",
    delegateName := some "<>d", behavior := .thisWeek },
  { name := .text "t+", arity := some 1, label := some "label_in", behavior := .inDays },
  { name := .text "<=", arity := some 1, label := some "label_less_or_equal" },
  { name := .text "!", label := some "label_not_equals", behavior := .notEquals },
  { name := .text "t-", arity := some 1, label := some "label_ago", behavior := .ago },
  { name := .text "!~", arity := some 1, label := some "label_not_contains",
    behavior := .notContains },
  { name := .text "=", label := some "label_equals", behavior := .equals },
  { name := .text "~", arity := some 1, label := some "label_contains", behavior := .contains },
  { name := .text "<t+", label := some "label_in_less_than", behavior := .inLessThan },
  { name := .text "t", label := some "label_today", behavior := .today },
  { name := .text ">=", arity := some 1, label := some "label_greater_or_equal" },
  { name := .text "!*", arity := some 0, template := fieldTemplate "IS NULL",
    label := some "label_none" },
  { name := .text "<t-", label := some "label_more_than_ago", behavior := .moreThanAgo },
  { name := .text ">t+", label := some "label_in_more_than", behavior := .inMoreThan },
  { name := .text "*", arity := some 0, template := fieldTemplate "IS NOT NULL",
    label := some "label_all" },
  { name := .text "<", arity := some 1, label := some "label_less" },
  { name := .text ">", arity := some 1, label := some "label_greater" },
  { name := .text "=n", label := some "label_equals", behavior := .numericEquals },
  { name := .text "0", arity := some 1, template := fieldTemplate "= 0",
    label := some "label_none" },
  { name := .text "y", arity := some 0, template := fieldTemplate "IS NOT NULL",
    label := some "label_yes" },
  { name := .text "n", arity := some 0, template := fieldTemplate "IS NULL",
    label := some "label_no" },
  { name := .text "<d", label := some "label_less_or_equal", validators := ["dates"],
    delegateName := some "<=", behavior := .onDate },
  { name := .text ">d", label := some "label_greater_or_equal", validators := ["dates"],
    delegateName := some ">=", behavior := .onDate },
  { name := .text "<>d", label := some "label_between", validators := ["dates"],
    behavior := .between },
  { name := .text "=d", label := some "label_date_on", validators := ["dates"],
    delegateName := some "=", behavior := .onDate }]

/-- The kinds of column that operators are grouped by. -/
inductive Category where
  | integer
  | null
  | string
  | time
  | default
  deriving DecidableEq, Repr

/-- The names of the operators for a kind of column. -/
def Category.names : Category → List String
  | integer => ["<", ">", "<=", ">="]
  | null => ["*", "!*"]
  | string => ["!~", "~"]
  | time => ["t", "w", "<>d", ">d", "<d", "=d"]
  | default => ["=", "!"]

end Catalogue

/-- The operators of a kind of column. -/
def Registry.category (r : Registry) (c : Catalogue.Category) : Except Failure (List Operator) :=
  r.findAll c.names

/-- A registry of the built-in operators, not loaded. -/
def Registry.builtin : Registry := .ofDefinitions Catalogue.operators

/-- The loaded registry of the built-in operators. -/
def Registry.standard : Registry := (Registry.builtin.load .initial).state

end ReportFilter
