/-
# Signatures

The parameters of a behavior, and how many values it can be called with. The
first parameter takes the operator, the next two the query and the field, and
the rest take values, all by position.

The arity of a signature is the number of values, or, when it may vary, minus
one more than their least number.

Key definitions: `Parameter`, `Signature.arity`, `Signature.accepts`.
-/

namespace ReportFilter

/-- How a parameter takes its argument. -/
inductive ParameterKind where
  | positionalOnly
  | positional
  /-- Takes all further arguments by position. -/
  | variadic
  | keywordOnly
  /-- Takes all further arguments by keyword. -/
  | keywords
  deriving DecidableEq, Repr

/-- A parameter. -/
structure Parameter where
  kind : ParameterKind
  hasDefault : Bool
  deriving DecidableEq, Repr

namespace Parameter

/-- Whether a parameter takes one argument by position. -/
def isPlace (p : Parameter) : Bool :=
  p.kind = .positionalOnly || p.kind = .positional

/-- Whether a parameter takes all further arguments by position. -/
def isVariadic (p : Parameter) : Bool := p.kind = .variadic

/-- A parameter that needs an argument by position. -/
def required : Parameter := ⟨.positional, false⟩

/-- A parameter that may have an argument by position. -/
def optional : Parameter := ⟨.positional, true⟩

/-- A parameter for all further arguments by position. -/
def rest : Parameter := ⟨.variadic, false⟩

end Parameter

namespace Signature

/-- The least number of arguments by position. -/
def required (ps : List Parameter) : Nat :=
  ps.countP fun p => p.isPlace && !p.hasDefault

/-- Whether the number of arguments by position may vary. -/
def varies (ps : List Parameter) : Bool :=
  ps.any fun p => p.isVariadic || (p.isPlace && p.hasDefault)

/-- The number of values that a behavior takes, or minus one more than their
least number when it may vary. -/
def arity (ps : List Parameter) : Int :=
  let ps := ps.drop 1
  let n : Int := required ps
  let n := if varies ps then -(n + 1) else n
  if n < 0 then n + 2 else n - 2

/-- Whether a call with `count` arguments by position, and no others, gives
every parameter its argument. -/
def binds (ps : List Parameter) (count : Nat) : Bool :=
  let places := ps.filter Parameter.isPlace
  (count ≤ places.length || ps.any Parameter.isVariadic) &&
    (places.drop count).all Parameter.hasDefault &&
    (ps.filter (·.kind = .keywordOnly)).all Parameter.hasDefault

/-- Whether a behavior can be called with an operator, a query, a field and
`count` values. -/
def accepts (ps : List Parameter) (count : Nat) : Bool := binds ps (3 + count)

/-- The parameters for operator, query and field, and those for values. -/
def ofValues (values : List Parameter) : List Parameter :=
  [.required, .required, .required] ++ values

end Signature
end ReportFilter
