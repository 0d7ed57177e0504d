/-
# Layouts of template slots

How a template slot lays out its text: `[[fill]align][0][width][.precision][s]`.
The alignment is `<`, `>` or `^`; a zero before the width is a fill character.
Everything else that a layout can ask for (a sign, digit grouping, a type of
number) does not apply to texts.

Key definition: `Template.arrange`.
-/
import ReportFilter.Failure
import ReportFilter.Text.Numeral

namespace ReportFilter
namespace Template

/-- Where a text stands in a wider field. -/
inductive Alignment where
  | left
  | right
  | center
  deriving DecidableEq, Repr

/-- The alignment that a character asks for. -/
def alignment? (c : Char) : Option Alignment :=
  if c = '<' then some .left
  else if c = '>' then some .right
  else if c = '^' then some .center
  else none

/-- The largest number in a layout or in the name of a slot. -/
def numberLimit : Nat := 9223372036854775807

/-- The fill character, if it is given, the alignment and the text after them. -/
def takeAlignment : List Char → Option Char × Alignment × List Char
  | [] => (none, .left, [])
  | c :: s =>
    match s with
    | a :: rest =>
      match alignment? a, alignment? c with
      | some alignment, _ => (some c, alignment, rest)
      | none, some alignment => (none, alignment, s)
      | none, none => (none, .left, c :: s)
    | [] =>
      match alignment? c with
      | some alignment => (none, alignment, [])
      | none => (none, .left, [c])

/-- A text filled up to a width. -/
def pad (fill : Char) (alignment : Alignment) (width : Nat) (s : List Char) : List Char :=
  let total := width - s.length
  let before := match alignment with
    | .left => 0
    | .right => total
    | .center => total / 2
  List.replicate before fill ++ s ++ List.replicate (total - before) fill

/-- The precision, if there is one, and the text after it; a point asks for
digits. -/
def takePrecision : List Char → Except Failure (Option Nat × List Char)
  | '.' :: s =>
    match Text.takeDigits s with
    | ([], _) => .error .template
    | (ds, s) =>
      if numberLimit < Text.digitsValue ds then .error .template
      else .ok (some (Text.digitsValue ds), s)
  | s => .ok (none, s)

/-- A text in the layout that `spec` asks for. -/
def arrange (spec s : List Char) : Except Failure (List Char) := do
  let (fill, alignment, rest) := takeAlignment spec
  let (fill, rest) := match fill, rest with
    | none, '0' :: more => ('0', more)
    | fill, rest => (fill.getD ' ', rest)
  let (width, rest) := Text.takeDigits rest
  if numberLimit < Text.digitsValue width then .error .template
  let (precision, rest) ← takePrecision rest
  if rest = [] ∨ rest = ['s'] then
    let s := match precision with
      | none => s
      | some n => s.take n
    let width := Text.digitsValue width
    if Text.widthLimit < width then .error .outOfMemory
    else .ok (pad fill alignment width s)
  else .error .template

end Template
end ReportFilter
