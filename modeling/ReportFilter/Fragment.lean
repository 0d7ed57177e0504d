/-
# Fragments

A fragment is text with slots, which arguments fill in order. A slot is a
percent sign, flags, a width, a precision, a size letter that means nothing,
and a conversion; two percent signs stand for one. Arguments are texts here, so
the conversions that apply are `s` (the text), `r` and `a` (the text in quotes,
and that in ASCII) and `c` (a text of one character).

A fragment is read as a row of pieces. What is wrong with a fragment is a piece
too, so of several faults the leftmost counts.

Key definitions: `Fragment.pieces`, `Fragment.fill`, `Fragment.escape`,
`Fragment.slotList`.
Key theorems: `Fragment.pieces_escape`, `Fragment.fillPieces_texts`.
-/
import ReportFilter.Failure
import ReportFilter.Text.Numeral
import ReportFilter.Text.Quoted

namespace ReportFilter
namespace Fragment

/-- How an argument is laid out: at least `width` characters wide, a text of at
most `precision` characters. The other flags are for numbers. -/
structure Layout where
  leftAligned : Bool := false
  /-- A plus sign in front. -/
  signed : Bool := false
  /-- A space in the place of the plus sign. -/
  spaced : Bool := false
  /-- A mark of the base in front, or a point in any case. -/
  marked : Bool := false
  /-- Zeros in the place of spaces in front. -/
  zeroFilled : Bool := false
  width : Nat := 0
  precision : Option Nat := none
  deriving DecidableEq, Repr

/-- No flags, no width and no precision. -/
def Layout.plain : Layout := {}

/-- A piece of a fragment. -/
inductive Piece where
  /-- A character that stands for itself. -/
  | text (c : Char)
  /-- A slot for the next argument. -/
  | slot (layout : Layout) (conversion : Char)
  /-- A slot that breaks off, or a number that is too large. -/
  | malformed
  /-- A slot that takes its argument by name. -/
  | unsuited
  /-- A slot that takes a width or a precision from an argument, and whether it
  is well formed behind that. -/
  | measured (wellFormed : Bool)
  deriving DecidableEq, Repr

/-- What may come next in a slot. -/
inductive Stage where
  /-- Behind the percent sign. -/
  | start
  /-- Behind a flag. -/
  | flags
  /-- Behind a digit of the width. -/
  | width
  /-- Behind a width from an argument. -/
  | afterWidth
  /-- Behind the point. -/
  | point
  /-- Behind a digit of the precision. -/
  | precision
  /-- Behind a precision from an argument. -/
  | afterPrecision
  /-- Behind the size letter. -/
  | conversion
  deriving DecidableEq, Repr

/-- What a character of a slot leads to. -/
inductive Step where
  | next (stage : Stage) (layout : Layout)
  | finish (piece : Piece)
  | fault (piece : Piece)
  /-- An argument tells the width or the precision. -/
  | measure (stage : Stage)
  deriving DecidableEq, Repr

/-- The largest width. -/
def widthLimit : Nat := 9223372036854775807

/-- The largest precision. -/
def precisionLimit : Nat := 2147483647

/-- A size letter or the conversion. -/
def stepSize (layout : Layout) (c : Char) : Step :=
  if c = 'h' ∨ c = 'l' ∨ c = 'L' then .next .conversion layout else .finish (.slot layout c)

/-- A digit of the precision, or what follows the precision. -/
def stepPrecision (layout : Layout) (c : Char) : Step :=
  if c.isDigit then
    let n := 10 * layout.precision.getD 0 + (c.toNat - '0'.toNat)
    if precisionLimit < n then .fault .malformed
    else .next .precision { layout with precision := some n }
  else stepSize layout c

/-- The point, or what follows the width. -/
def stepPoint (layout : Layout) (c : Char) : Step :=
  if c = '.' then .next .point { layout with precision := some 0 } else stepSize layout c

/-- A digit of the width, or what follows the width. -/
def stepWidth (layout : Layout) (c : Char) : Step :=
  if c.isDigit then
    let n := 10 * layout.width + (c.toNat - '0'.toNat)
    if widthLimit < n then .fault .malformed else .next .width { layout with width := n }
  else stepPoint layout c

/-- A flag, or what follows the flags. -/
def stepFlags (layout : Layout) (c : Char) : Step :=
  if c = '-' then .next .flags { layout with leftAligned := true }
  else if c = '+' then .next .flags { layout with signed := true }
  else if c = ' ' then .next .flags { layout with spaced := true }
  else if c = '#' then .next .flags { layout with marked := true }
  else if c = '0' then .next .flags { layout with zeroFilled := true }
  else if c = '*' then .measure .afterWidth
  else stepWidth layout c

/-- One character of a slot. -/
def step : Stage → Layout → Char → Step
  | .start, layout, c =>
    if c = '%' then .finish (.text '%')
    else if c = '(' then .fault .unsuited
    else stepFlags layout c
  | .flags, layout, c => stepFlags layout c
  | .width, layout, c => stepWidth layout c
  | .afterWidth, layout, c => stepPoint layout c
  | .point, layout, c => if c = '*' then .measure .afterPrecision else stepPrecision layout c
  | .precision, layout, c => stepPrecision layout c
  | .afterPrecision, layout, c => stepSize layout c
  | .conversion, layout, c => .finish (.slot layout c)

/-- Whether the rest of a slot is well formed, at least as far as it asks for
another width or precision. -/
def isWellFormed : Stage → Layout → List Char → Bool
  | _, _, [] => false
  | stage, layout, c :: s =>
    match step stage layout c with
    | .next stage layout => isWellFormed stage layout s
    | .finish _ | .measure _ => true
    | .fault _ => false

/-- The pieces of a text, which starts inside a slot when a stage is given. A
fault ends the row, and so does a width or precision from an argument. -/
def piecesFrom : Option (Stage × Layout) → List Char → List Piece
  | none, [] => []
  | some _, [] => [.malformed]
  | none, c :: s =>
    if c = '%' then piecesFrom (some (.start, .plain)) s else .text c :: piecesFrom none s
  | some (stage, layout), c :: s =>
    match step stage layout c with
    | .next stage layout => piecesFrom (some (stage, layout)) s
    | .finish piece => piece :: piecesFrom none s
    | .fault piece => [piece]
    | .measure stage => [.measured (isWellFormed stage layout s)]

/-- The pieces of a fragment. -/
def pieces (s : List Char) : List Piece := piecesFrom none s

/-! ### Filling -/

/-- An argument converted for a slot. The conversions of numbers do not apply
to texts; a letter that is no conversion is a fault of the slot. -/
def convert (conversion : Char) (argument : List Char) : Except Failure (List Char) :=
  if conversion = 's' then .ok argument
  else if conversion = 'r' then .ok (Text.quoted argument)
  else if conversion = 'a' then .ok (Text.asciiQuoted argument)
  else if conversion = 'c' then
    if argument.length = 1 then .ok argument else .error .fragmentArguments
  else if "diouxXeEfFgG".toList.contains conversion then .error .fragmentArguments
  else .error .fragmentSlot

/-- A text cut to a slot's precision and filled up to its width with spaces. A
single character is not cut. -/
def Layout.arrange (layout : Layout) (conversion : Char) (s : List Char) :
    Except Failure (List Char) :=
  let s := if conversion = 'c' then s else
    match layout.precision with
    | none => s
    | some n => s.take n
  if Text.widthLimit < layout.width then .error .outOfMemory
  else
    let padding := List.replicate (layout.width - s.length) ' '
    .ok (if layout.leftAligned then s ++ padding else padding ++ s)

/-- The pieces with their slots filled: there are as many arguments as slots. -/
def fillPieces : List Piece → List (List Char) → Except Failure (List Char)
  | [], [] => .ok []
  | [], _ :: _ => .error .fragmentArguments
  | .text c :: ps, arguments => do
    let rest ← fillPieces ps arguments
    .ok (c :: rest)
  | .slot _ _ :: _, [] => .error .fragmentArguments
  | .slot layout conversion :: ps, a :: arguments => do
    let s ← layout.arrange conversion (← convert conversion a)
    let rest ← fillPieces ps arguments
    .ok (s ++ rest)
  | .malformed :: _, _ => .error .fragmentSlot
  | .unsuited :: _, _ | .measured _ :: _, _ => .error .fragmentArguments

/-- A fragment with its slots filled. -/
def fill (fragment : String) (arguments : List String) : Except Failure String :=
  (fillPieces (pieces fragment.toList) (arguments.map String.toList)).map String.ofList

/-! ### Escaping -/

/-- A character of a fragment that stands for `c`. -/
def escapeChar (c : Char) : List Char := if c = '%' then ['%', '%'] else [c]

/-- The fragment without slots that stands for a text. -/
def escape (s : String) : String := String.ofList (s.toList.flatMap escapeChar)

/-- `count` slots between parentheses; none for a negative count. -/
def slotList (count : Int) : String :=
  "(" ++ ", ".intercalate (List.replicate count.toNat "%s") ++ ")"

/-- As many slots as a value asks for: counts have 64 bits. -/
def slotListOf (count : Value) : Except Failure String :=
  match count.toInt? with
  | none => .error .notANumber
  | some n =>
    if n < -9223372036854775808 ∨ 9223372036854775807 < n then .error .outOfRange
    else if Text.widthLimit < n.toNat then .error .outOfMemory
    else .ok (slotList n)

/-- An escaped text reads as the text, whatever follows. -/
theorem piecesFrom_escape (s rest : List Char) :
    piecesFrom none (s.flatMap escapeChar ++ rest) = s.map .text ++ piecesFrom none rest := by
  induction s with
  | nil => rfl
  | cons c s ih =>
    by_cases h : c = '%'
    · subst h
      simp [escapeChar, piecesFrom, step, ih]
    · simp [escapeChar, piecesFrom, h, ih]

/-- An escaped text reads as the text. -/
theorem pieces_escape (s : String) : pieces (escape s).toList = s.toList.map .text := by
  have := piecesFrom_escape s.toList []
  simpa [pieces, escape, piecesFrom] using this

/-- Text in front of the pieces comes out in front. -/
theorem fillPieces_texts (s : List Char) (ps : List Piece) (arguments : List (List Char)) :
    fillPieces (s.map .text ++ ps) arguments = (fillPieces ps arguments).map (s ++ ·) := by
  induction s with
  | nil => cases h : fillPieces ps arguments <;> simp [Except.map, h]
  | cons c s ih =>
    simp only [List.map_cons, List.cons_append, fillPieces, ih]
    cases fillPieces ps arguments <;> rfl

end Fragment
end ReportFilter
