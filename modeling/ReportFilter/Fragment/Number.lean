/-
# Fragments filled with a number

A fragment with one slot may take a number in the place of a text. The number
here is below eight, so it has one digit, the same in every base. Besides the
conversions of texts, it has those of whole numbers (`d`, `i`, `u`, and `o`, `x`,
`X` with a mark of the base) and those with a point (`e`, `f`, `g` and their
capitals), where the precision counts places behind the point; `c` is the
character of that code point.

Key definitions: `Fragment.convertNumber`, `Fragment.fillNumber`.
-/
import ReportFilter.Fragment

namespace ReportFilter
namespace Fragment

/-- A number in writing, in front of which there may be a sign and a mark of the
base. -/
structure NumberText where
  sign : List Char
  mark : List Char
  body : List Char
  deriving DecidableEq, Repr

/-- The sign that a layout asks for. -/
def Layout.sign (layout : Layout) : List Char :=
  if layout.signed then ['+'] else if layout.spaced then [' '] else []

/-- A point and zeros behind it; without zeros the point stands only where a
layout asks for it. -/
def Layout.fraction (layout : Layout) (places : Nat) : List Char :=
  if places = 0 then (if layout.marked then ['.'] else [])
  else '.' :: List.replicate places '0'

/-- The digit of a number. -/
def digit (n : Fin 8) : Char := Char.ofNat ('0'.toNat + n)

/-- The number of places that a slot shows when it does not tell. -/
def defaultPlaces : Nat := 6

/-- The conversions of numbers. -/
def numberConversions : List Char := "diuoxXeEfFgG".toList

/-- A number converted for a slot: whole, of a base, with a power of ten, with
places, or with as few places as there need to be. -/
def Layout.number (layout : Layout) (conversion : Char) (n : Fin 8) : NumberText :=
  let places := layout.precision.getD defaultPlaces
  let whole (_ : Unit) := List.replicate (layout.precision.getD 0 - 1) '0' ++ [digit n]
  if "diu".toList.contains conversion then ⟨layout.sign, [], whole ()⟩
  else if "oxX".toList.contains conversion then
    ⟨layout.sign, if layout.marked then ['0', conversion] else [], whole ()⟩
  else if "eE".toList.contains conversion then
    ⟨layout.sign, [], digit n :: layout.fraction places ++ [conversion, '+', '0', '0']⟩
  else if "fF".toList.contains conversion then
    ⟨layout.sign, [], digit n :: layout.fraction places⟩
  else ⟨layout.sign, [], digit n :: if layout.marked then layout.fraction (places - 1) else []⟩

/-- A number filled up to a slot's width: with zeros behind the mark of the
base, or with spaces at one of the ends. -/
def Layout.arrangeNumber (layout : Layout) (t : NumberText) : List Char :=
  let missing := layout.width - (t.sign ++ t.mark ++ t.body).length
  if layout.leftAligned then t.sign ++ t.mark ++ t.body ++ List.replicate missing ' '
  else if layout.zeroFilled then t.sign ++ t.mark ++ List.replicate missing '0' ++ t.body
  else List.replicate missing ' ' ++ t.sign ++ t.mark ++ t.body

/-- A number converted and laid out for a slot. -/
def convertNumber (layout : Layout) (conversion : Char) (n : Fin 8) : Except Failure (List Char) :=
  if "sra".toList.contains conversion then layout.arrange conversion [digit n]
  else if conversion = 'c' then layout.arrange conversion [Char.ofNat n]
  else if !numberConversions.contains conversion then .error .fragmentSlot
  else if Text.widthLimit < max layout.width (layout.precision.getD 0) then .error .outOfMemory
  else .ok (layout.arrangeNumber (layout.number conversion n))

/-- The pieces with their only slot filled. Where a slot takes its width or its
precision from the number, none is left for the slot itself. -/
def fillNumberPieces (n : Fin 8) : List Piece → Except Failure (List Char)
  | [] => .error .fragmentArguments
  | .text c :: ps => do
    let rest ← fillNumberPieces n ps
    .ok (c :: rest)
  | .slot layout conversion :: ps => do
    let s ← convertNumber layout conversion n
    let rest ← fillPieces ps []
    .ok (s ++ rest)
  | .malformed :: _ | .measured false :: _ => .error .fragmentSlot
  | .unsuited :: _ | .measured true :: _ => .error .fragmentArguments

/-- A fragment with its only slot filled with a number. -/
def fillNumber (fragment : String) (n : Fin 8) : Except Failure String :=
  (fillNumberPieces n (pieces fragment.toList)).map String.ofList

end Fragment
end ReportFilter
