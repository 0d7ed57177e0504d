/-
# Numbers in groups of digits

A number may be written with white space around it and with underscores
between its digits, one at a time. Of the ASCII characters only the space and
the five controls from the tab on are white space here.

Key definitions: `Text.unspaced`, `Text.ungrouped?`, `Text.integer?`.
Key theorem: `Text.ungrouped?_of_plain`.
-/
import ReportFilter.Text.Blank
import ReportFilter.Text.Numeral

namespace ReportFilter
namespace Text

/-- White space around a number. -/
def isMargin (c : Char) : Bool :=
  if c.toNat < 127 then c == ' ' || (9 ≤ c.toNat && c.toNat ≤ 13) else isBlank c

/-- A number without the white space around it. -/
def unspaced (s : List Char) : List Char :=
  ((s.dropWhile isMargin).reverse.dropWhile isMargin).reverse

/-- A text without its underscores, if each of them stands alone between two
digits; `behindDigit` tells that a digit stands in front of the text. -/
def ungroupedFrom? (behindDigit : Bool) : List Char → Option (List Char)
  | [] => some []
  | c :: s =>
    if c = '_' then
      match s with
      | [] => none
      | d :: r =>
        if behindDigit && isDigit d then (ungroupedFrom? true r).map (d :: ·) else none
    else (ungroupedFrom? (isDigit c) s).map (c :: ·)

/-- A text without its underscores, if each stands alone between two digits. -/
def ungrouped? (s : List Char) : Option (List Char) := ungroupedFrom? false s

/-- A text without underscores stays as it is. -/
theorem ungrouped?_of_plain {s : List Char} (h : ∀ c ∈ s, c ≠ '_') : ungrouped? s = some s := by
  suffices ∀ b, ungroupedFrom? b s = some s from this false
  induction s with
  | nil => intro b; rfl
  | cons c s ih =>
    intro b
    have hc : c ≠ '_' := h c (by simp)
    unfold ungroupedFrom?
    rw [if_neg hc, ih (fun d hd => h d (by simp [hd])) (isDigit c)]
    rfl

/-- The integer that a text writes: an optional sign and digits, which may be
those of any script. -/
def integer? (s : List Char) : Option Int := do
  let (negative, s) := takeSign (← ungrouped? (unspaced s))
  match takeDigits s with
  | (ds, []) =>
    if ds = [] ∨ digitLimit < ds.length then none
    else some (if negative then -digitsValue ds else digitsValue ds)
  | _ => none

end Text
end ReportFilter
