/-
# Lower case

The full lower case of a text, by the Unicode standard: each letter has one
lower case form, except that a capital I with a dot becomes two characters and
a capital sigma becomes a final sigma where a word ends.

Key definitions: `Text.lower`, `Text.endsWord`.
-/
import ReportFilter.Text.CaseTable
import ReportFilter.Text.Ranges

namespace ReportFilter
namespace Text

/-- The lower case form of a letter that has a form of one character; any
other character is its own. -/
def lowerLetter (c : Char) : Char :=
  let n := c.toNat
  match lowerRuns.find? fun r => r.first ≤ n && n ≤ r.last && (n - r.first) % r.step == 0 with
  | some r => Char.ofNat (n - r.first + r.image)
  | none => c

/-- Whether the nearest character that is not case-ignorable has case. -/
def meetsCased (s : List Char) : Bool :=
  match s.dropWhile (within caseIgnorableRanges) with
  | [] => false
  | c :: _ => within casedRanges c

/-- Whether a sigma between `before` (nearest character first) and `after`
ends a word: a letter stands before it and none after it. -/
def endsWord (before after : List Char) : Bool :=
  meetsCased before && !meetsCased after

/-- The lower case form of one character between its neighbours. -/
def lowerChar (before : List Char) (c : Char) (after : List Char) : List Char :=
  if c = 'Σ' then [if endsWord before after then 'ς' else 'σ']
  else if c = 'İ' then ['i', '\u0307']
  else [lowerLetter c]

/-- The lower case of a text that follows `before` (nearest character first). -/
def lowerFrom : List Char → List Char → List Char
  | _, [] => []
  | before, c :: after => lowerChar before c after ++ lowerFrom (c :: before) after

/-- The lower case of a text. -/
def lower (s : List Char) : List Char := lowerFrom [] s

end Text
end ReportFilter
