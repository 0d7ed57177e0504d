/-
# White space

Which characters count as white space, and what is left of a text when the
white space around it is cut off. The set is that of the Unicode standard,
with the four separator controls `U+001C` to `U+001F`.

Key definitions: `Text.isBlank`, `Text.trim`.
Key theorems: `Text.isBlank_of_isWhitespace`, `Text.trim_eq_nil_iff`.
-/
import ReportFilter.Text.Ranges

namespace ReportFilter
namespace Text

/-- The code points of white space. -/
def blankRanges : List (Nat × Nat) :=
  [(0x9, 0xd), (0x1c, 0x20), (0x85, 0x85), (0xa0, 0xa0), (0x1680, 0x1680),
   (0x2000, 0x200a), (0x2028, 0x2029), (0x202f, 0x202f), (0x205f, 0x205f), (0x3000, 0x3000)]

/-- Whether a character is white space. -/
def isBlank (c : Char) : Bool := within blankRanges c

/-- ASCII white space is white space. -/
theorem isBlank_of_isWhitespace {c : Char} (h : c.isWhitespace = true) : isBlank c = true := by
  simp only [Char.isWhitespace, Bool.or_eq_true, decide_eq_true_eq] at h
  rcases h with ((rfl | rfl) | rfl) | rfl <;> decide

/-- A text without the white space at its two ends. -/
def trim (s : List Char) : List Char :=
  ((s.dropWhile isBlank).reverse.dropWhile isBlank).reverse

/-- Nothing is left of a text when all of it is white space. -/
theorem trim_eq_nil_iff {s : List Char} : trim s = [] ↔ s.all isBlank = true := by
  have h : ∀ l : List Char, l.dropWhile isBlank = [] ↔ l.all isBlank = true := by
    intro l
    induction l with
    | nil => simp
    | cons c l ih => cases hc : isBlank c <;> simp [hc, ih]
  rw [trim, List.reverse_eq_nil_iff, h, List.all_reverse]
  constructor
  · intro hs
    induction s with
    | nil => rfl
    | cons c l ih =>
      cases hc : isBlank c
      · simp [hc] at hs
      · simp only [List.dropWhile_cons, hc, if_true] at hs
        simp [hc, ih hs]
  · intro hs
    rw [(h s).mpr hs]
    rfl

end Text
end ReportFilter
