/-
# Patterns for LIKE

A pattern matches a text literally when its two wildcards and the escape
character itself are escaped.

Key definitions: `Like.escape`, `Like.containing`.
Key theorem: `Like.escape_of_plain`.
-/

namespace ReportFilter
namespace Like

/-- A character that a pattern matches as it is. -/
def escapeChar (c : Char) : List Char :=
  if c = '\\' ∨ c = '%' ∨ c = '_' then ['\\', c] else [c]

/-- The pattern that matches exactly the given text. -/
def escape (s : String) : String := String.ofList (s.toList.flatMap escapeChar)

/-- The pattern that matches every text in which the given text occurs. -/
def containing (s : String) : String := "%" ++ escape s ++ "%"

/-- A text without wildcards and backslashes is its own pattern. -/
theorem escape_of_plain {s : String} (h : ∀ c ∈ s.toList, c ≠ '\\' ∧ c ≠ '%' ∧ c ≠ '_') :
    escape s = s := by
  have : s.toList.flatMap escapeChar = s.toList := by
    generalize s.toList = l at h
    induction l with
    | nil => rfl
    | cons c l ih =>
      rw [List.flatMap_cons, ih fun d hd => h d (by simp [hd])]
      simp [escapeChar, h c (by simp)]
  rw [escape, this, String.ofList_toList]

end Like
end ReportFilter
