/-
# Quoted texts

How a text is shown inside a message: between single quotes, or between double
quotes when it holds a single quote and no double quote. The quote in use and
the backslash get a backslash; tab, line feed and carriage return have short
escapes; every other character that is not printable is written by its code
point in two, four or eight hexadecimal digits.

Key definitions: `Text.quoted`, `Text.asciiQuoted`.
Key theorem: `Text.quoted_of_plain`.
-/
import ReportFilter.Text.Printable

namespace ReportFilter
namespace Text

/-- One hexadecimal digit, in lower case. -/
def hexDigit (n : Nat) : Char :=
  if n < 10 then Char.ofNat (48 + n) else Char.ofNat (87 + n)

/-- The last `width` hexadecimal digits of a number. -/
def hex : Nat → Nat → List Char
  | 0, _ => []
  | width + 1, n => hex width (n / 16) ++ [hexDigit (n % 16)]

/-- A character written by its code point. -/
def codeEscape (c : Char) : List Char :=
  let n := c.toNat
  if n ≤ 0xff then '\\' :: 'x' :: hex 2 n
  else if n ≤ 0xffff then '\\' :: 'u' :: hex 4 n
  else '\\' :: 'U' :: hex 8 n

/-- A character between quotes of the kind `quote`; `shown` says which
characters stand for themselves. -/
def escapeChar (shown : Char → Bool) (quote c : Char) : List Char :=
  if c = quote ∨ c = '\\' then ['\\', c]
  else if c = '\t' then ['\\', 't']
  else if c = '\n' then ['\\', 'n']
  else if c = '\r' then ['\\', 'r']
  else if shown c then [c]
  else codeEscape c

/-- The quote that a text is put between. -/
def quoteFor (s : List Char) : Char :=
  if s.contains '\'' && !s.contains '"' then '"' else '\''

/-- A text between quotes; `shown` says which characters stand for themselves. -/
def quotedBy (shown : Char → Bool) (s : List Char) : List Char :=
  let quote := quoteFor s
  quote :: s.flatMap (escapeChar shown quote) ++ [quote]

/-- A text between quotes. -/
def quoted (s : List Char) : List Char := quotedBy isPrintable s

/-- A text between quotes, in ASCII alone. -/
def asciiQuoted (s : List Char) : List Char :=
  quotedBy (fun c => 0x20 ≤ c.toNat && c.toNat < 0x7f) s

/-- A printable text without quotes and backslashes is shown as it is. -/
theorem quoted_of_plain {s : List Char}
    (h : ∀ c ∈ s, isPrintable c = true ∧ c ≠ '\'' ∧ c ≠ '\\') :
    quoted s = '\'' :: s ++ ['\''] := by
  have hq : quoteFor s = '\'' := by
    have : s.contains '\'' = false := by
      simp only [List.contains_eq_mem, decide_eq_false_iff_not]
      exact fun hm => (h _ hm).2.1 rfl
    simp only [quoteFor, this, Bool.false_and]
    rfl
  have hs : s.flatMap (escapeChar isPrintable '\'') = s := by
    clear hq
    induction s with
    | nil => rfl
    | cons c s ih =>
      obtain ⟨h1, h2, h3⟩ := h c (by simp)
      have ht : c ≠ '\t' := by rintro rfl; exact absurd h1 (by decide)
      have hn : c ≠ '\n' := by rintro rfl; exact absurd h1 (by decide)
      have hr : c ≠ '\r' := by rintro rfl; exact absurd h1 (by decide)
      rw [List.flatMap_cons, ih fun d hd => h d (by simp [hd])]
      simp [escapeChar, h1, h2, h3, ht, hn, hr]
  simp [quoted, quotedBy, hq, hs]

end Text
end ReportFilter
