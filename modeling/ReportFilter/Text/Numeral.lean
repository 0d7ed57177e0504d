/-
# Numerals

Whole numbers written in base ten, and the leading digits of a text read back.
Writing uses ASCII digits; reading takes the decimal digits of every script.

Key definitions: `Text.numeral`, `Text.signed`, `Text.padded`, `Text.takeSign`,
`Text.takeDigits`.
Key theorem: `Text.takeDigits_append`.
-/
import ReportFilter.Text.DecimalDigit

namespace ReportFilter
namespace Text

/-- A whole number in base ten. -/
def numeral (n : Nat) : List Char := Nat.toDigits 10 n

/-- An integer in base ten, with a sign when it is negative. -/
def signed : Int → List Char
  | .ofNat n => numeral n
  | .negSucc n => '-' :: numeral (n + 1)

/-- A whole number in base ten with zeros in front up to a width. -/
def padded (width n : Nat) : List Char :=
  List.replicate (width - (numeral n).length) '0' ++ numeral n

/-- The most digits that an integer is written or read with. -/
def digitLimit : Nat := 4300

/-- The greatest width that a text is filled up to: 2 ^ 28 characters, which take a quarter
of a gibibyte. Wider texts are taken not to fit into memory. How wide a text has to be for
that depends on the machine, so the number is an estimate. -/
def widthLimit : Nat := 268435456

/-- A sign in front of a text, and the text after it. -/
def takeSign : List Char → Bool × List Char
  | '-' :: s => (true, s)
  | '+' :: s => (false, s)
  | s => (false, s)

/-- The values of the leading digits of a text, and the text after them. -/
def takeDigits : List Char → List Nat × List Char
  | [] => ([], [])
  | c :: s =>
    match digit? c with
    | some d => let (ds, rest) := takeDigits s; (d :: ds, rest)
    | none => ([], c :: s)

/-- All leading digits are taken, and no more. -/
theorem takeDigits_append (ds : List Char) (vs : List Nat) (rest : List Char)
    (h : ds.map digit? = vs.map some) (hr : ∀ c r, rest = c :: r → digit? c = none) :
    takeDigits (ds ++ rest) = (vs, rest) := by
  induction ds generalizing vs with
  | nil =>
    cases vs with
    | cons => simp at h
    | nil =>
      cases rest with
      | nil => rfl
      | cons c r => simp [takeDigits, hr c r rfl]
  | cons a ds ih =>
    cases vs with
    | nil => simp at h
    | cons v vs =>
      simp only [List.map_cons, List.cons.injEq] at h
      simp [takeDigits, h.1, ih vs h.2]

end Text
end ReportFilter
