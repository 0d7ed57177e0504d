/-
# Rounding

The whole number nearest to a quotient; of two equally near ones the even one.

Key definition: `roundedQuotient`.
Key theorem: `roundedQuotient_error`.
-/

namespace ReportFilter

/-- The whole number nearest to a quotient, the even one of two. -/
def roundedQuotient (num den : Nat) : Nat :=
  let q := num / den
  let r := num % den
  if 2 * r < den ∨ (2 * r = den ∧ q % 2 = 0) then q else q + 1

/-- Rounding moves a quotient by at most one half. -/
theorem roundedQuotient_error (num : Nat) {den : Nat} (h : 0 < den) :
    2 * num ≤ (2 * roundedQuotient num den + 1) * den ∧
      2 * roundedQuotient num den * den ≤ 2 * num + den := by
  have hq := Nat.div_add_mod' num den
  have hr := Nat.mod_lt num h
  have expand (k : Nat) : (2 * k + 1) * den = 2 * (k * den) + den ∧
      2 * k * den = 2 * (k * den) ∧ (k + 1) * den = k * den + den := by
    simp [Nat.add_mul, Nat.mul_assoc]
  simp only [roundedQuotient]
  generalize num / den = q at *
  generalize num % den = r at *
  have e := expand q
  have e' := expand (q + 1)
  split <;> omega

end ReportFilter
