/-
# Calls with values

How many values a behavior can be called with follows from its parameters: there
is a least number, and a greatest one unless a parameter takes all further values.

Key definition: `Behavior.counts`.
Key theorems: `Signature.accepts_ofValues`, `Behavior.accepts_iff`.
-/
import ReportFilter.Behavior

namespace ReportFilter
namespace Signature

/-- A call gives values to parameters by position: not more than there are, unless
one takes all further ones, and one to each that needs it. -/
theorem accepts_ofValues {values more : List Parameter} (hv : ∀ p ∈ values, p.isPlace = true)
    (hm : ∀ p ∈ more, p = .rest) (count : Nat) :
    accepts (ofValues (values ++ more)) count =
      ((decide (count ≤ values.length) || !more.isEmpty) &&
        (values.drop count).all Parameter.hasDefault) := by
  have hplaces : (ofValues (values ++ more)).filter Parameter.isPlace =
      [.required, .required, .required] ++ values := by
    have hmore : more.filter Parameter.isPlace = [] := by
      rw [List.filter_eq_nil_iff]
      intro p hp
      rw [hm p hp]
      decide
    rw [ofValues, List.filter_append, List.filter_append, List.filter_eq_self.mpr hv, hmore,
      List.append_nil]
    rfl
  have hplace : ∀ p ∈ values, p.isVariadic = false ∧ ¬ p.kind = .keywordOnly := by
    intro p hp
    have hpl := hv p hp
    simp only [Parameter.isPlace, Bool.or_eq_true, decide_eq_true_eq] at hpl
    rcases hpl with hk | hk <;> simp [Parameter.isVariadic, hk]
  have hvariadic : (ofValues (values ++ more)).any Parameter.isVariadic = !more.isEmpty := by
    have hvalues : values.any Parameter.isVariadic = false :=
      List.any_eq_false.mpr fun p hp => by simp [(hplace p hp).1]
    rw [ofValues, List.any_append, List.any_append, hvalues]
    cases more with
    | nil => rfl
    | cons p more =>
      rw [List.any_cons, hm p List.mem_cons_self]
      rfl
  have hkeys : (ofValues (values ++ more)).filter (·.kind = .keywordOnly) = [] := by
    rw [List.filter_eq_nil_iff]
    intro p hp
    simp only [ofValues, List.mem_append] at hp
    rcases hp with hp | hp | hp
    · revert p
      decide
    · simpa using (hplace p hp).2
    · rw [hm p hp]
      decide
  have hdrop : ([Parameter.required, .required, .required] ++ values).drop (3 + count) =
      values.drop count := by
    rw [← List.drop_drop]
    rfl
  have hlen : 3 + count ≤ ([Parameter.required, .required, .required] ++ values).length ↔
      count ≤ values.length := by
    simp only [List.length_append, List.length_cons, List.length_nil]
    omega
  simp only [accepts, binds, hplaces, hvariadic, hkeys, hdrop, hlen, List.all_nil, Bool.and_true]
end Signature

namespace Behavior

/-- The least number of values, and the greatest one if there is any. -/
def counts : Behavior → Nat × Option Nat
  | today => (0, some 0)
  | ago | inDays | thisWeek => (0, some 1)
  | moreThanAgo | lessThanAgo | inLessThan | inMoreThan | onDate | numericEquals | forward =>
    (1, some 1)
  | between => (2, some 2)
  | template | equals | notEquals | contains | notContains | alwaysTrue => (0, none)
  | forwardAll => (1, none)

/-- **A behavior can be called with so many values.** -/
theorem accepts_iff (b : Behavior) (count : Nat) :
    b.accepts count = true ↔ b.counts.1 ≤ count ∧ ∀ n ∈ b.counts.2, count ≤ n := by
  have hcall : ∀ values more : List Parameter, (∀ p ∈ values, p.isPlace = true) →
      (∀ p ∈ more, p = .rest) → b.valueParameters = values ++ more →
        (b.accepts count = true ↔ (count ≤ values.length ∨ more ≠ []) ∧
          (values.drop count).all Parameter.hasDefault = true) := by
    intro values more hv hm hb
    rw [accepts, signature, hb, Signature.accepts_ofValues hv hm]
    simp
  cases b with
  | today =>
    rw [hcall [] [] (by decide) (by decide) rfl]
    simp [counts]
  | ago | inDays | thisWeek =>
    rw [hcall [.optional] [] (by decide) (by decide) rfl]
    rcases count with _ | _ | count <;> simp [counts, Parameter.optional]
  | moreThanAgo | lessThanAgo | inLessThan | inMoreThan | onDate | numericEquals | forward =>
    rw [hcall [.required] [] (by decide) (by decide) rfl]
    rcases count with _ | _ | count <;> simp [counts, Parameter.required]
  | between =>
    rw [hcall [.required, .required] [] (by decide) (by decide) rfl]
    rcases count with _ | _ | _ | count <;> simp [counts, Parameter.required]
  | template | equals | notEquals | contains | notContains | alwaysTrue =>
    rw [hcall [] [.rest] (by decide) (by decide) rfl]
    simp [counts]
  | forwardAll =>
    rw [hcall [.required] [.rest] (by decide) (by decide) rfl]
    rcases count with _ | _ | count <;> simp [counts, Parameter.required]

theorem accepts_of_rest {b : Behavior} (h : b.counts = (0, none)) (count : Nat) :
    b.accepts count = true := by
  rw [accepts_iff, h]
  exact ⟨Nat.zero_le _, fun n hn => (by cases hn)⟩

theorem not_accepts_of_lt {b : Behavior} {n count : Nat} (hn : n ∈ b.counts.2) (h : n < count) :
    b.accepts count = false := by
  rw [Bool.eq_false_iff]
  intro ha
  exact absurd (((accepts_iff b count).mp ha).2 n hn) (Nat.not_le_of_lt h)

end Behavior
end ReportFilter
