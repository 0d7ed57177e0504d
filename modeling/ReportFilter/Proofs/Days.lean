/-
# Days counted from today

Behaviors that count days bound a field by a range of days (`Behavior.days`).
What they decide asks for bounds and hands nothing on. A bound can be had as
long as its days are in the calendar, the day before today among them for a lower
one; since the upper bound comes second, the lower one may be asked for without
it (`Decision.IsHalfDone`).

Key definitions: `Behavior.days`, `Decision.IsBounds`, `Decision.IsHalfDone`.
Key theorems: `Behavior.decide_days`, `Behavior.isBounds_decide`,
`DateRange.lower_ok_iff`, `DateRange.upper_ok_iff`,
`DateRange.isHalfDone_both_iff`.
-/
import ReportFilter.Proofs.Calls
import ReportFilter.Proofs.Frames
import ReportFilter.Situation

namespace ReportFilter

/-! ### Behaviors that count days -/

namespace Behavior

/-- The range of days that a behavior asks for, given the number of days. -/
def days : Behavior → Option (Int → Option Int × Option Int)
  | today => some fun _ => (some 0, some 0)
  | ago => some fun n => (some (-n), some (-n))
  | inDays => some fun n => (some n, some n)
  | moreThanAgo => some fun n => (none, some (-n))
  | lessThanAgo => some fun n => (some (-n), some 0)
  | inLessThan => some fun n => (some 0, some n)
  | inMoreThan => some fun n => (some n, none)
  | template | thisWeek | onDate | between | equals | notEquals | numericEquals | contains
  | notContains | alwaysTrue | forward | forwardAll => none

/-- **Behaviors that count days bound the field by a range**, if they can be
called with the values and the first one is a number of days. -/
theorem decide_days {b : Behavior} {range : Int → Option Int × Option Int} (h : b.days = some range)
    (s : Situation) (field : String) (values : List Value) :
    b.decide s field values =
      if b.accepts values.length then
        .ofExcept ((LeadingInteger.ofValue (values.headD .none)).map fun n =>
          DateRange.decide s.today (range n).1 (range n).2)
      else .fail .valueCount := by
  by_cases ha : b.accepts values.length = true
  · rw [if_pos ha]
    cases b with
    | today =>
      have hle : values.length ≤ 0 := ((accepts_iff today _).mp ha).2 0 rfl
      have hnil : values = [] := List.length_eq_zero_iff.mp (Nat.le_zero.mp hle)
      cases h
      subst hnil
      rfl
    | ago | inDays | moreThanAgo | lessThanAgo | inLessThan | inMoreThan =>
      cases h
      simp only [Behavior.decide, ha, Bool.not_true, Bool.false_eq_true, if_false]
    | template | thisWeek | onDate | between | equals | notEquals | numericEquals | contains
    | notContains | alwaysTrue | forward | forwardAll => cases h
  · rw [if_neg ha]
    exact decide_of_not_accepts (Bool.eq_false_iff.mpr ha) s field

end Behavior

/-! ### Bounds -/

/-- A bound by days. -/
def Condition.IsBound (c : Condition) : Prop := ∃ t, c = .after t ∨ c = .upTo t

theorem Condition.IsBound.isFramed {c : Condition} (h : c.IsBound) (d : Dialect) (field : String) :
    (c.clause d field).IsFramed ∧ ∀ v ∈ c.values, v.IsShort := by
  obtain ⟨t, rfl | rfl⟩ := h <;>
    refine ⟨Condition.isFramed_clause d field _ fun s h => (by cases h), fun v hv n hn => ?_⟩ <;>
    · rw [List.mem_singleton.mp hv] at hn
      cases hn

/-- A decision that asks for bounds and hands nothing on. -/
structure Decision.IsBounds (s : Decision) : Prop where
  conditions : ∀ c ∈ s.conditions, c.IsBound
  ending : ∀ validated values, s.ending ≠ .handOver validated values

theorem Decision.isBounds_fail (e : Failure) : (Decision.fail e).IsBounds :=
  ⟨fun c hc => (by cases hc), fun _ _ he => (by cases he)⟩

theorem Decision.IsBounds.andThen {a b : Decision} (ha : a.IsBounds) (hb : b.IsBounds) :
    (a.andThen b).IsBounds := by
  unfold Decision.andThen
  split
  · refine ⟨fun c hc => ?_, hb.ending⟩
    rcases List.mem_append.mp hc with hc | hc
    · exact ha.conditions c hc
    · exact hb.conditions c hc
  · exact ha

namespace DateRange

theorem bound_of_ok {condition : Int → Except Failure Condition} {n : Int} {c : Condition}
    (h : condition n = .ok c) : bound condition (some n) = .append c := by
  rw [bound, h]
  rfl

theorem bound_of_error {condition : Int → Except Failure Condition} {n : Int} {e : Failure}
    (h : condition n = .error e) : bound condition (some n) = .fail e := by
  rw [bound, h]
  rfl

theorem isBounds_bound {condition : Int → Except Failure Condition}
    (h : ∀ n c, condition n = .ok c → c.IsBound) (n : Option Int) :
    (bound condition n).IsBounds := by
  cases n with
  | none => exact ⟨fun c hc => (by cases hc), fun _ _ he => (by cases he)⟩
  | some m =>
    rcases hm : condition m with e | c
    · rw [bound_of_error hm]
      exact Decision.isBounds_fail e
    · rw [bound_of_ok hm]
      refine ⟨fun c' hc => ?_, fun _ _ he => (by cases he)⟩
      rw [List.mem_singleton.mp hc]
      exact h m c hm

/-- **A range of days asks for bounds**, and hands nothing on. -/
theorem isBounds_decide (today : Date) (first last : Option Int) :
    (decide today first last).IsBounds := by
  have hlower : ∀ n c, lower today n = .ok c → c.IsBound := by
    intro n c h
    obtain ⟨yesterday, -, h⟩ := exists_of_bind_eq_ok h
    obtain ⟨day, -, h⟩ := exists_of_bind_eq_ok h
    cases h
    exact ⟨_, .inl rfl⟩
  have hupper : ∀ n c, upper today n = .ok c → c.IsBound := by
    intro n c h
    obtain ⟨day, -, h⟩ := exists_of_bind_eq_ok h
    cases h
    exact ⟨_, .inr rfl⟩
  exact (isBounds_bound hlower first).andThen (isBounds_bound hupper last)

end DateRange

/-- So does a behavior that counts days. -/
theorem Behavior.isBounds_decide {b : Behavior} {range : Int → Option Int × Option Int}
    (h : b.days = some range) (s : Situation) (field : String) (values : List Value) :
    (b.decide s field values).IsBounds := by
  rw [decide_days h s field values]
  split
  · rcases LeadingInteger.ofValue (values.headD .none) with e | n
    · exact Decision.isBounds_fail e
    · exact DateRange.isBounds_decide s.today (range n).1 (range n).2
  · exact Decision.isBounds_fail .valueCount

/-! ### Days in the calendar -/

namespace Date

theorem plusDays_ok_iff {d : Date} {n : Int} :
    (∃ e, d.plusDays n = .ok e) ↔ 1 ≤ d.ordinal + n ∧ d.ordinal + n ≤ lastOrdinal := by
  rw [← ofOrdinal?_isSome_iff, plusDays, addDays?_of_span, addDays?]
  cases ofOrdinal? (d.ordinal + n) with
  | none => simp
  | some e => simp

theorem ordinal_of_plusDays {d e : Date} {n : Int} (h : d.plusDays n = .ok e) :
    (e.ordinal : Int) = d.ordinal + n := by
  rw [plusDays, addDays?_of_span] at h
  cases ha : d.addDays? n with
  | none =>
    rw [ha] at h
    cases h
  | some e' =>
    rw [ha] at h
    cases h
    exact ordinal_of_addDays? ha

end Date

namespace DateRange

/-- There is a lower bound unless today is the first day of the calendar or the
day before the bound is out of it. -/
theorem lower_ok_iff {today : Date} {n : Int} :
    (∃ c, lower today n = .ok c) ↔ 2 ≤ today.ordinal ∧ 1 ≤ today.ordinal - 1 + n ∧
      today.ordinal - 1 + n ≤ Date.lastOrdinal := by
  constructor
  · rintro ⟨c, h⟩
    obtain ⟨yesterday, hy, h⟩ := exists_of_bind_eq_ok h
    obtain ⟨day, hd, -⟩ := exists_of_bind_eq_ok h
    have hyr := Date.plusDays_ok_iff.mp ⟨_, hy⟩
    have hyo := Date.ordinal_of_plusDays hy
    have hdr := Date.plusDays_ok_iff.mp ⟨_, hd⟩
    omega
  · rintro ⟨ht, hn, hn'⟩
    have hle := today.ordinal_le
    obtain ⟨yesterday, hy⟩ := Date.plusDays_ok_iff (d := today) (n := -1) |>.mpr (by omega)
    have hyo := Date.ordinal_of_plusDays hy
    obtain ⟨day, hd⟩ := Date.plusDays_ok_iff (d := yesterday) (n := n) |>.mpr (by omega)
    refine ⟨.after (.endOfDay day), ?_⟩
    rw [lower, hy]
    show (yesterday.plusDays n >>= _) = _
    rw [hd]
    rfl

theorem upper_ok_iff {today : Date} {n : Int} :
    (∃ c, upper today n = .ok c) ↔ 1 ≤ today.ordinal + n ∧
      today.ordinal + n ≤ Date.lastOrdinal := by
  rw [← Date.plusDays_ok_iff]
  constructor
  · rintro ⟨c, h⟩
    obtain ⟨day, hd, -⟩ := exists_of_bind_eq_ok h
    exact ⟨day, hd⟩
  · rintro ⟨day, hd⟩
    refine ⟨.upTo (.endOfDay day), ?_⟩
    rw [upper, hd]
    rfl

end DateRange

/-! ### Decisions that fail half way -/

/-- A decision that asks for something and fails. -/
def Decision.IsHalfDone (s : Decision) : Prop := s.conditions ≠ [] ∧ ∃ e, s.ending = .fail e

namespace DateRange

/-- A single bound fails before it asks for anything. -/
theorem not_isHalfDone_bound (condition : Int → Except Failure Condition) (n : Option Int) :
    ¬ (bound condition n).IsHalfDone := by
  rintro ⟨hc, e, he⟩
  cases n with
  | none => exact hc rfl
  | some n =>
    rcases hn : condition n with e' | c
    · rw [bound_of_error hn] at hc
      exact hc rfl
    · rw [bound_of_ok hn] at he
      cases he

theorem append_andThen (c : Condition) (s : Decision) :
    (Decision.append c).andThen s = ⟨c :: s.conditions, s.ending⟩ := rfl

/-- **A range of days fails half way** when it has a lower bound but not the upper
one that it asks for. -/
theorem isHalfDone_iff {today : Date} {first last : Option Int} :
    (decide today first last).IsHalfDone ↔ ∃ a b, first = some a ∧ last = some b ∧
      (∃ c, lower today a = .ok c) ∧ ¬ ∃ c, upper today b = .ok c := by
  unfold decide
  constructor
  · intro h
    cases first with
    | none => exact absurd h (not_isHalfDone_bound (upper today) last)
    | some a =>
      rcases ha : lower today a with e | c
      · rw [bound_of_error ha] at h
        exact absurd rfl h.1
      · rw [bound_of_ok ha, append_andThen] at h
        obtain ⟨-, e, he⟩ := h
        cases last with
        | none => cases he
        | some b =>
          refine ⟨a, b, rfl, rfl, ⟨c, ha⟩, ?_⟩
          rintro ⟨c', hb⟩
          rw [bound_of_ok hb] at he
          cases he
  · rintro ⟨a, b, rfl, rfl, ⟨c, ha⟩, hb⟩
    rcases hb' : upper today b with e | c'
    · rw [bound_of_ok ha, append_andThen, bound_of_error hb']
      exact ⟨by simp, e, rfl⟩
    · exact absurd ⟨c', hb'⟩ hb

theorem not_isHalfDone_of_open {today : Date} {first last : Option Int}
    (h : first = none ∨ last = none) : ¬ (decide today first last).IsHalfDone := by
  rw [isHalfDone_iff]
  rintro ⟨a, b, rfl, rfl, -⟩
  rcases h with h | h <;> cases h

/-- In ordinals: the day before the first one is in the calendar, and the last one
is not. -/
theorem isHalfDone_both_iff {today : Date} {a b : Int} :
    (decide today (some a) (some b)).IsHalfDone ↔
      (2 ≤ today.ordinal ∧ 1 ≤ today.ordinal - 1 + a ∧ today.ordinal - 1 + a ≤ Date.lastOrdinal) ∧
        ¬ (1 ≤ today.ordinal + b ∧ today.ordinal + b ≤ Date.lastOrdinal) := by
  rw [isHalfDone_iff, ← lower_ok_iff, ← upper_ok_iff]
  constructor
  · rintro ⟨a', b', ha, hb, h⟩
    cases ha
    cases hb
    exact h
  · exact fun h => ⟨a, b, rfl, rfl, h⟩

end DateRange
end ReportFilter
