/-
# Week starts

A date's week starts at most six days before it, on the first day of the week. On the
integers there is always one such place, whatever number the first day has
(`Date.weekStart_eq_iff`); the calendar has a date there unless it comes before 0001-01-01
(`Date.weekBeginning_eq_ok_iff`, `Date.weekBeginning_eq_error_iff`). The program looks for
the place with two remainders by seven, one of the day of the week counted from Sunday and
one of the first day, and takes their difference by seven again.

A week start moves on only when a first day of the week is passed, so two dates have the
same one, or none, exactly when there is no first day behind the earlier date up to the
later one (`Date.weekBeginning_eq_weekBeginning_iff`).

Key definition: `Date.weekStart`.
Key theorems: `Date.weekStart_eq_iff`, `Date.weekBeginning_eq_error_iff`,
`Date.weekBeginning_eq_weekBeginning_iff`, `Date.weekBeginning_isWeekStart`.
-/
import ReportFilter.Proofs.Weeks

namespace ReportFilter
namespace Date

variable {c d e r : Date} {m n : Int} {f : Failure}

/-! ### On the integers -/

/-- The ordinal that the start of a date's week has, or would have if the calendar went
on before its first date. -/
def weekStart (d : Date) (firstDay : Int) : Int := d.ordinal - (d.ordinal - firstDay) % 7

/-- **There is one place for the start of a week**: at most six days back, on the first
day. -/
theorem weekStart_eq_iff {k : Int} :
    d.weekStart n = k ↔ k ≤ d.ordinal ∧ d.ordinal - k ≤ 6 ∧ k % 7 = n % 7 := by
  unfold weekStart
  omega

theorem weekStart_le (d : Date) (n : Int) : d.weekStart n ≤ d.ordinal :=
  (weekStart_eq_iff.mp rfl).1

theorem le_weekStart (hday : (c.weekday : Int) = n % 7) (hle : c.ordinal ≤ d.ordinal) :
    (c.ordinal : Int) ≤ d.weekStart n := by
  unfold weekday at hday
  unfold weekStart
  omega

theorem weekStart_congr (h : m % 7 = n % 7) : d.weekStart m = d.weekStart n := by
  unfold weekStart
  omega

theorem weekStart_mono (h : d.ordinal ≤ e.ordinal) : d.weekStart n ≤ e.weekStart n := by
  unfold weekStart
  omega

theorem weekStart_of_weekday (h : (c.weekday : Int) = n % 7) : c.weekStart n = c.ordinal :=
  Int.le_antisymm (c.weekStart_le n) (le_weekStart h (Nat.le_refl _))

/-- From the start of a later date's week on, all dates up to it have its week start. -/
theorem weekStart_eq_of_le (hle : d.ordinal ≤ e.ordinal) (hstart : e.weekStart n ≤ d.ordinal) :
    d.weekStart n = e.weekStart n := by
  obtain ⟨-, hsix, hday⟩ := weekStart_eq_iff.mp (rfl : e.weekStart n = e.weekStart n)
  exact weekStart_eq_iff.mpr ⟨hstart, by omega, hday⟩

/-! ### In the calendar -/

theorem exists_of_ordinal {k : Int} (h : 1 ≤ k) (hlast : k ≤ lastOrdinal) :
    ∃ c : Date, (c.ordinal : Int) = k := by
  obtain ⟨c, hc⟩ := Option.isSome_iff_exists.mp (ofOrdinal?_isSome_iff.mpr ⟨h, hlast⟩)
  exact ⟨c, ordinal_of_ofOrdinal? hc⟩

theorem plusDays_eq_error_iff :
    d.plusDays n = .error f ↔
      f = .outOfCalendar ∧ (d.ordinal + n < 1 ∨ (lastOrdinal : Int) < d.ordinal + n) := by
  have hok := plusDays_ok_iff (d := d) (n := n)
  constructor
  · intro h
    have hnone : ¬ ∃ e, d.plusDays n = .ok e := by
      rintro ⟨e, he⟩
      rw [h] at he
      cases he
    have hout := mt hok.mpr hnone
    refine ⟨?_, by omega⟩
    unfold plusDays at h
    split at h
    · cases h
    · exact (Except.error.inj h).symm
  · rintro ⟨rfl, hout⟩
    unfold plusDays
    split
    · next e he =>
      have hsome : d.plusDays n = .ok e := by
        unfold plusDays
        rw [he]
      have := hok.mp ⟨e, hsome⟩
      omega
    · rfl

/-- The days that are counted back, with the day of the week shifted from one numbering to
the other, lead to the one place on the integers. -/
theorem daysIntoWeek_eq (d : Date) (n : Int) : d.daysIntoWeek n = d.ordinal - d.weekStart n := by
  unfold daysIntoWeek weekStart
  rw [weekday_eq_daysSinceMonday]
  unfold daysSinceMonday
  omega

theorem weekBeginning_eq_plusDays (d : Date) (n : Int) :
    d.weekBeginning (.int n) = d.plusDays (d.weekStart n - d.ordinal) := by
  rw [weekBeginning_int, daysIntoWeek_eq, Int.neg_sub]

/-- **The start of a week is the date in its place.** -/
theorem weekBeginning_eq_ok_iff :
    d.weekBeginning (.int n) = .ok r ↔ d.weekStart n = r.ordinal := by
  rw [weekBeginning_eq_plusDays, plusDays_eq_ok_iff]
  omega

theorem exists_weekBeginning (h : 1 ≤ d.weekStart n) :
    ∃ r, d.weekBeginning (.int n) = .ok r := by
  have hle := d.weekStart_le n
  have hlast := d.ordinal_le
  obtain ⟨r, hr⟩ := exists_of_ordinal h (by omega)
  exact ⟨r, weekBeginning_eq_ok_iff.mpr hr.symm⟩

/-- **It is out of the calendar when its place comes before the first date.** -/
theorem weekBeginning_eq_error_iff :
    d.weekBeginning (.int n) = .error f ↔ f = .outOfCalendar ∧ d.weekStart n < 1 := by
  have hle := d.weekStart_le n
  have hlast := d.ordinal_le
  rw [weekBeginning_eq_plusDays, plusDays_eq_error_iff]
  constructor
  · rintro ⟨hf, hout⟩
    exact ⟨hf, by omega⟩
  · rintro ⟨hf, hout⟩
    exact ⟨hf, .inl (by omega)⟩

/-- Weeks that start in the same place start on the same date, or both before the
calendar. -/
theorem weekBeginning_congr (h : d.weekStart n = e.weekStart m) :
    d.weekBeginning (.int n) = e.weekBeginning (.int m) := by
  rcases hd : d.weekBeginning (.int n) with f | r
  · obtain ⟨hf, hout⟩ := weekBeginning_eq_error_iff.mp hd
    exact (weekBeginning_eq_error_iff.mpr ⟨hf, h ▸ hout⟩).symm
  · have hr := weekBeginning_eq_ok_iff.mp hd
    exact (weekBeginning_eq_ok_iff.mpr (h ▸ hr)).symm

/-- **A week start moves on only past a first day of the week.** -/
theorem weekBeginning_eq_weekBeginning_iff (h : d.ordinal ≤ e.ordinal) :
    d.weekBeginning (.int n) = e.weekBeginning (.int n) ↔
      ¬ ∃ c : Date, (c.weekday : Int) = n % 7 ∧ d.ordinal < c.ordinal ∧
        c.ordinal ≤ e.ordinal := by
  constructor
  · rintro hsame ⟨c, hday, hlt, hle⟩
    -- the later week starts at `c` or behind it, so in the calendar, and not in the earlier week
    have hc := le_weekStart hday hle
    have hpos := c.ordinal_pos
    rcases he : e.weekBeginning (.int n) with f | r
    · have := (weekBeginning_eq_error_iff.mp he).2
      omega
    · have hr := weekBeginning_eq_ok_iff.mp he
      have hr' := weekBeginning_eq_ok_iff.mp (hsame.trans he)
      have := d.weekStart_le n
      omega
  · intro hnone
    apply weekBeginning_congr
    apply weekStart_eq_of_le h
    by_contra hlt
    obtain ⟨hle, -, hday⟩ := weekStart_eq_iff.mp (rfl : e.weekStart n = e.weekStart n)
    have hpos := d.ordinal_pos
    have hlast := e.ordinal_le
    obtain ⟨c, hc⟩ := exists_of_ordinal (k := e.weekStart n) (by omega) (by omega)
    refine hnone ⟨c, ?_, by omega, by omega⟩
    unfold weekday
    omega

/-- **The start of a week is unique.** It is the only date at most six days back that falls
on the first day of the week. So it starts its own week, later dates have a week start that
is no earlier, the first day counts by seven, and two dates have the same week start exactly when
no first day lies behind the earlier one up to the later one. It is missing, and the
calendar is left, exactly when the place for it comes before 0001-01-01. -/
theorem weekBeginning_isWeekStart (n : Int) :
    (∀ d r : Date, d.weekBeginning (.int n) = .ok r ↔
      r.ordinal ≤ d.ordinal ∧ d.ordinal - r.ordinal ≤ 6 ∧ (r.weekday : Int) = n % 7) ∧
    (∀ d r : Date, d.weekBeginning (.int n) = .ok r → r.weekBeginning (.int n) = .ok r) ∧
    (∀ d e r : Date, d.ordinal ≤ e.ordinal → d.weekBeginning (.int n) = .ok r →
      ∃ s, e.weekBeginning (.int n) = .ok s ∧ r.ordinal ≤ s.ordinal) ∧
    (∀ (d : Date) (m : Int), m % 7 = n % 7 →
      d.weekBeginning (.int m) = d.weekBeginning (.int n)) ∧
    (∀ d e : Date, d.ordinal ≤ e.ordinal →
      (d.weekBeginning (.int n) = e.weekBeginning (.int n) ↔
        ¬ ∃ c : Date, (c.weekday : Int) = n % 7 ∧ d.ordinal < c.ordinal ∧
          c.ordinal ≤ e.ordinal)) ∧
    (∀ d : Date, ∃ k : Int,
      (∀ j : Int, j ≤ d.ordinal ∧ d.ordinal - j ≤ 6 ∧ j % 7 = n % 7 ↔ k = j) ∧
        ∀ f, d.weekBeginning (.int n) = .error f ↔ f = .outOfCalendar ∧ k < 1) ∧
    Failure.outOfCalendar.kind = .overflow := by
  refine ⟨fun d r => ?_, fun d r hr => ?_, fun d e r hle hr => ?_, fun d m hm => ?_,
    fun d e hle => weekBeginning_eq_weekBeginning_iff hle, fun d => ?_, rfl⟩
  · rw [weekBeginning_eq_ok_iff, weekStart_eq_iff]
    unfold weekday
    omega
  · have hstart := weekBeginning_eq_ok_iff.mp hr
    obtain ⟨-, -, hday⟩ := weekStart_eq_iff.mp hstart
    have hweekday : (r.weekday : Int) = n % 7 := by
      unfold weekday
      omega
    exact weekBeginning_eq_ok_iff.mpr (weekStart_of_weekday hweekday)
  · have hr := weekBeginning_eq_ok_iff.mp hr
    have hmono := weekStart_mono (n := n) hle
    have hpos := r.ordinal_pos
    obtain ⟨s, hs⟩ := exists_weekBeginning (d := e) (n := n) (by omega)
    have hs' := weekBeginning_eq_ok_iff.mp hs
    exact ⟨s, hs, by omega⟩
  · exact weekBeginning_congr (weekStart_congr hm)
  · exact ⟨d.weekStart n, fun k => weekStart_eq_iff.symm, fun f => weekBeginning_eq_error_iff⟩

/-- Weeks that start on Saturday, the day of which is given as -1. The first week of the
calendar that is whole starts on its sixth day. -/
theorem weekBeginning_isWeekStart_saturday :
    let d : Date := ⟨2024, 1, 17, by decide, by decide, by decide, by decide⟩
    let e : Date := ⟨2024, 1, 19, by decide, by decide, by decide, by decide⟩
    let r : Date := ⟨2024, 1, 13, by decide, by decide, by decide, by decide⟩
    let early : Date := ⟨1, 1, 3, by decide, by decide, by decide, by decide⟩
    (r.ordinal ≤ d.ordinal ∧ d.ordinal - r.ordinal ≤ 6 ∧ (r.weekday : Int) = -1 % 7) ∧
      d.weekBeginning (.int (-1)) = .ok r ∧ r.weekBeginning (.int (-1)) = .ok r ∧
      d.ordinal ≤ e.ordinal ∧
      (∃ s, e.weekBeginning (.int (-1)) = .ok s ∧ r.ordinal ≤ s.ordinal) ∧
      d.weekBeginning (.int 6) = d.weekBeginning (.int (-1)) ∧
      d.weekBeginning (.int (-1)) = e.weekBeginning (.int (-1)) ∧
      early.weekBeginning (.int (-1)) = .error .outOfCalendar := by
  intro d e r early
  obtain ⟨hiff, hself, hmono, hseven, hsame, hout, -⟩ := weekBeginning_isWeekStart (-1)
  have hstart : r.ordinal ≤ d.ordinal ∧ d.ordinal - r.ordinal ≤ 6 ∧
      (r.weekday : Int) = -1 % 7 := by decide
  have hle : d.ordinal ≤ e.ordinal := by decide
  have hd : d.weekBeginning (.int (-1)) = .ok r := (hiff d r).mpr hstart
  have hnone : ¬ ∃ c : Date, (c.weekday : Int) = -1 % 7 ∧ d.ordinal < c.ordinal ∧
      c.ordinal ≤ e.ordinal := by
    rintro ⟨c, hc, hlt, hle⟩
    have hdord : d.ordinal = 738902 := by decide
    have heord : e.ordinal = 738904 := by decide
    unfold weekday at hc
    omega
  obtain ⟨k, hk, hearly⟩ := hout early
  have hplace : k = -1 := (hk (-1)).mp (by decide)
  exact ⟨hstart, hd, hself d r hd, hle, hmono d e r hle hd, hseven d 6 (by decide),
    (hsame d e hle).mpr hnone, (hearly _).mpr ⟨rfl, by omega⟩⟩

end Date
end ReportFilter
