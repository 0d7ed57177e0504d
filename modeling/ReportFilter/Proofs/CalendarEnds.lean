/-
# The ends of the calendar

Days relative to today are added to dates in several steps, each with a limit of its own:
a span holds a limited number of days, the calendar has a first and a last date, a lower
bound goes by way of yesterday, and a week ends seven days after its start. From any date
the calendar's ends are the nearest of these limits, so that what has to be in the
calendar are the days themselves, and yesterday and the start of today's week on the way
to them. Where one is missing, the failure is that a date is out of the calendar, and
no other (`OnlyLeavesCalendar`).

Key definitions: `OnlyLeavesCalendar`, `Attempt.SucceedsWithin`.
Key theorems: `Date.exists_weekEnds_iff`, `Work.dateRange_succeedsWithin`,
`Work.week_succeedsWithin`, `Work.succeeds_in_calendar`.
-/
import ReportFilter.Proofs.DayTiling
import ReportFilter.Proofs.WeekStarts

namespace ReportFilter

/-! ### Failures -/

/-- If there is no result, the reason is that a date is out of the calendar. -/
def OnlyLeavesCalendar {α : Type} (x : Except Failure α) : Prop :=
  ∀ f, x = .error f → f = .outOfCalendar

section
variable {α β : Type} {x : Except Failure α} {g : α → Except Failure β}

theorem onlyLeavesCalendar_ok (a : α) : OnlyLeavesCalendar (.ok a) := fun f hf => by cases hf

theorem OnlyLeavesCalendar.bind (hx : OnlyLeavesCalendar x) (hg : ∀ a, OnlyLeavesCalendar (g a)) :
    OnlyLeavesCalendar (x >>= g) := by
  cases x with
  | error f => exact fun f' hf' => hx f' (congrArg _ (Except.error.inj hf'))
  | ok a => exact hg a

/-- Without a result the failure is known. -/
theorem OnlyLeavesCalendar.eq_error (hx : OnlyLeavesCalendar x) (h : ¬ ∃ a, x = .ok a) :
    x = .error .outOfCalendar := by
  cases x with
  | error f => rw [hx f rfl]
  | ok a => exact absurd ⟨a, rfl⟩ h

end

namespace Date

variable {d : Date} {n o : Int}

theorem onlyLeavesCalendar_plusDays (d : Date) (n : Int) : OnlyLeavesCalendar (d.plusDays n) :=
  fun _ hf => (plusDays_eq_error_iff.mp hf).1

theorem onlyLeavesCalendar_weekBeginning (d : Date) (n : Int) :
    OnlyLeavesCalendar (d.weekBeginning (.int n)) :=
  fun _ hf => (weekBeginning_eq_error_iff.mp hf).1

/-! ### The ends of a week -/

theorem onlyLeavesCalendar_weekEnds (d : Date) (n o : Int) : OnlyLeavesCalendar (d.weekEnds n o) :=
  (d.onlyLeavesCalendar_weekBeginning n).bind fun first =>
    (first.onlyLeavesCalendar_plusDays (-o)).bind fun start =>
      (start.onlyLeavesCalendar_plusDays 7).bind fun _ => onlyLeavesCalendar_ok _

/-- **A week has its ends** when today's week starts in the calendar and so does the week
that it is moved back to, which also has its last day there. -/
theorem exists_weekEnds_iff :
    (∃ ends, d.weekEnds n o = .ok ends) ↔
      1 ≤ d.weekStart n ∧ 1 ≤ d.weekStart n - o ∧ d.weekStart n - o + 7 ≤ lastOrdinal := by
  constructor
  · rintro ⟨ends, h⟩
    obtain ⟨first, hfirst, h⟩ := exists_of_bind_eq_ok h
    obtain ⟨start, hstart, h⟩ := exists_of_bind_eq_ok h
    obtain ⟨stop, hstop, -⟩ := exists_of_bind_eq_ok h
    have hf := weekBeginning_eq_ok_iff.mp hfirst
    have hs := ordinal_of_plusDays hstart
    have he := ordinal_of_plusDays hstop
    have hfpos := first.ordinal_pos
    have hspos := start.ordinal_pos
    have hle := stop.ordinal_le
    omega
  · rintro ⟨hpos, hstart, hstop⟩
    obtain ⟨first, hfirst⟩ := exists_weekBeginning hpos
    have hf := weekBeginning_eq_ok_iff.mp hfirst
    obtain ⟨start, hs⟩ := plusDays_ok_iff (d := first) (n := -o) |>.mpr (by omega)
    have hso := ordinal_of_plusDays hs
    obtain ⟨stop, he⟩ := plusDays_ok_iff (d := start) (n := 7) |>.mpr (by omega)
    exact ⟨(start, stop), weekEnds_eq_ok hfirst hs he⟩

end Date

/-! ### Ranges of days -/

namespace DateRange

theorem onlyLeavesCalendar_bounds (today : Date) (first last : Option Int) :
    OnlyLeavesCalendar (bounds today first last) := by
  have hlower : OnlyLeavesCalendar (lowerBounds today first) := by
    cases first with
    | none => exact onlyLeavesCalendar_ok []
    | some n =>
      exact (today.onlyLeavesCalendar_plusDays (-1)).bind fun yesterday =>
        (yesterday.onlyLeavesCalendar_plusDays n).bind fun _ => onlyLeavesCalendar_ok _
  have hupper : OnlyLeavesCalendar (upperBounds today last) := by
    cases last with
    | none => exact onlyLeavesCalendar_ok []
    | some n => exact (today.onlyLeavesCalendar_plusDays n).bind fun _ => onlyLeavesCalendar_ok _
  exact hlower.bind fun _ => hupper.bind fun _ => onlyLeavesCalendar_ok _

end DateRange

/-! ### Requests -/

/-- The attempt succeeds under a condition, and otherwise fails because a date is out of
the calendar. -/
structure Attempt.SucceedsWithin {σ : Type} (a : Attempt σ) (p : Prop) : Prop where
  succeeds : p → a.outcome = .ok ()
  fails : ¬ p → a.outcome = .error .outOfCalendar

namespace Work

variable {w : Work} {values : List Value} {n o : Int}

/-- **A range of days succeeds when the calendar has its bounds**, whatever the query. -/
theorem dateRange_succeedsWithin (w : Work) (field : String) (first last : Option Int) :
    (w.dateRange field first last).SucceedsWithin
      (DateRange.IsInCalendar w.engine.today first last) := by
  obtain ⟨q, happend, -⟩ := w.exists_append_of_isBounds field
    (DateRange.isBounds_decide w.engine.today first last)
  rw [← DateRange.exists_bounds_iff]
  constructor
  · rintro ⟨bs, hbs⟩
    rw [dateRange, happend, DateRange.decide_of_bounds hbs]
    rfl
  · intro hnone
    have herror := (DateRange.onlyLeavesCalendar_bounds w.engine.today first last).eq_error hnone
    simp only [dateRange, happend, Attempt.andThen_done, DateRange.ending_of_bounds herror]
    rfl

/-- **The week of today succeeds when it has its ends.** -/
theorem week_succeedsWithin (hr : w.engine.registry = .standard) (field : String)
    (hn : w.engine.settings.current.firstDay.toInt? = some n) (hlen : values.length ≤ 1)
    (ho : LeadingInteger.ofValue (values.headD .none) = .ok o) :
    (w.applyFilter field (.text "w") values).SucceedsWithin
      (1 ≤ w.engine.today.weekStart n ∧ 1 ≤ w.engine.today.weekStart n - o ∧
        w.engine.today.weekStart n - o + 7 ≤ Date.lastOrdinal) := by
  obtain ⟨op, hget, hop⟩ := (Option.any_eq_true _ _).mp
    (show (Registry.standard.get? "w").any (fun op =>
      op.validators = [] ∧ op.behavior = .thisWeek ∧ op.delegate = some "<>d") = true by decide)
  obtain ⟨hvalidators, hb, hdelegate⟩ := of_decide_eq_true hop
  rw [← Date.exists_weekEnds_iff, applyFilter_of_no_validators hr hget hvalidators]
  constructor
  · rintro ⟨ends, hends⟩
    obtain ⟨first, hfirst, hends⟩ := exists_of_bind_eq_ok hends
    obtain ⟨start, hstart, hends⟩ := exists_of_bind_eq_ok hends
    obtain ⟨stop, hstop, -⟩ := exists_of_bind_eq_ok hends
    obtain ⟨q, -, hmodify⟩ := modify_of_week hr hb hdelegate hn hlen ho hfirst hstart hstop
    rw [hmodify]
    rfl
  · intro hnone
    have herror := (w.engine.today.onlyLeavesCalendar_weekEnds n o).eq_error hnone
    obtain ⟨_, target, -, -, hlinked⟩ := linked_between hdelegate
    have hdecide : op.behavior.decide (w.engine.situation op) field values =
        .fail .outOfCalendar := by
      rw [(decide_thisWeek field hb hlen).2, decideThisWeek_eq hlinked hn ho, herror]
      rfl
    obtain ⟨steps, hsteps⟩ := exists_chainLimit hr
    rw [modify, hsteps, modifyWithin_of_fail hdecide]
    rfl

/-- **Filters by days fail at the ends of the calendar, and nowhere else.** With dates
numbered from 0001-01-01 as 1, a range of days succeeds on any query when the days it
asks for are in the calendar, and yesterday as well if it has a lower bound. The week of
today, moved back by a number of days of any size, succeeds when the start of today's
week, the start of the week asked for and its end are. Otherwise the failure is that a date
is out of the calendar, which is an overflow. -/
theorem succeeds_in_calendar (w : Work) (field : String) :
    (∀ first last : Option Int, (w.dateRange field first last).SucceedsWithin
      ((∀ a ∈ first, 2 ≤ w.engine.today.ordinal ∧ 1 ≤ (w.engine.today.ordinal : Int) - 1 + a ∧
          (w.engine.today.ordinal : Int) - 1 + a ≤ Date.lastOrdinal) ∧
        ∀ b ∈ last, 1 ≤ (w.engine.today.ordinal : Int) + b ∧
          (w.engine.today.ordinal : Int) + b ≤ Date.lastOrdinal)) ∧
    (w.engine.registry = .standard → ∀ (n o : Int) (values : List Value),
      w.engine.settings.current.firstDay.toInt? = some n → values.length ≤ 1 →
        LeadingInteger.ofValue (values.headD .none) = .ok o →
          (w.applyFilter field (.text "w") values).SucceedsWithin
            (1 ≤ w.engine.today.weekStart n ∧ 1 ≤ w.engine.today.weekStart n - o ∧
              w.engine.today.weekStart n - o + 7 ≤ Date.lastOrdinal)) ∧
    Failure.outOfCalendar.kind = .overflow :=
  ⟨w.dateRange_succeedsWithin field,
    fun hr _ _ _ hn hlen ho => week_succeedsWithin hr field hn hlen ho, rfl⟩

/-- On the last day of the calendar the week of today has no end, and the one before it
has. Tomorrow has a lower bound, which is today's last second, and no upper bound. -/
theorem succeeds_in_calendar_lastDay :
    let w : Work := ⟨.standard ⟨none, none⟩ .last, .empty .postgresql false⟩
    w.engine.registry = .standard ∧ w.engine.settings.current.firstDay.toInt? = some 1 ∧
      LeadingInteger.ofValue (([.text "7 days"] : List Value).headD .none) = .ok 7 ∧
      (w.applyFilter "due" (.text "w") []).outcome = .error .outOfCalendar ∧
      (w.applyFilter "due" (.text "w") [.text "7 days"]).outcome = .ok () ∧
      (w.dateRange "due" (some 1) none).outcome = .ok () ∧
      (w.dateRange "due" none (some 1)).outcome = .error .outOfCalendar ∧
      (w.dateRange "due" (some (-1000000000000)) none).outcome = .error .outOfCalendar := by
  intro w
  have hday : w.engine.today.ordinal = 3652059 := by decide
  have hlast : (Date.lastOrdinal : Int) = 3652059 := rfl
  have hstart : w.engine.today.weekStart 1 = 3652055 := by decide
  have hfirst : w.engine.settings.current.firstDay.toInt? = some 1 := rfl
  obtain ⟨hrange, hweek, -⟩ := succeeds_in_calendar w "due"
  refine ⟨rfl, hfirst, rfl, ?_, ?_, ?_, ?_, ?_⟩
  · exact (hweek rfl 1 0 [] hfirst (by decide) rfl).fails (by omega)
  · exact (hweek rfl 1 7 [.text "7 days"] hfirst (by decide) rfl).succeeds (by omega)
  · refine (hrange (some 1) none).succeeds ⟨fun a ha => ?_, fun b hb => by cases hb⟩
    cases ha
    omega
  · refine (hrange none (some 1)).fails fun h => ?_
    have := h.2 1 rfl
    omega
  · refine (hrange (some (-1000000000000)) none).fails fun h => ?_
    have := h.1 _ rfl
    omega

end Work
end ReportFilter
