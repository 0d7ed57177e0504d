/-
# The week of today

The filter `w` selects the week of today, or that week moved back by a number of days.
A week starts on the latest date that falls on its first day and is not behind the date
in question. The program finds this date by counting back the days into the week, so
the dates with one week start are the seven from it on (`Date.weekBeginning_eq_iff`).

The filter hands the first midnight of the week and the midnight seven days later to
`<>d`, which includes both of them. On the clock the window therefore holds the seven
days of the week and one instant more, the midnight at which the next week starts
(`Timestamp.between_midnights_iff`).

Key definitions: `Date.IsWeekStartOf`, `Date.weekEnds`.
Key theorems: `Date.weekBeginning_eq_iff`, `Date.isWeekStartOf_iff`,
`Timestamp.between_midnights_iff`, `Work.decideThisWeek_eq`, `Work.modify_of_week`,
`Work.applyFilter_week`.
-/
import ReportFilter.Proofs.DateFilters
import ReportFilter.Proofs.KeptSettings

namespace ReportFilter

/-! ### Week starts -/

namespace Date

/-- The latest date on or before a date that falls on the first day of the week. -/
structure IsWeekStartOf (first d : Date) (firstDay : Int) : Prop where
  weekday : (first.weekday : Int) = firstDay % 7
  le : first.ordinal ≤ d.ordinal
  latest : ∀ e : Date, (e.weekday : Int) = firstDay % 7 → e.ordinal ≤ d.ordinal →
    e.ordinal ≤ first.ordinal

theorem plusDays_eq_ok_iff {d e : Date} {n : Int} :
    d.plusDays n = .ok e ↔ (e.ordinal : Int) = d.ordinal + n := by
  constructor
  · exact ordinal_of_plusDays
  · intro h
    have hpos := e.ordinal_pos
    have hle := e.ordinal_le
    obtain ⟨e', he'⟩ := plusDays_ok_iff (d := d) (n := n) |>.mpr (by omega)
    have hsame := ordinal_of_plusDays he'
    rw [he', ordinal_injective (a := e') (b := e) (by omega)]

/-- **The dates of a week** are the seven from its start on. -/
theorem weekBeginning_eq_iff {d first : Date} {n : Int} :
    d.weekBeginning (.int n) = .ok first ↔
      (first.weekday : Int) = n % 7 ∧ first.ordinal ≤ d.ordinal ∧
        d.ordinal < first.ordinal + 7 := by
  rw [weekBeginning_int, plusDays_eq_ok_iff]
  unfold daysIntoWeek weekday
  omega

/-- The start of a date's week is the latest first day up to the date: the next one comes
seven days later, behind the date. -/
theorem isWeekStartOf_iff {d first : Date} {n : Int} :
    first.IsWeekStartOf d n ↔ d.weekBeginning (.int n) = .ok first := by
  rw [weekBeginning_eq_iff]
  constructor
  · rintro ⟨hday, hle, hlatest⟩
    refine ⟨hday, hle, ?_⟩
    by_contra hfar
    have hd := d.ordinal_le
    obtain ⟨next, hnext⟩ := plusDays_ok_iff (d := first) (n := 7) |>.mpr (by omega)
    have hordinal := ordinal_of_plusDays hnext
    have hweekday : (next.weekday : Int) = n % 7 := by
      unfold weekday at hday ⊢
      omega
    have := hlatest next hweekday (by omega)
    omega
  · rintro ⟨hday, hle, hlt⟩
    refine ⟨hday, hle, fun e he hed => ?_⟩
    unfold weekday at hday he
    omega

theorem weekBeginning_emod (d : Date) (n : Int) :
    d.weekBeginning (.int (n % 7)) = d.weekBeginning (.int n) := by
  rw [weekBeginning_int, weekBeginning_int, daysIntoWeek, daysIntoWeek, Int.emod_emod]

/-- The start of a date's week, moved back by some days, and the date seven days later. -/
def weekEnds (d : Date) (firstDay offset : Int) : Except Failure (Date × Date) := do
  let first ← d.weekBeginning (.int firstDay)
  let start ← first.plusDays (-offset)
  let stop ← start.plusDays 7
  .ok (start, stop)

theorem weekEnds_eq_ok {d first start stop : Date} {n o : Int}
    (hfirst : d.weekBeginning (.int n) = .ok first) (hstart : first.plusDays (-o) = .ok start)
    (hstop : start.plusDays 7 = .ok stop) : d.weekEnds n o = .ok (start, stop) := by
  simp only [weekEnds, hfirst, hstart, hstop, bind, Except.bind]

end Date

/-! ### Windows between midnights -/

theorem TimeOfDay.sinceMidnight_injective {s t : TimeOfDay}
    (h : s.sinceMidnight = t.sinceMidnight) : s = t := by
  rw [← ofMicroseconds_sinceMidnight s s.sinceMidnight_lt,
    ← ofMicroseconds_sinceMidnight t t.sinceMidnight_lt]
  congr 1

namespace Timestamp

theorem sinceStart_beginningOfDay (d : Date) :
    (beginningOfDay d).sinceStart = (d.ordinal - 1) * 86400000000 := by
  have hmidnight : TimeOfDay.midnight.sinceMidnight = 0 := by decide
  show (d.ordinal - 1) * 86400000000 + TimeOfDay.midnight.sinceMidnight = _
  rw [hmidnight, Nat.add_zero]

theorem eq_beginningOfDay_iff {d : Date} {x : Timestamp} (hx : x.offset = none) :
    x = beginningOfDay d ↔ x.sinceStart = (beginningOfDay d).sinceStart := by
  constructor
  · intro h
    rw [h]
  · intro h
    obtain ⟨date, time, offset⟩ := x
    cases hx
    have hstart : (date.ordinal - 1) * 86400000000 + time.sinceMidnight =
        (d.ordinal - 1) * 86400000000 := by
      rw [← sinceStart_beginningOfDay d, ← h, sinceStart]
    have hday : time.sinceMidnight < 86400000000 := time.sinceMidnight_lt
    have hpos := date.ordinal_pos
    have hpos' := d.ordinal_pos
    have hdate : date = d := Date.ordinal_injective (by omega)
    subst hdate
    have htime : time = .midnight :=
      TimeOfDay.sinceMidnight_injective (t := .midnight) (by
        rw [show TimeOfDay.midnight.sinceMidnight = 0 by decide]
        omega)
    rw [htime]
    rfl

/-- **Between two midnights**, both included, are the days from the first one up to the
second, and the second midnight itself. -/
theorem between_midnights_iff {first last : Date} {x : Timestamp} (hx : x.offset = none)
    (h : first.ordinal ≤ last.ordinal) :
    ((beginningOfDay first).sinceStart ≤ x.sinceStart ∧
        x.sinceStart ≤ (beginningOfDay last).sinceStart) ↔
      (first.ordinal ≤ x.date.ordinal ∧ x.date.ordinal < last.ordinal) ∨
        x = beginningOfDay last := by
  have hstart : x.sinceStart = (x.date.ordinal - 1) * 86400000000 + x.time.sinceMidnight := rfl
  have hday : x.time.sinceMidnight < 86400000000 := x.time.sinceMidnight_lt
  have hxpos := x.date.ordinal_pos
  have hfirst := first.ordinal_pos
  rw [eq_beginningOfDay_iff hx, sinceStart_beginningOfDay, sinceStart_beginningOfDay]
  omega

/-- The window from the start of a week to the start of the next one holds the dates of
that week, and the midnight at which the next one starts. -/
theorem between_weekStarts_iff {d first last : Date} {n : Int}
    (hfirst : d.weekBeginning (.int n) = .ok first) (hlast : last.ordinal = first.ordinal + 7)
    {x : Timestamp} (hx : x.offset = none) :
    ((beginningOfDay first).sinceStart ≤ x.sinceStart ∧
        x.sinceStart ≤ (beginningOfDay last).sinceStart) ↔
      x.date.weekBeginning (.int n) = d.weekBeginning (.int n) ∨ x = beginningOfDay last := by
  obtain ⟨hday, -, -⟩ := Date.weekBeginning_eq_iff.mp hfirst
  rw [between_midnights_iff hx (by omega), hfirst, Date.weekBeginning_eq_iff, hlast]
  constructor
  · rintro (h | h)
    · exact .inl ⟨hday, h⟩
    · exact .inr h
  · rintro (⟨-, h⟩ | h)
    · exact .inl h
    · exact .inr h

end Timestamp

/-! ### The filter -/

namespace Work

variable {w : Work} {field : String} {values : List Value} {n o : Int} {first start stop : Date}

theorem decide_thisWeek (field : String) {op : Operator} (hb : op.behavior = .thisWeek)
    (hlen : values.length ≤ 1) :
    op.behavior.accepts values.length = true ∧
      op.behavior.decide (w.engine.situation op) field values =
        .ofExcept ((w.engine.situation op).decideThisWeek values) := by
  have haccepts : Behavior.thisWeek.accepts values.length = true := by
    rw [Behavior.accepts_iff]
    exact ⟨Nat.zero_le _, fun m hm => by cases hm; omega⟩
  rw [hb, Behavior.decide, haccepts]
  exact ⟨rfl, rfl⟩

/-- The week of today is decided on from its two ends. -/
theorem decideThisWeek_eq {op : Operator} {target : String} (hlinked : op.linked = .ok target)
    (hn : w.engine.settings.current.firstDay.toInt? = some n)
    (ho : LeadingInteger.ofValue (values.headD .none) = .ok o) :
    (w.engine.situation op).decideThisWeek values =
      (w.engine.today.weekEnds n o).map fun ends => .handOver false
        [.timestamp (.beginningOfDay ends.1), .timestamp (.beginningOfDay ends.2)] := by
  have hweek : (w.engine.situation op).weekStart = .ok (.int (n % 7)) :=
    Settings.weekStart_of_toInt? hn
  have hseven : (w.engine.situation op).today.weekBeginning (.int (n % 7)) =
      w.engine.today.weekBeginning (.int n) :=
    w.engine.today.weekBeginning_emod n
  have hlinked' : (w.engine.situation op).operator.linked = .ok target := hlinked
  simp only [Situation.decideThisWeek, Date.weekEnds, hweek, hseven, ho, hlinked', bind,
    Except.bind]
  rcases w.engine.today.weekBeginning (.int n) with f | first
  · rfl
  · rcases hstart : first.plusDays (-o) with f | start
    · simp only [hstart]
      rfl
    · simp only [hstart]
      rcases start.plusDays 7 with f | stop <;> rfl

theorem decide_of_week (field : String) {op : Operator} (hb : op.behavior = .thisWeek)
    {target : String} (hlinked : op.linked = .ok target)
    (hn : w.engine.settings.current.firstDay.toInt? = some n) (hlen : values.length ≤ 1)
    (ho : LeadingInteger.ofValue (values.headD .none) = .ok o)
    (hends : w.engine.today.weekEnds n o = .ok (start, stop)) :
    op.behavior.accepts values.length = true ∧
      op.behavior.decide (w.engine.situation op) field values = .handOver false
        [.timestamp (.beginningOfDay start), .timestamp (.beginningOfDay stop)] := by
  obtain ⟨haccepts, hd⟩ := decide_thisWeek (w := w) field hb hlen
  refine ⟨haccepts, ?_⟩
  rw [hd, decideThisWeek_eq hlinked hn ho, hends]
  rfl

theorem linked_between {op : Operator} (hdelegate : op.delegate = some "<>d") :
    ∃ next target, Registry.standard.get? DateFilter.between.operator = some next ∧
      op.delegate.bind Registry.standard.get? = some next ∧ op.linked = .ok target := by
  obtain ⟨next, hbetween⟩ :
      ∃ next, Registry.standard.get? DateFilter.between.operator = some next :=
    Option.isSome_iff_exists.mp (by decide)
  have hnext : op.delegate.bind Registry.standard.get? = some next := by
    rw [hdelegate]
    exact hbetween
  obtain ⟨target, hlinked⟩ := linked_of_delegate hnext
  exact ⟨next, target, hbetween, hnext, hlinked⟩

/-- **The week becomes one predicate**, which `<>d` states about its two ends. -/
theorem modify_of_week (hr : w.engine.registry = .standard) {op : Operator}
    (hb : op.behavior = .thisWeek) (hdelegate : op.delegate = some "<>d")
    (hn : w.engine.settings.current.firstDay.toInt? = some n) (hlen : values.length ≤ 1)
    (ho : LeadingInteger.ofValue (values.headD .none) = .ok o)
    (hfirst : w.engine.today.weekBeginning (.int n) = .ok first)
    (hstart : first.plusDays (-o) = .ok start) (hstop : start.plusDays 7 = .ok stop) :
    ∃ q, w.query.States (DateFilter.between.frame field
        [.timestamp (.beginningOfDay start), .timestamp (.beginningOfDay stop)]) q ∧
      w.modify op field values = .done ⟨w.engine.readSettings, q⟩ := by
  obtain ⟨next, target, hbetween, hnext, hlinked⟩ := linked_between hdelegate
  obtain ⟨haccepts, hd⟩ := decide_of_week field hb hlinked hn hlen ho
    (Date.weekEnds_eq_ok hfirst hstart hstop)
  have hready : w.ready op values = ⟨w.engine.readSettings, w.query⟩ := by
    rw [ready, haccepts, hb]
    rfl
  have hr' : (w.ready op values).engine.registry = .standard :=
    (registry_ready w op values).trans hr
  have hlimit : w.chainLimit = 76 + 2 + 1 := by
    rw [chainLimit, hr]
    decide
  let ends := [Moment.timestamp (.beginningOfDay start), .timestamp (.beginningOfDay stop)]
  have hthere : ∀ v ∈ ends.map Moment.toValue, v.isBlank = .ok false := by
    intro v hv
    obtain ⟨m, -, rfl⟩ := List.mem_map.mp hv
    exact m.isBlank_toValue
  have hread : (ends.map Moment.toValue).mapM DateInput.read = .ok ends := rfl
  obtain ⟨q, hstates, hstated⟩ :=
    exists_modifyWithin_of_moments hr' hbetween field rfl hthere hread 76
  rw [query_ready] at hstates
  refine ⟨q, hstates, ?_⟩
  rw [modify, hlimit, modifyWithin_of_handOver hd (target_of_delegate hr' hnext)]
  rw [hready] at hstated ⊢
  exact hstated

/-- **The filter `w` selects the configured week.** Where no date leaves the calendar, it
states that the field lies between two midnights: that of the start of today's week,
moved back by the number of days it is given, and the one seven days later. Without such
a number a timestamp lies between them, both included, exactly when its date has the
week start of today or the timestamp is the midnight at which the next week starts. -/
theorem applyFilter_week (hr : w.engine.registry = .standard)
    (hn : w.engine.settings.current.firstDay.toInt? = some n) (field : String)
    (hlen : values.length ≤ 1) (ho : LeadingInteger.ofValue (values.headD .none) = .ok o)
    (hfirst : first.IsWeekStartOf w.engine.today n)
    (hstart : (start.ordinal : Int) = first.ordinal - o)
    (hstop : stop.ordinal = start.ordinal + 7) :
    (∃ q, w.query.States (DateFilter.between.frame field
        [.timestamp (.beginningOfDay start), .timestamp (.beginningOfDay stop)]) q ∧
      w.applyFilter field (.text "w") values = .done ⟨w.engine.readSettings, q⟩) ∧
    (o = 0 → ∀ x : Timestamp, x.offset = none →
      (((Timestamp.beginningOfDay start).sinceStart ≤ x.sinceStart ∧
          x.sinceStart ≤ (Timestamp.beginningOfDay stop).sinceStart) ↔
        x.date.weekBeginning (.int n) = w.engine.today.weekBeginning (.int n) ∨
          x = .beginningOfDay stop)) := by
  have hweek := Date.isWeekStartOf_iff.mp hfirst
  refine ⟨?_, fun hzero x hx => ?_⟩
  · obtain ⟨op, hget, hop⟩ := (Option.any_eq_true _ _).mp
      (show (Registry.standard.get? "w").any (fun op =>
        op.validators = [] ∧ op.behavior = .thisWeek ∧ op.delegate = some "<>d") = true by decide)
    obtain ⟨hvalidators, hb, hdelegate⟩ := of_decide_eq_true hop
    rw [applyFilter_of_no_validators hr hget hvalidators]
    exact modify_of_week hr hb hdelegate hn hlen ho hweek
      (Date.plusDays_eq_ok_iff.mpr (by omega)) (Date.plusDays_eq_ok_iff.mpr (by omega))
  · have hsame : start = first := Date.ordinal_injective (by omega)
    subst hsame
    exact Timestamp.between_weekStarts_iff hweek hstop hx

/-- A week that starts on Saturday, the day of which is given as -1. -/
theorem applyFilter_week_saturday :
    let w : Work := ⟨{ Engine.standard ⟨none, none⟩
        ⟨2024, 1, 17, by decide, by decide, by decide, by decide⟩ with
        settings := ⟨⟨none, none⟩, some ⟨.int (-1), .text "postgresql"⟩, []⟩ },
      .empty .postgresql false⟩
    let start : Date := ⟨2024, 1, 13, by decide, by decide, by decide, by decide⟩
    let stop : Date := ⟨2024, 1, 20, by decide, by decide, by decide, by decide⟩
    w.engine.registry = .standard ∧ w.engine.settings.current.firstDay.toInt? = some (-1) ∧
      LeadingInteger.ofValue (([] : List Value).headD .none) = .ok 0 ∧
      start.IsWeekStartOf w.engine.today (-1) ∧ stop.ordinal = start.ordinal + 7 ∧
      (∃ q, w.query.States (DateFilter.between.frame "created"
          [.timestamp (.beginningOfDay start), .timestamp (.beginningOfDay stop)]) q ∧
        w.applyFilter "created" (.text "w") [] = .done ⟨w.engine.readSettings, q⟩) ∧
      ∀ x : Timestamp, x.offset = none →
        (((Timestamp.beginningOfDay start).sinceStart ≤ x.sinceStart ∧
            x.sinceStart ≤ (Timestamp.beginningOfDay stop).sinceStart) ↔
          x.date.weekBeginning (.int (-1)) = w.engine.today.weekBeginning (.int (-1)) ∨
            x = .beginningOfDay stop) := by
  intro w start stop
  have hfirst : start.IsWeekStartOf w.engine.today (-1) :=
    Date.isWeekStartOf_iff.mpr (Date.weekBeginning_eq_iff.mpr (by decide))
  have hstop : stop.ordinal = start.ordinal + 7 := by decide
  obtain ⟨happly, hwindow⟩ := @applyFilter_week w [] (-1) 0 start start stop rfl rfl "created"
    (Nat.zero_le 1) rfl hfirst (by omega) hstop
  exact ⟨rfl, rfl, rfl, hfirst, hstop, happly, hwindow rfl⟩

end Work
end ReportFilter
