/-
# Days tile time

The instants at which one day ends for a filter and the next one starts are the last
seconds of the days. A filter's lower bound excludes such an instant and its upper
bound includes one, and both are the same instant for neighbouring days, although
the lower one is counted from yesterday and the upper one from today. On a clock that
is one second fast these instants are the midnights (`Timestamp.secondLater_endOfDay`),
so every window of a filter is a half-open interval of whole days on it
(`Work.admits_iff`). It follows, to the microsecond, that each timestamp lies in the
window of exactly one day and how the windows of the seven filters are made of each
other.

Key definitions: `Work.bounded`, `Work.Admits`, `DayFilter.IsInCalendar`.
Key theorems: `Work.applyFilter_of_bounds`, `Work.bounded_injective`,
`Work.admits_iff`, `Work.windows_tile`.
-/
import Mathlib.Logic.ExistsUnique
import ReportFilter.Proofs.DayWindows

namespace ReportFilter

/-! ### The ends of days -/

namespace Date

/-- The first date of the calendar. -/
def first : Date := ⟨1, 1, 1, by decide, by decide, by decide, by decide⟩

/-- The last date of the calendar. -/
def last : Date := ⟨9999, 12, 31, by decide, by decide, by decide, by decide⟩

theorem ordinal_first : first.ordinal = 1 := by decide

theorem ordinal_last : last.ordinal = lastOrdinal := by decide

end Date

namespace Timestamp

/-- The microseconds since the start of 0001-01-01 on a clock that is one second
fast. -/
def secondLater (x : Timestamp) : Int := x.sinceStart + 1000000

/-- The last second of a day is a midnight on that clock. -/
theorem secondLater_endOfDay (d : Date) :
    (endOfDay d).secondLater = d.ordinal * 86400000000 := by
  have hend := sinceStart_endOfDay d
  have hpos := d.ordinal_pos
  unfold secondLater
  omega

theorem secondLater_lt_iff {x y : Timestamp} :
    x.secondLater < y.secondLater ↔ x.sinceStart < y.sinceStart := by
  unfold secondLater
  omega

end Timestamp

namespace Bound

theorem accepts_endOfDay_iff (d : Date) (x : Timestamp) :
    ((after (.endOfDay d)).Accepts x ↔ (d.ordinal : Int) * 86400000000 < x.secondLater) ∧
      ((upTo (.endOfDay d)).Accepts x ↔ x.secondLater ≤ d.ordinal * 86400000000) := by
  rw [← Timestamp.secondLater_endOfDay, Timestamp.secondLater_lt_iff, ← Int.not_lt,
    Timestamp.secondLater_lt_iff, Nat.not_lt]
  exact ⟨Iff.rfl, Iff.rfl⟩

/-- The predicates and the parameters of bounds tell which bounds they are. -/
theorem eq_of_predicates (d : Dialect) (field : String) : ∀ (count : Nat) (bs cs : List Bound),
    predicates d field count bs = predicates d field count cs →
      (bs.map fun b => Value.timestamp b.time) = cs.map (fun b => .timestamp b.time) → bs = cs
  | _, [], [], _, _ => rfl
  | _, [], _ :: _, _, h => by cases h
  | _, _ :: _, [], _, h => by cases h
  | count, b :: bs, c :: cs, hp, ht => by
    rw [predicates, predicates, List.cons.injEq] at hp
    rw [List.map_cons, List.map_cons, List.cons.injEq, Value.timestamp.injEq] at ht
    obtain ⟨hhead, hrest⟩ := hp
    obtain ⟨htime, htimes⟩ := ht
    have htail := eq_of_predicates d field (count + 1) bs cs hrest htimes
    have hsign : b.comparison = c.comparison := by
      simpa [← String.toList_inj, String.toList_append] using hhead
    have hsigns : (" > " : String) ≠ " <= " := by decide
    have hbound : b = c := by
      cases b with
      | after t =>
        cases c with
        | after u => exact congrArg after htime
        | upTo u => exact absurd hsign hsigns
      | upTo t =>
        cases c with
        | after u => exact absurd hsign.symm hsigns
        | upTo u => exact congrArg upTo htime
    rw [hbound, htail]

end Bound

/-! ### The bounds that the calendar has -/

namespace DateRange

variable {today : Date} {first last : Option Int} {bs : List Bound}

/-- There are the bounds of a range of days when their days are in the calendar, and
the day before today for a lower one. -/
def IsInCalendar (today : Date) (first last : Option Int) : Prop :=
  (∀ a ∈ first, 2 ≤ today.ordinal ∧ 1 ≤ today.ordinal - 1 + a ∧
    today.ordinal - 1 + a ≤ Date.lastOrdinal) ∧
  ∀ b ∈ last, 1 ≤ today.ordinal + b ∧ today.ordinal + b ≤ Date.lastOrdinal

theorem exists_lowerBounds_iff :
    (∃ bs, lowerBounds today first = .ok bs) ↔ ∀ a ∈ first, 2 ≤ today.ordinal ∧
      1 ≤ today.ordinal - 1 + a ∧ today.ordinal - 1 + a ≤ Date.lastOrdinal := by
  cases first with
  | none => simp [lowerBounds]
  | some n =>
    have hlower : (∃ bs, lowerBounds today (some n) = .ok bs) ↔ ∃ c, lower today n = .ok c := by
      unfold lowerBounds lower
      rcases today.plusDays (-1) with e | yesterday
      · simp [bind, Except.bind]
      · rcases hday : yesterday.plusDays n with e | day <;> simp [bind, Except.bind, hday]
    rw [hlower, lower_ok_iff]
    simp only [Option.mem_def, Option.some.injEq, forall_eq']

theorem exists_upperBounds_iff :
    (∃ bs, upperBounds today last = .ok bs) ↔ ∀ b ∈ last, 1 ≤ today.ordinal + b ∧
      today.ordinal + b ≤ Date.lastOrdinal := by
  cases last with
  | none => simp [upperBounds]
  | some n =>
    have hupper : (∃ bs, upperBounds today (some n) = .ok bs) ↔ ∃ c, upper today n = .ok c := by
      unfold upperBounds upper
      rcases hday : today.plusDays n with e | day <;> simp [bind, Except.bind, hday]
    rw [hupper, upper_ok_iff]
    simp only [Option.mem_def, Option.some.injEq, forall_eq']

/-- **A range of days has its bounds** exactly when the calendar has them. -/
theorem exists_bounds_iff :
    (∃ bs, bounds today first last = .ok bs) ↔ IsInCalendar today first last := by
  unfold IsInCalendar
  rw [← exists_lowerBounds_iff, ← exists_upperBounds_iff]
  constructor
  · rintro ⟨bs, h⟩
    obtain ⟨lower, hlower, h⟩ := exists_of_bind_eq_ok h
    obtain ⟨upper, hupper, -⟩ := exists_of_bind_eq_ok h
    exact ⟨⟨lower, hlower⟩, upper, hupper⟩
  · rintro ⟨⟨lower, hlower⟩, upper, hupper⟩
    refine ⟨lower ++ upper, ?_⟩
    rw [bounds, hlower, hupper]
    rfl

theorem lowerBounds_accepts_iff (h : lowerBounds today first = .ok bs) (x : Timestamp) :
    (∀ b ∈ bs, b.Accepts x) ↔
      ∀ a ∈ first, (today.ordinal - 1 + a) * 86400000000 < x.secondLater := by
  cases first with
  | none =>
    cases h
    simp
  | some a =>
    obtain ⟨yesterday, hyesterday, h⟩ := exists_of_bind_eq_ok h
    obtain ⟨day, hday, h⟩ := exists_of_bind_eq_ok h
    cases h
    have hy := Date.ordinal_of_plusDays hyesterday
    have hd := Date.ordinal_of_plusDays hday
    have hordinal : (day.ordinal : Int) = today.ordinal - 1 + a := by omega
    rw [List.forall_mem_singleton, (Bound.accepts_endOfDay_iff day x).1, hordinal]
    simp only [Option.mem_def, Option.some.injEq, forall_eq']

theorem upperBounds_accepts_iff (h : upperBounds today last = .ok bs) (x : Timestamp) :
    (∀ b ∈ bs, b.Accepts x) ↔
      ∀ b ∈ last, x.secondLater ≤ (today.ordinal + b) * 86400000000 := by
  cases last with
  | none =>
    cases h
    simp
  | some b =>
    obtain ⟨day, hday, h⟩ := exists_of_bind_eq_ok h
    cases h
    rw [List.forall_mem_singleton, (Bound.accepts_endOfDay_iff day x).2,
      Date.ordinal_of_plusDays hday]
    simp only [Option.mem_def, Option.some.injEq, forall_eq']

/-- **The bounds of a range of days make a half-open interval**: the end of the day
before the first one is left out, the end of the last one is in it. -/
theorem bounds_accepts_iff (h : bounds today first last = .ok bs) (x : Timestamp) :
    (∀ b ∈ bs, b.Accepts x) ↔
      (∀ a ∈ first, (today.ordinal - 1 + a) * 86400000000 < x.secondLater) ∧
        ∀ b ∈ last, x.secondLater ≤ (today.ordinal + b) * 86400000000 := by
  obtain ⟨lower, hlower, h⟩ := exists_of_bind_eq_ok h
  obtain ⟨upper, hupper, h⟩ := exists_of_bind_eq_ok h
  cases h
  rw [List.forall_mem_append, lowerBounds_accepts_iff hlower, upperBounds_accepts_iff hupper]

/-- There is the lower end of a range of days, and a timestamp lies behind it: the end of
the day before the first one. -/
def MeetsLower (today : Date) (n : Int) (x : Timestamp) : Prop :=
  (2 ≤ today.ordinal ∧ 1 ≤ today.ordinal - 1 + n ∧ today.ordinal - 1 + n ≤ Date.lastOrdinal) ∧
    (today.ordinal - 1 + n) * 86400000000 < x.secondLater

/-- There is the upper end of a range of days, and a timestamp does not lie behind it:
the end of the last day. -/
def MeetsUpper (today : Date) (n : Int) (x : Timestamp) : Prop :=
  (1 ≤ today.ordinal + n ∧ today.ordinal + n ≤ Date.lastOrdinal) ∧
    x.secondLater ≤ (today.ordinal + n) * 86400000000

theorem exists_bounds_accepts_iff {x : Timestamp} :
    (∃ bs, bounds today first last = .ok bs ∧ ∀ b ∈ bs, b.Accepts x) ↔
      (∀ a ∈ first, MeetsLower today a x) ∧ ∀ b ∈ last, MeetsUpper today b x := by
  constructor
  · rintro ⟨bs, h, hx⟩
    obtain ⟨hfirst, hlast⟩ := exists_bounds_iff.mp ⟨bs, h⟩
    obtain ⟨hlower, hupper⟩ := (bounds_accepts_iff h x).mp hx
    exact ⟨fun a ha => ⟨hfirst a ha, hlower a ha⟩, fun b hb => ⟨hlast b hb, hupper b hb⟩⟩
  · rintro ⟨hfirst, hlast⟩
    obtain ⟨bs, h⟩ := exists_bounds_iff.mpr
      ⟨fun a ha => (hfirst a ha).1, fun b hb => (hlast b hb).1⟩
    exact ⟨bs, h, (bounds_accepts_iff h x).mpr
      ⟨fun a ha => (hfirst a ha).2, fun b hb => (hlast b hb).2⟩⟩

end DateRange

/-! ### What a filter for some days accepts -/

namespace DayFilter

/-- The values that a filter for `n` days is given. Today is not counted from. -/
def values : DayFilter → (n : Int) → List Value
  | today, _ => []
  | ago, n | inDays, n | moreThanAgo, n | lessThanAgo, n | inLessThan, n | inMoreThan, n =>
    [.int n]

/-- The calendar has the bounds of a filter for `n` days. -/
def IsInCalendar (today : Date) (f : DayFilter) (n : Int) : Prop :=
  DateRange.IsInCalendar today (f.range n).1 (f.range n).2

theorem exists_days_values (f : DayFilter) (n : Int) :
    f.behavior.accepts (f.values n).length = true ∧
      ∃ m, LeadingInteger.ofValue ((f.values n).headD .none) = .ok m ∧ f.range m = f.range n := by
  cases f with
  | today => exact ⟨rfl, 0, rfl, rfl⟩
  | ago | inDays | moreThanAgo | lessThanAgo | inLessThan | inMoreThan =>
    exact ⟨rfl, n, rfl, rfl⟩

end DayFilter

namespace Work

/-- The work with bounds on a field appended, their timestamps as bind parameters. -/
def bounded (w : Work) (field : String) (bs : List Bound) : Work :=
  { w with query := { w.query with
      predicates := w.query.predicates ++
        Bound.predicates w.query.dialect field w.query.parameters.length bs
      parameters := w.query.parameters ++ bs.map fun b => .timestamp b.time } }

/-- Whether a filter for `n` days accepts a timestamp: it succeeds, what it appends are
bounds on the field, and the timestamp meets all of them. -/
def Admits (w : Work) (field : String) (f : DayFilter) (n : Int) (x : Timestamp) : Prop :=
  ∃ bs : List Bound,
    w.applyFilter field (.text f.operator) (f.values n) = .done (w.bounded field bs) ∧
      ∀ b ∈ bs, b.Accepts x

variable {w : Work} {field : String}

/-- What has been appended tells the bounds, so there is one answer to whether a
filter accepts a timestamp. -/
theorem bounded_injective {bs cs : List Bound} (h : w.bounded field bs = w.bounded field cs) :
    bs = cs := by
  have hquery := congrArg Work.query h
  have hpredicates := congrArg Query.predicates hquery
  have hparameters := congrArg Query.parameters hquery
  exact Bound.eq_of_predicates w.query.dialect field w.query.parameters.length bs cs
    (List.append_cancel_left hpredicates) (List.append_cancel_left hparameters)

theorem applyFilter_days (hr : w.engine.registry = .standard) (f : DayFilter) (field : String)
    (n : Int) :
    ∃ (op : Operator) (steps : Nat), op.behavior.days = some f.range ∧
      w.applyFilter field (.text f.operator) (f.values n) =
        modifyWithin (steps + 1) op field (f.values n) w ∧
      op.behavior.decide (w.engine.situation op) field (f.values n) =
        DateRange.decide w.engine.today (f.range n).1 (f.range n).2 := by
  obtain ⟨op, hget, hbehavior⟩ := f.exists_operator
  have hdays : op.behavior.days = some f.range := by
    rw [hbehavior, f.days_behavior]
  obtain ⟨steps, hsteps⟩ := exists_chainLimit hr
  refine ⟨op, steps, hdays, ?_, ?_⟩
  · rw [applyFilter_of_no_validators hr hget (Registry.validators_of_days hget hdays), modify,
      hsteps]
  · obtain ⟨haccepts, m, hm, hrange⟩ := f.exists_days_values n
    rw [Behavior.decide_days hdays, hbehavior, if_pos haccepts, hm, ← hrange]
    rfl

theorem ready_of_days {op : Operator} {range : Int → Option Int × Option Int}
    (hdays : op.behavior.days = some range) (values : List Value) : w.ready op values = w := by
  have hreads : op.behavior.readsSettings = false := by
    cases hb : op.behavior with
    | thisWeek =>
      rw [hb] at hdays
      cases hdays
    | _ => rfl
  exact w.ready_of_no_settings hreads values

/-- **A filter that counts days appends the bounds of its range**, if there are. -/
theorem applyFilter_of_bounds (hr : w.engine.registry = .standard)
    (hp : w.query.parameterized = true) {f : DayFilter} {n : Int} {bs : List Bound}
    (h : DateRange.bounds w.engine.today (f.range n).1 (f.range n).2 = .ok bs) :
    w.applyFilter field (.text f.operator) (f.values n) = .done (w.bounded field bs) := by
  obtain ⟨op, steps, hdays, happly, hdecide⟩ := applyFilter_days hr f field n
  have happend := Query.appendAll_bounds field bs w.query hp
  rw [happly, modifyWithin_succ, hdecide, DateRange.decide_of_bounds h, ready_of_days hdays,
    append, List.map_map, Function.comp_def, happend]
  rfl

theorem applyFilter_of_no_bounds (hr : w.engine.registry = .standard) {f : DayFilter} {n : Int}
    {e : Failure} (h : DateRange.bounds w.engine.today (f.range n).1 (f.range n).2 = .error e)
    (field : String) :
    (w.applyFilter field (.text f.operator) (f.values n)).outcome = .error e := by
  obtain ⟨op, steps, hdays, happly, hdecide⟩ := applyFilter_days hr f field n
  obtain ⟨v, -, -, hend⟩ := modifyWithin_days hdays steps field (f.values n) w hdecide
  rw [DateRange.ending_of_bounds h] at hend
  rcases hend with ⟨-, hdone⟩ | ⟨e', hfail, he⟩
  · cases hdone
  · cases he
    rw [happly, hfail]
    rfl

theorem applyFilter_ok_iff (hr : w.engine.registry = .standard)
    (hp : w.query.parameterized = true) (f : DayFilter) (n : Int) :
    (w.applyFilter field (.text f.operator) (f.values n)).outcome = .ok () ↔
      f.IsInCalendar w.engine.today n := by
  unfold DayFilter.IsInCalendar
  rw [← DateRange.exists_bounds_iff]
  constructor
  · intro hok
    rcases h : DateRange.bounds w.engine.today (f.range n).1 (f.range n).2 with e | bs
    · rw [applyFilter_of_no_bounds hr h field] at hok
      cases hok
    · exact ⟨bs, rfl⟩
  · rintro ⟨bs, h⟩
    rw [applyFilter_of_bounds hr hp h]
    rfl

/-- **The window of a filter** is what meets the ends that its range has. -/
theorem admits_iff (hr : w.engine.registry = .standard) (hp : w.query.parameterized = true)
    (f : DayFilter) (n : Int) (x : Timestamp) :
    w.Admits field f n x ↔ (∀ a ∈ (f.range n).1, DateRange.MeetsLower w.engine.today a x) ∧
      ∀ b ∈ (f.range n).2, DateRange.MeetsUpper w.engine.today b x := by
  rw [← DateRange.exists_bounds_accepts_iff]
  constructor
  · rintro ⟨bs, happly, haccepts⟩
    rcases h : DateRange.bounds w.engine.today (f.range n).1 (f.range n).2 with e | cs
    · have hfail := applyFilter_of_no_bounds hr h field
      rw [happly] at hfail
      cases hfail
    · have hsame : w.bounded field bs = w.bounded field cs :=
        congrArg Attempt.state (happly.symm.trans (applyFilter_of_bounds hr hp h))
      exact ⟨cs, rfl, bounded_injective hsame ▸ haccepts⟩
  · rintro ⟨bs, h, haccepts⟩
    exact ⟨bs, applyFilter_of_bounds hr hp h, haccepts⟩

/-! ### How windows fit together -/

theorem admits_inDays_iff (hr : w.engine.registry = .standard)
    (hp : w.query.parameterized = true) (n : Int) (x : Timestamp) :
    w.Admits field .inDays n x ↔
      DateRange.MeetsLower w.engine.today n x ∧ DateRange.MeetsUpper w.engine.today n x := by
  simpa [DayFilter.range] using admits_iff hr hp .inDays n x

theorem admits_inMoreThan_iff (hr : w.engine.registry = .standard)
    (hp : w.query.parameterized = true) (n : Int) (x : Timestamp) :
    w.Admits field .inMoreThan n x ↔ DateRange.MeetsLower w.engine.today n x := by
  simpa [DayFilter.range] using admits_iff hr hp .inMoreThan n x

theorem admits_moreThanAgo_iff (hr : w.engine.registry = .standard)
    (hp : w.query.parameterized = true) (n : Int) (x : Timestamp) :
    w.Admits field .moreThanAgo n x ↔ DateRange.MeetsUpper w.engine.today (-n) x := by
  simpa [DayFilter.range] using admits_iff hr hp .moreThanAgo n x

/-- Every timestamp behind the end of the first day lies in the window of one day. -/
theorem existsUnique_day (hr : w.engine.registry = .standard)
    (hp : w.query.parameterized = true) (htoday : 2 ≤ w.engine.today.ordinal) {x : Timestamp}
    (hx : (Timestamp.endOfDay .first).sinceStart < x.sinceStart)
    (hx' : x.sinceStart ≤ (Timestamp.endOfDay .last).sinceStart) :
    ∃! n : Int, w.Admits field .inDays n x := by
  have hlow : 86400000000 < x.secondLater := by
    have h := Timestamp.secondLater_lt_iff.mpr hx
    rw [Timestamp.secondLater_endOfDay, Date.ordinal_first] at h
    omega
  have hhigh : x.secondLater ≤ Date.lastOrdinal * 86400000000 := by
    have h := Int.not_lt.mp (mt Timestamp.secondLater_lt_iff.mp (Nat.not_lt.mpr hx'))
    rwa [Timestamp.secondLater_endOfDay, Date.ordinal_last] at h
  -- the day is the one whose end is the first at or behind the timestamp
  obtain ⟨day, hafter, hupTo⟩ : ∃ day : Int, (day - 1) * 86400000000 < x.secondLater ∧
      x.secondLater ≤ day * 86400000000 :=
    ⟨(x.secondLater + 86399999999) / 86400000000, by omega, by omega⟩
  have hfirst : 2 ≤ day := by omega
  have hlast : day ≤ Date.lastOrdinal := by omega
  refine ⟨day - w.engine.today.ordinal, ?_, fun n hn => ?_⟩
  · refine (admits_inDays_iff hr hp _ x).mpr ?_
    unfold DateRange.MeetsLower DateRange.MeetsUpper
    omega
  · obtain ⟨⟨-, hlower⟩, hupper⟩ := (admits_inDays_iff hr hp n x).mp hn
    unfold DateRange.MeetsUpper at hupper
    omega

/-- The days from one on are those that do not come before it. -/
theorem admits_inMoreThan_iff_not (hr : w.engine.registry = .standard)
    (hp : w.query.parameterized = true) {n : Int}
    (hn : DayFilter.inMoreThan.IsInCalendar w.engine.today n) (x : Timestamp) :
    w.Admits field .inMoreThan n x ↔ ¬ w.Admits field .moreThanAgo (1 - n) x := by
  obtain ⟨htoday, hn⟩ := hn.1 n rfl
  rw [admits_inMoreThan_iff hr hp, admits_moreThanAgo_iff hr hp]
  unfold DateRange.MeetsLower DateRange.MeetsUpper
  omega

/-- **The windows of the filters tile time and fit together.** A filter for some days
succeeds exactly when the calendar has its bounds. From the second day of the calendar
on, every timestamp behind the end of the first day lies in the window of exactly one
day, to the microsecond. And for each number of days the windows of the filters are made
of each other. -/
theorem windows_tile (hr : w.engine.registry = .standard) (hp : w.query.parameterized = true)
    (field : String) :
    (∀ (f : DayFilter) (n : Int),
      (w.applyFilter field (.text f.operator) (f.values n)).outcome = .ok () ↔
        f.IsInCalendar w.engine.today n) ∧
    (2 ≤ w.engine.today.ordinal → ∀ x : Timestamp,
      (Timestamp.endOfDay .first).sinceStart < x.sinceStart →
      x.sinceStart ≤ (Timestamp.endOfDay .last).sinceStart →
        ∃! n : Int, w.Admits field .inDays n x) ∧
    ∀ (n : Int) (x : Timestamp),
      (w.Admits field .ago n x ↔ w.Admits field .inDays (-n) x) ∧
      (DayFilter.inMoreThan.IsInCalendar w.engine.today n →
        (w.Admits field .inMoreThan n x ↔ ¬ w.Admits field .moreThanAgo (1 - n) x)) ∧
      (w.Admits field .lessThanAgo n x ↔
        w.Admits field .moreThanAgo 0 x ∧ w.Admits field .inMoreThan (-n) x) ∧
      (w.Admits field .inLessThan n x ↔
        w.Admits field .inMoreThan 0 x ∧ w.Admits field .moreThanAgo (-n) x) := by
  refine ⟨applyFilter_ok_iff hr hp, fun htoday x hx hx' => existsUnique_day hr hp htoday hx hx',
    fun n x => ⟨?_, fun hn => admits_inMoreThan_iff_not hr hp hn x, ?_, ?_⟩⟩
  · rw [admits_iff hr hp, admits_iff hr hp]
    exact Iff.rfl
  · rw [admits_inMoreThan_iff hr hp, admits_moreThanAgo_iff hr hp, and_comm]
    simpa [DayFilter.range] using admits_iff hr hp .lessThanAgo n x
  · rw [admits_inMoreThan_iff hr hp, admits_moreThanAgo_iff hr hp, Int.neg_neg]
    simpa [DayFilter.range] using admits_iff hr hp .inLessThan n x

/-- Half a second before midnight on a leap day, which belongs to the day after it. -/
theorem windows_tile_halfSecond :
    let w : Work := ⟨.standard ⟨none, none⟩
      ⟨2024, 2, 28, by decide, by decide, by decide, by decide⟩, .empty .postgresql true⟩
    let x : Timestamp := ⟨⟨2024, 2, 29, by decide, by decide, by decide, by decide⟩,
      ⟨23, 59, 59, 500000, by decide, by decide, by decide, by decide⟩, none⟩
    w.engine.registry = .standard ∧ w.query.parameterized = true ∧
      2 ≤ w.engine.today.ordinal ∧
      (Timestamp.endOfDay .first).sinceStart < x.sinceStart ∧
      x.sinceStart ≤ (Timestamp.endOfDay .last).sinceStart ∧
      (∃! n : Int, w.Admits "created" .inDays n x) ∧ w.Admits "created" .inDays 2 x ∧
      DayFilter.inMoreThan.IsInCalendar w.engine.today 2 ∧
      (w.Admits "created" .inMoreThan 2 x ↔ ¬ w.Admits "created" .moreThanAgo (1 - 2) x) := by
  intro w x
  have htoday : w.engine.today.ordinal = 738944 := by decide
  have hx : x.sinceStart = 63844847999500000 := by decide
  have hfirst : (Timestamp.endOfDay .first).sinceStart = 86399000000 := by decide
  have hlast : (Timestamp.endOfDay .last).sinceStart = 315537897599000000 := by decide
  have hordinals : (Date.lastOrdinal : Int) = 3652059 := rfl
  obtain ⟨-, htile, hfit⟩ := windows_tile (w := w) rfl rfl "created"
  have hn : DayFilter.inMoreThan.IsInCalendar w.engine.today 2 := by
    refine ⟨fun a ha => ?_, fun b hb => by cases hb⟩
    cases ha
    omega
  have hday : w.Admits "created" .inDays 2 x := by
    refine (admits_inDays_iff rfl rfl 2 x).mpr ?_
    unfold DateRange.MeetsLower DateRange.MeetsUpper Timestamp.secondLater
    omega
  exact ⟨rfl, rfl, by omega, by omega, by omega, htile (by omega) x (by omega) (by omega), hday,
    hn, (hfit 2 x).2.1 hn⟩

end Work
end ReportFilter
