/-
# Whole days

The filters that count days from today select whole days of the calendar. What
they append are bounds: the last second of the day before the first one,
excluded, and the last second of the last day, included. A timestamp to the
second lies behind the last second of a day exactly when its date is a later one
(`Bound.accepts_endOfDay`), so the bounds of a range of days hold for the timestamps
of these days and for no others (`DateRange.enclose_bounds`).

Key definitions: `DayFilter`, `DayFilter.Selects`, `Bound`, `Bound.Accepts`,
`DateRange.bounds`.
Key theorems: `Bound.accepts_endOfDay`, `DateRange.decide_of_bounds`,
`DateRange.enclose_bounds`, `Query.appendAll_bounds`, `Work.selects_of_applyFilter`.
-/
import ReportFilter.Proofs.FailedFilters

namespace ReportFilter

/-! ### Filters that count days -/

/-- The built-in filters that count days from today. -/
inductive DayFilter where
  | today
  | ago
  | inDays
  | moreThanAgo
  | lessThanAgo
  | inLessThan
  | inMoreThan
  deriving DecidableEq, Repr

namespace DayFilter

/-- The name of a filter's operator. -/
def operator : DayFilter → String
  | today => "t"
  | ago => "t-"
  | inDays => "t+"
  | moreThanAgo => "<t-"
  | lessThanAgo => ">t-"
  | inLessThan => "<t+"
  | inMoreThan => ">t+"

/-- Whether a filter for `n` days selects the day that comes `k` days after
today. -/
def Selects : DayFilter → (n k : Int) → Prop
  | today, _, k => k = 0
  | ago, n, k => k = -n
  | inDays, n, k => k = n
  | moreThanAgo, n, k => k ≤ -n
  | lessThanAgo, n, k => -n ≤ k ∧ k ≤ 0
  | inLessThan, n, k => 0 ≤ k ∧ k ≤ n
  | inMoreThan, n, k => n ≤ k

/-- The behavior of a filter's operator. -/
def behavior : DayFilter → Behavior
  | today => .today
  | ago => .ago
  | inDays => .inDays
  | moreThanAgo => .moreThanAgo
  | lessThanAgo => .lessThanAgo
  | inLessThan => .inLessThan
  | inMoreThan => .inMoreThan

/-- The first and the last day that a filter for `n` days selects. -/
def range : DayFilter → (n : Int) → Option Int × Option Int
  | today, _ => (some 0, some 0)
  | ago, n => (some (-n), some (-n))
  | inDays, n => (some n, some n)
  | moreThanAgo, n => (none, some (-n))
  | lessThanAgo, n => (some (-n), some 0)
  | inLessThan, n => (some 0, some n)
  | inMoreThan, n => (some n, none)

theorem days_behavior (f : DayFilter) : f.behavior.days = some f.range := by
  cases f <;> rfl

theorem selects_iff (f : DayFilter) (n k : Int) :
    f.Selects n k ↔ (∀ a ∈ (f.range n).1, a ≤ k) ∧ ∀ b ∈ (f.range n).2, k ≤ b := by
  cases f <;> simp [Selects, range] <;> omega

theorem exists_operator (f : DayFilter) :
    ∃ op, Registry.standard.get? f.operator = some op ∧ op.behavior = f.behavior := by
  have hany : (Registry.standard.get? f.operator).any (·.behavior = f.behavior) = true := by
    cases f <;> decide
  obtain ⟨op, hget, hb⟩ := (Option.any_eq_true _ _).mp hany
  exact ⟨op, hget, of_decide_eq_true hb⟩

end DayFilter

/-! ### Bounds -/

/-- A bound on timestamps. -/
inductive Bound where
  /-- Behind a timestamp. -/
  | after (t : Timestamp)
  /-- Up to a timestamp. -/
  | upTo (t : Timestamp)
  deriving DecidableEq, Repr

namespace Bound

/-- The timestamp that is compared with. -/
def time : Bound → Timestamp
  | after t | upTo t => t

/-- How a predicate says the comparison. -/
def comparison : Bound → String
  | after _ => " > "
  | upTo _ => " <= "

/-- Whether a timestamp meets a bound. -/
def Accepts : Bound → Timestamp → Prop
  | after t, x => t.sinceStart < x.sinceStart
  | upTo t, x => x.sinceStart ≤ t.sinceStart

/-- The condition on a field that a bound is. -/
def condition : Bound → Condition
  | after t => .after t
  | upTo t => .upTo t

theorem clause_condition (d : Dialect) (field : String) (b : Bound) :
    b.condition.clause d field =
      (Frame.compared field b.comparison (.timestamp b.time)).clause := by
  cases b with
  | after t => exact Condition.clause_after d field t
  | upTo t => exact Condition.clause_upTo d field t

/-- The predicates of bounds on a field, with bind parameters behind the first
`count` ones. -/
def predicates (d : Dialect) (field : String) : (count : Nat) → List Bound → List String
  | _, [] => []
  | count, b :: bs =>
    (field ++ b.comparison ++ d.placeholder (count + 1 : Nat)) ::
      predicates d field (count + 1) bs

end Bound

namespace Timestamp

theorem sinceStart_endOfDay (d : Date) :
    (endOfDay d).sinceStart = (d.ordinal - 1) * 86400000000 + 86399000000 := by
  have hlast : TimeOfDay.lastSecond.sinceMidnight = 86399000000 := by decide
  rw [← hlast]
  rfl

/-- Behind the last second of a day there are only later days. -/
theorem endOfDay_lt_iff {d : Date} {x : Timestamp} (hx : x.time.microsecond = 0) :
    (endOfDay d).sinceStart < x.sinceStart ↔ d.ordinal < x.date.ordinal := by
  have hend := sinceStart_endOfDay d
  have hstart : x.sinceStart = (x.date.ordinal - 1) * 86400000000 + x.time.sinceMidnight := rfl
  have hsecond : x.time.sinceMidnight % 1000000 = 0 := by
    unfold TimeOfDay.sinceMidnight
    omega
  have hday : x.time.sinceMidnight < 86400000000 := x.time.sinceMidnight_lt
  have hd := d.ordinal_pos
  have hxd := x.date.ordinal_pos
  rw [hend, hstart]
  constructor
  · intro h
    omega
  · intro h
    omega

end Timestamp

namespace Bound

/-- **The last second of a day bounds whole days**: behind it are the timestamps of
later days, and up to it those of no later day. -/
theorem accepts_endOfDay (d : Date) {x : Timestamp} (hx : x.time.microsecond = 0) :
    ((after (.endOfDay d)).Accepts x ↔ d.ordinal < x.date.ordinal) ∧
      ((upTo (.endOfDay d)).Accepts x ↔ x.date.ordinal ≤ d.ordinal) := by
  have h := Timestamp.endOfDay_lt_iff (d := d) hx
  refine ⟨h, ?_⟩
  show x.sinceStart ≤ (Timestamp.endOfDay d).sinceStart ↔ x.date.ordinal ≤ d.ordinal
  rw [← Nat.not_lt, h, Nat.not_lt]

/-- Bounds that the timestamps of some days meet, and no others. Days are given
by their ordinals. -/
def Enclose (bs : List Bound) (days : Int → Prop) : Prop :=
  ∀ x : Timestamp, x.time.microsecond = 0 → ((∀ b ∈ bs, b.Accepts x) ↔ days x.date.ordinal)

theorem Enclose.append {bs cs : List Bound} {p q : Int → Prop} (hb : Enclose bs p)
    (hc : Enclose cs q) : Enclose (bs ++ cs) fun n => p n ∧ q n := by
  intro x hx
  rw [List.forall_mem_append, hb x hx, hc x hx]

end Bound

/-! ### Ranges of days -/

namespace DateRange

/-- The lower bound of a range of days that has one. -/
def lowerBounds (today : Date) : Option Int → Except Failure (List Bound)
  | none => .ok []
  | some n => do
    let yesterday ← today.plusDays (-1)
    let day ← yesterday.plusDays n
    .ok [.after (.endOfDay day)]

/-- The upper bound of a range of days that has one. -/
def upperBounds (today : Date) : Option Int → Except Failure (List Bound)
  | none => .ok []
  | some n => do
    let day ← today.plusDays n
    .ok [.upTo (.endOfDay day)]

/-- The bounds of a range of days. -/
def bounds (today : Date) (first last : Option Int) : Except Failure (List Bound) := do
  let lower ← lowerBounds today first
  let upper ← upperBounds today last
  .ok (lower ++ upper)

variable {today : Date} {first last : Option Int} {bs : List Bound}

/-- A bound that fails fails the decision, and one that there is, is a condition. -/
theorem bound_lower (today : Date) (first : Option Int) :
    bound (lower today) first =
      .ofExcept ((lowerBounds today first).map fun bs => ⟨bs.map Bound.condition, .done⟩) := by
  cases first with
  | none => rfl
  | some n =>
    simp only [bound, lower, lowerBounds]
    rcases today.plusDays (-1) with e | yesterday
    · rfl
    · simp only [bind, Except.bind]
      rcases yesterday.plusDays n with e | day <;> rfl

theorem bound_upper (today : Date) (last : Option Int) :
    bound (upper today) last =
      .ofExcept ((upperBounds today last).map fun bs => ⟨bs.map Bound.condition, .done⟩) := by
  cases last with
  | none => rfl
  | some n =>
    simp only [bound, upper, upperBounds]
    rcases today.plusDays n with e | day <;> rfl

/-- **A range of days asks for its bounds.** -/
theorem decide_of_bounds (h : bounds today first last = .ok bs) :
    decide today first last = ⟨bs.map Bound.condition, .done⟩ := by
  obtain ⟨lower, hlower, h⟩ := exists_of_bind_eq_ok h
  obtain ⟨upper, hupper, h⟩ := exists_of_bind_eq_ok h
  cases h
  rw [decide, bound_lower, bound_upper, hlower, hupper, List.map_append]
  rfl

theorem ending_of_bounds {e : Failure} (h : bounds today first last = .error e) :
    (decide today first last).ending = .fail e := by
  rw [decide, bound_lower, bound_upper]
  unfold bounds at h
  rcases hlower : lowerBounds today first with e' | lower
  · rw [hlower] at h
    cases h
    rfl
  · rw [hlower] at h
    rcases hupper : upperBounds today last with e' | upper
    · rw [hupper] at h
      cases h
      rfl
    · rw [hupper] at h
      cases h

theorem enclose_lowerBounds (h : lowerBounds today first = .ok bs) :
    Bound.Enclose bs fun n => ∀ a ∈ first, today.ordinal + a ≤ n := by
  intro x hx
  cases first with
  | none =>
    cases h
    simp
  | some a =>
    obtain ⟨yesterday, hyesterday, h⟩ := exists_of_bind_eq_ok h
    obtain ⟨day, hday, h⟩ := exists_of_bind_eq_ok h
    cases h
    have hy := Date.ordinal_of_plusDays hyesterday
    have hd := Date.ordinal_of_plusDays hday
    rw [List.forall_mem_singleton, (Bound.accepts_endOfDay day hx).1]
    simp only [Option.mem_def, Option.some.injEq, forall_eq']
    omega

theorem enclose_upperBounds (h : upperBounds today last = .ok bs) :
    Bound.Enclose bs fun n => ∀ b ∈ last, n ≤ today.ordinal + b := by
  intro x hx
  cases last with
  | none =>
    cases h
    simp
  | some b =>
    obtain ⟨day, hday, h⟩ := exists_of_bind_eq_ok h
    cases h
    have hd := Date.ordinal_of_plusDays hday
    rw [List.forall_mem_singleton, (Bound.accepts_endOfDay day hx).2]
    simp only [Option.mem_def, Option.some.injEq, forall_eq']
    omega

/-- **The bounds of a range of days enclose it.** -/
theorem enclose_bounds (h : bounds today first last = .ok bs) :
    Bound.Enclose bs fun n =>
      (∀ a ∈ first, today.ordinal + a ≤ n) ∧ ∀ b ∈ last, n ≤ today.ordinal + b := by
  obtain ⟨lower, hlower, h⟩ := exists_of_bind_eq_ok h
  obtain ⟨upper, hupper, h⟩ := exists_of_bind_eq_ok h
  cases h
  exact (enclose_lowerBounds hlower).append (enclose_upperBounds hupper)

end DateRange

/-! ### Bounds appended -/

/-- A behavior that counts days and does not fail has been given a number of days,
and decides on the range that it asks for. -/
theorem Behavior.exists_days_of_done {b : Behavior} {range : Int → Option Int × Option Int}
    (h : b.days = some range) {s : Situation} {field : String} {values : List Value}
    (hdone : (b.decide s field values).ending = .done) :
    ∃ n, LeadingInteger.ofValue (values.headD .none) = .ok n ∧
      b.decide s field values = DateRange.decide s.today (range n).1 (range n).2 := by
  rw [decide_days h] at hdone ⊢
  by_cases ha : b.accepts values.length = true
  · rw [if_pos ha] at hdone ⊢
    rcases hn : LeadingInteger.ofValue (values.headD .none) with e | n
    · rw [hn] at hdone
      cases hdone
    · exact ⟨n, rfl, rfl⟩
  · rw [if_neg ha] at hdone
    cases hdone

namespace Query

/-- Bounds on a field appended with bind parameters: a predicate for each, and
its timestamp as the parameter. -/
theorem appendAll_bounds (field : String) : ∀ (bs : List Bound) (q : Query),
    q.parameterized = true →
      q.appendAll (bs.map fun b => b.condition.clause q.dialect field) =
        .done { q with
          predicates := q.predicates ++ Bound.predicates q.dialect field q.parameters.length bs
          parameters := q.parameters ++ bs.map fun b => .timestamp b.time }
  | [], q, _ => by simp [appendAll, Bound.predicates]
  | b :: bs, q, hp => by
    have happend : q.append (b.condition.clause q.dialect field) = .done
        { q with
          predicates := q.predicates ++
            [field ++ b.comparison ++ q.dialect.placeholder (q.parameters.length + 1 : Nat)]
          parameters := q.parameters ++ [.timestamp b.time] } := by
      rw [Bound.clause_condition, append_clause, if_pos hp, Frame.numbered_compared]
      rfl
    rw [List.map_cons, appendAll, happend, Attempt.andThen_done]
    have ih := appendAll_bounds field bs { q with
      predicates := q.predicates ++
        [field ++ b.comparison ++ q.dialect.placeholder (q.parameters.length + 1 : Nat)]
      parameters := q.parameters ++ [.timestamp b.time] } hp
    rw [ih]
    simp [Bound.predicates]

end Query

namespace Work

theorem ending_of_done {op : Operator} {range : Int → Option Int × Option Int}
    (hdays : op.behavior.days = some range) (steps : Nat) (field : String) (values : List Value)
    (w : Work) (hdone : (modifyWithin (steps + 1) op field values w).outcome = .ok ()) :
    (op.behavior.decide (w.engine.situation op) field values).ending = .done := by
  obtain ⟨v, -, -, hend⟩ := modifyWithin_days hdays steps field values w rfl
  rcases hend with ⟨-, hend⟩ | ⟨e, hfail, -⟩
  · exact hend
  · rw [hfail] at hdone
    cases hdone

/-- **Filters that count days select whole days.** A filter that succeeds has
appended bounds with bind parameters, and a timestamp to the second meets all of
them exactly when the filter selects its date, counted from today. -/
theorem selects_of_applyFilter {w : Work} (hr : w.engine.registry = .standard)
    (hp : w.query.parameterized = true) (f : DayFilter) (field : String) (values : List Value)
    (hdone : (w.applyFilter field (.text f.operator) values).outcome = .ok ()) :
    ∃ (n : Int) (bounds : List Bound),
      LeadingInteger.ofValue (values.headD .none) = .ok n ∧
      (w.applyFilter field (.text f.operator) values).state.query = { w.query with
        predicates := w.query.predicates ++
          Bound.predicates w.query.dialect field w.query.parameters.length bounds
        parameters := w.query.parameters ++ bounds.map fun b => .timestamp b.time } ∧
      ∀ x : Timestamp, x.time.microsecond = 0 →
        ((∀ b ∈ bounds, b.Accepts x) ↔
          f.Selects n (x.date.ordinal - w.engine.today.ordinal)) := by
  obtain ⟨op, hget, hbehavior⟩ := f.exists_operator
  have hdays : op.behavior.days = some f.range := by
    rw [hbehavior, f.days_behavior]
  obtain ⟨steps, hsteps⟩ := exists_chainLimit hr
  rw [applyFilter_of_no_validators hr hget (Registry.validators_of_days hget hdays), modify,
    hsteps] at hdone ⊢
  have hending := ending_of_done hdays steps field values w hdone
  obtain ⟨n, hn, hdecide⟩ := Behavior.exists_days_of_done hdays hending
  rw [hdecide] at hending
  rcases hbounds : DateRange.bounds w.engine.today (f.range n).1 (f.range n).2 with e | bs
  · rw [Engine.situation, DateRange.ending_of_bounds hbounds] at hending
    cases hending
  refine ⟨n, bs, hn, ?_, fun x hx => ?_⟩
  · rw [modifyWithin_succ, hdecide, Engine.situation, DateRange.decide_of_bounds hbounds, append,
      List.map_map]
    have happend := Query.appendAll_bounds field bs (w.ready op values).query (by
      rw [query_ready, hp])
    rw [Function.comp_def, happend, query_ready]
    rfl
  · rw [DateRange.enclose_bounds hbounds x hx, f.selects_iff]
    constructor
    · rintro ⟨hfirst, hlast⟩
      exact ⟨fun a ha => by have := hfirst a ha; omega, fun b hb => by have := hlast b hb; omega⟩
    · rintro ⟨hfirst, hlast⟩
      exact ⟨fun a ha => by have := hfirst a ha; omega, fun b hb => by have := hlast b hb; omega⟩

/-- Less than three days ago, across a leap day. -/
theorem selects_of_applyFilter_leapDay :
    let w : Work := ⟨.standard ⟨none, none⟩
      ⟨2024, 3, 1, by decide, by decide, by decide, by decide⟩, .empty .postgresql true⟩
    let f := DayFilter.lessThanAgo
    let a := w.applyFilter "created" (.text f.operator) [.text "3 days"]
    w.engine.registry = .standard ∧ w.query.parameterized = true ∧ a.outcome = .ok () ∧
      ∃ (n : Int) (bounds : List Bound),
        LeadingInteger.ofValue (.text "3 days") = .ok n ∧
        a.state.query = { w.query with
          predicates := w.query.predicates ++
            Bound.predicates w.query.dialect "created" w.query.parameters.length bounds
          parameters := w.query.parameters ++ bounds.map fun b => .timestamp b.time } ∧
        ∀ x : Timestamp, x.time.microsecond = 0 →
          ((∀ b ∈ bounds, b.Accepts x) ↔
            f.Selects n (x.date.ordinal - w.engine.today.ordinal)) := by
  intro w f a
  have hdone : a.outcome = .ok () := Attempt.failure?_eq_none_iff.mp (by decide +kernel)
  exact ⟨rfl, rfl, hdone, selects_of_applyFilter rfl rfl f "created" [.text "3 days"] hdone⟩

end Work
end ReportFilter
