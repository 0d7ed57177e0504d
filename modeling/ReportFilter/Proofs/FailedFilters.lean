/-
# What a failed filter leaves

A behavior that counts no days asks for at most one condition, so a filter that
fails leaves the query as it was (`Work.kept_modifyWithin`). That holds along a
chain of delegates too, since no built-in operator delegates to one that counts
days.

A range of days is two conditions, and the lower bound stays when the upper one is
out of the calendar. That happens exactly when `LosesUpperBound` says so: for a
single day right behind the end of the calendar, and for the days up to one that
lies beyond either end.

Key definitions: `Work.Kept`, `LosesUpperBound`.
Key theorems: `Work.kept_modifyWithin`, `Behavior.isHalfDone_decide_iff`,
`Work.failsHalfWay_iff`.
-/
import ReportFilter.Proofs.Runs

namespace ReportFilter

/-! ### Filters that keep the query -/

namespace Work

/-- The attempt succeeds, or the query is as it was before. -/
def Kept (w : Work) (a : Attempt Work) : Prop := a.outcome = .ok () ∨ a.state.query = w.query

theorem Kept.trans {w v : Work} (hv : v.query = w.query) {a : Attempt Work} (h : v.Kept a) :
    w.Kept a := by
  rcases h with h | h
  · exact .inl h
  · exact .inr (h.trans hv)

theorem kept_validate_andThen {w : Work} {op : Operator} {values : List Value}
    {next : Work → Attempt Work}
    (h : ∀ v : Work, v.query = w.query → v.engine.registry = w.engine.registry → v.Kept (next v)) :
    w.Kept ((w.validate op values).andThen next) := by
  have hquery : (w.validate op values).state.query = w.query := rfl
  rcases hv : w.validate op values with ⟨v, e | u⟩
  · rw [hv] at hquery
    exact .inr hquery
  · have hregistry : v.engine.registry = w.engine.registry := by
      have hw : (w.validate op values).state.engine.registry = w.engine.registry := rfl
      rwa [hv] at hw
    rw [hv] at hquery
    exact (h v hquery hregistry).trans hquery

theorem kept_conclude {w : Work} {op : Operator} {field : String} {s : Decision}
    {given : List Value} (hs : Decision.IsSingle w.query.dialect field given s) (steps : Nat)
    (hnext : ∀ (next : Operator) (values : List Value) (v : Work), w.target op = .ok next →
      v.query = w.query → v.engine.registry = w.engine.registry →
        v.Kept (modifyWithin steps next field values v)) :
    w.Kept ((w.append field s).andThen (conclude steps op field s.ending)) := by
  cases hs with
  | fail e => exact .inr rfl
  | skip => exact .inl rfl
  | append c hc hv =>
    unfold Work.append
    simp only [Decision.append, List.map_cons, List.map_nil, Query.appendAll_singleton]
    rcases w.query.append_framed hc with ⟨q, hq⟩ | ⟨e, hq⟩
    · rw [hq]
      exact .inl rfl
    · rw [hq]
      exact .inr rfl
  | handOver validated values hv =>
    rw [append_of_no_conditions w field rfl, Attempt.andThen_done]
    simp only [Decision.handOver, conclude]
    rcases ht : w.target op with e | next
    · exact .inr rfl
    · cases validated with
      | false => exact hnext next values w ht rfl rfl
      | true => exact kept_validate_andThen fun v hq hr => hnext next values v ht hq hr

end Work

theorem Registry.days_of_delegate {name : String} {op next : Operator}
    (h : standard.get? name = some op) (hnext : op.delegate.bind standard.get? = some next) :
    next.behavior.days = none := by
  have hall : ∀ e ∈ standard.entries,
      (e.2.delegate.bind standard.get?).all (fun next => next.behavior.days.isNone) = true := by
    decide
  have hop := hall _ (mem_of_get? h)
  rw [hnext] at hop
  exact Option.isNone_iff_eq_none.mp hop

namespace Work

/-- **A chain of operators that counts no days keeps the query if it fails.** -/
theorem kept_modifyWithin : ∀ (steps : Nat) {name : String} {op : Operator} (field : String)
    (values : List Value) (w : Work), w.engine.registry = .standard →
      Registry.standard.get? name = some op → op.behavior.days = none →
        w.Kept (modifyWithin steps op field values w)
  | 0, _, _, _, _, _, _, _, _ => .inr rfl
  | steps + 1, name, op, field, values, w, hr, hget, hdays => by
    rw [modifyWithin_succ]
    have hsingle := Behavior.isSingle_decide hdays (s := w.engine.situation op)
      (Registry.isPlain_of_get? hget) (w.ready op values).query.dialect field values
    have hready : (w.ready op values).engine.registry = .standard :=
      (registry_ready w op values).trans hr
    refine (kept_conclude hsingle steps fun next values' v ht hq hv => ?_).trans
      (query_ready w op values)
    -- the delegate is built in as well and counts no days, so the chain goes on as it began
    obtain ⟨target, hdelegate, htarget⟩ := get?_of_target ht
    rw [hready] at hv htarget
    have hnext : op.delegate.bind Registry.standard.get? = some next := by
      rw [hdelegate]
      exact htarget
    exact kept_modifyWithin steps field values' v hv htarget
      (Registry.days_of_delegate hget hnext)

end Work

/-! ### Filters that fail half way -/

/-- The days from or up to a number of days fail half way. -/
def LosesUpperBound (today : Date) (b : Behavior) (n : Int) : Prop :=
  2 ≤ today.ordinal ∧
    (b = .inDays ∧ today.ordinal + n = Date.lastOrdinal + 1 ∨
      b = .ago ∧ today.ordinal - n = Date.lastOrdinal + 1 ∨
      b = .inLessThan ∧ (today.ordinal + n < 1 ∨ Date.lastOrdinal < today.ordinal + n))

/-- A range of days fails half way on the dates on which it has no upper bound but
a lower one. -/
theorem DateRange.isHalfDone_days_iff {b : Behavior} {range : Int → Option Int × Option Int}
    (h : b.days = some range) (today : Date) (n : Int) :
    (DateRange.decide today (range n).1 (range n).2).IsHalfDone ↔ LosesUpperBound today b n := by
  have hpos := today.ordinal_pos
  have hle := today.ordinal_le
  unfold LosesUpperBound
  cases b with
  | template | thisWeek | onDate | between | equals | notEquals | numericEquals | contains
  | notContains | alwaysTrue | forward | forwardAll => cases h
  | moreThanAgo | inMoreThan =>
    cases h
    simp only [reduceCtorEq, false_and, or_self, and_false, iff_false]
    exact DateRange.not_isHalfDone_of_open (by simp)
  | today | ago | inDays | lessThanAgo | inLessThan =>
    cases h
    rw [DateRange.isHalfDone_both_iff]
    simp only [reduceCtorEq, true_and, false_and, false_or, or_false, and_false, iff_false]
    omega

namespace Behavior

theorem counts_of_days {b : Behavior} {range : Int → Option Int × Option Int}
    (h : b.days = some range) : ∃ n ∈ b.counts.2, n ≤ 1 := by
  cases b with
  | today => exact ⟨0, rfl, Nat.zero_le 1⟩
  | ago | inDays | moreThanAgo | lessThanAgo | inLessThan | inMoreThan =>
    exact ⟨1, rfl, Nat.le_refl 1⟩
  | template | thisWeek | onDate | between | equals | notEquals | numericEquals | contains
  | notContains | alwaysTrue | forward | forwardAll => cases h

theorem not_losesUpperBound_zero (today : Date) (b : Behavior) : ¬ LosesUpperBound today b 0 := by
  have hpos := today.ordinal_pos
  have hle := today.ordinal_le
  unfold LosesUpperBound
  omega

/-- **A behavior that counts days fails half way** when it gets one value, and
loses the upper bound for the number of days that the value says. -/
theorem isHalfDone_decide_iff {b : Behavior} {range : Int → Option Int × Option Int}
    (h : b.days = some range) (s : Situation) (field : String) (values : List Value) :
    (b.decide s field values).IsHalfDone ↔
      ∃ v n, values = [v] ∧ LeadingInteger.ofValue v = .ok n ∧ LosesUpperBound s.today b n := by
  have hfail : ∀ e, ¬ (Decision.fail e).IsHalfDone := fun e hs => hs.1 rfl
  rw [decide_days h]
  constructor
  · intro hs
    by_cases ha : b.accepts values.length = true
    · rw [if_pos ha] at hs
      rcases hn : LeadingInteger.ofValue (values.headD .none) with e | n
      · rw [hn] at hs
        exact absurd hs (hfail e)
      · rw [hn] at hs
        have hlost : LosesUpperBound s.today b n :=
          (DateRange.isHalfDone_days_iff h s.today n).mp hs
        obtain ⟨m, hm, hm1⟩ := counts_of_days h
        have hlen : values.length ≤ 1 := Nat.le_trans (((accepts_iff b _).mp ha).2 m hm) hm1
        match values, hlen, hn with
        -- behaviors that may be called without a value count zero days then
        | [], _, hn =>
          cases hn
          exact absurd hlost (not_losesUpperBound_zero s.today b)
        | [v], _, hn => exact ⟨v, n, rfl, hn, hlost⟩
    · rw [if_neg ha] at hs
      exact absurd hs (hfail .valueCount)
  · rintro ⟨v, n, rfl, hn, hlost⟩
    have ha : b.accepts [v].length = true := by
      obtain ⟨-, ⟨rfl, -⟩ | ⟨rfl, -⟩ | ⟨rfl, -⟩⟩ := hlost <;> rfl
    rw [if_pos ha, List.headD_cons, hn]
    exact (DateRange.isHalfDone_days_iff h s.today n).mpr hlost

end Behavior

namespace Registry

theorem behavior_iff_name {name : String} {op : Operator} (h : standard.get? name = some op) :
    (op.behavior = .inDays ↔ name = "t+") ∧ (op.behavior = .ago ↔ name = "t-") ∧
      (op.behavior = .inLessThan ↔ name = "<t+") := by
  have hall : ∀ e ∈ standard.entries, (e.2.behavior = .inDays ↔ e.1 = "t+") ∧
      (e.2.behavior = .ago ↔ e.1 = "t-") ∧ (e.2.behavior = .inLessThan ↔ e.1 = "<t+") := by
    decide
  exact hall _ (mem_of_get? h)

theorem validators_of_days {name : String} {op : Operator} (h : standard.get? name = some op)
    {range : Int → Option Int × Option Int} (hdays : op.behavior.days = some range) :
    op.validators = [] := by
  have hall : ∀ e ∈ standard.entries, e.2.behavior.days.isSome = true → e.2.validators = [] := by
    decide
  exact hall _ (mem_of_get? h) (Option.isSome_iff_exists.mpr ⟨range, hdays⟩)

end Registry

namespace Work

theorem exists_append_of_isBounds (w : Work) (field : String) {s : Decision} (hs : s.IsBounds) :
    ∃ q, w.append field s = .done { w with query := q } ∧
      q.predicates.length = w.query.predicates.length + s.conditions.length := by
  obtain ⟨q, hq, hlen⟩ := Query.appendAll_short
    (s.conditions.map (Condition.clause w.query.dialect field)) w.query (by
      intro c hc
      obtain ⟨c', hc', rfl⟩ := List.mem_map.mp hc
      exact (hs.conditions c' hc').isFramed _ field)
  rw [List.length_map] at hlen
  exact ⟨q, by rw [append, hq, withQuery_done], hlen⟩

/-- A range of days is appended as far as it is asked for, and fails if the
decision does. -/
theorem modifyWithin_days {op : Operator} {range : Int → Option Int × Option Int}
    (hdays : op.behavior.days = some range) (steps : Nat) (field : String) (values : List Value)
    (w : Work) {s : Decision} (hs : op.behavior.decide (w.engine.situation op) field values = s) :
    ∃ v : Work, v.query.predicates.length = w.query.predicates.length + s.conditions.length ∧
      (s.conditions = [] → v.query = w.query) ∧
      (modifyWithin (steps + 1) op field values w = .done v ∧ s.ending = .done ∨
        ∃ e, modifyWithin (steps + 1) op field values w = .fail v e ∧ s.ending = .fail e) := by
  have hb : s.IsBounds := hs ▸ Behavior.isBounds_decide hdays _ field values
  obtain ⟨q, happend, hlen⟩ := (w.ready op values).exists_append_of_isBounds field hb
  refine ⟨{ w.ready op values with query := q }, ?_, ?_, ?_⟩
  · rw [hlen, query_ready]
  · intro hnil
    have hsame := happend.symm.trans (append_of_no_conditions (w.ready op values) field hnil)
    have hquery : q = (w.ready op values).query :=
      congrArg (fun a : Attempt Work => a.state.query) hsame
    exact hquery.trans (query_ready w op values)
  · rw [modifyWithin_succ, hs, happend, Attempt.andThen_done]
    rcases hend : s.ending with _ | e | ⟨validated, vs⟩
    · exact .inl ⟨rfl, rfl⟩
    · exact .inr ⟨e, rfl, rfl⟩
    · exact absurd hend (hb.ending validated vs)

/-- The attempt fails and has changed the predicates or the parameters. -/
def FailsHalfWay (w : Work) (a : Attempt Work) : Prop :=
  (∃ e, a.outcome = .error e) ∧
    ¬ (a.state.query.predicates = w.query.predicates ∧
      a.state.query.parameters = w.query.parameters)

theorem Kept.not_failsHalfWay {w : Work} {a : Attempt Work} (h : w.Kept a) :
    ¬ w.FailsHalfWay a := by
  rintro ⟨⟨e, he⟩, hchanged⟩
  rcases h with hdone | hquery
  · rw [hdone] at he
    cases he
  · exact hchanged ⟨congrArg Query.predicates hquery, congrArg Query.parameters hquery⟩

theorem failsHalfWay_days_iff {op : Operator} {range : Int → Option Int × Option Int}
    (hdays : op.behavior.days = some range) (steps : Nat) (field : String) (values : List Value)
    (w : Work) :
    w.FailsHalfWay (modifyWithin (steps + 1) op field values w) ↔
      (op.behavior.decide (w.engine.situation op) field values).IsHalfDone := by
  obtain ⟨v, hlen, hnil, hend⟩ := modifyWithin_days hdays steps field values w rfl
  constructor
  · intro hfails
    by_cases hc : (op.behavior.decide (w.engine.situation op) field values).conditions = []
    · have hkept : w.Kept (modifyWithin (steps + 1) op field values w) := by
        rcases hend with ⟨ha, -⟩ | ⟨e, ha, -⟩
        · exact .inl (by rw [ha]; rfl)
        · exact .inr (by rw [ha]; exact hnil hc)
      exact absurd hfails hkept.not_failsHalfWay
    · refine ⟨hc, ?_⟩
      rcases hend with ⟨ha, -⟩ | ⟨e, -, he⟩
      · obtain ⟨⟨e, he⟩, -⟩ := hfails
        rw [ha] at he
        cases he
      · exact ⟨e, he⟩
  · rintro ⟨hc, e, he⟩
    rcases hend with ⟨-, hdone⟩ | ⟨e', ha, -⟩
    · rw [he] at hdone
      cases hdone
    · rw [ha]
      refine ⟨⟨e', rfl⟩, ?_⟩
      rintro ⟨hp, -⟩
      have hpos := List.length_pos_iff.mpr hc
      have hsame : v.query.predicates.length = w.query.predicates.length := congrArg List.length hp
      omega

/-- **A failed filter changes the query exactly when it loses an upper bound**: it
asks for one day, or for the days from today to one, and the calendar has the lower
bound but not the upper one. -/
theorem failsHalfWay_iff {w : Work} (h : w.engine.registry = .standard) (field : String)
    (operator : Value) (values : List Value) :
    w.FailsHalfWay (w.applyFilter field operator values) ↔
      ∃ v n, values = [v] ∧ LeadingInteger.ofValue v = .ok n ∧ 2 ≤ w.engine.today.ordinal ∧
        (operator.plain = .ok "t+" ∧ w.engine.today.ordinal + n = Date.lastOrdinal + 1 ∨
          operator.plain = .ok "t-" ∧ w.engine.today.ordinal - n = Date.lastOrdinal + 1 ∨
          operator.plain = .ok "<t+" ∧ (w.engine.today.ordinal + n < 1 ∨
            Date.lastOrdinal < w.engine.today.ordinal + n)) := by
  rcases hfind : w.engine.registry.find operator with e | op
  · have hkept : w.Kept (w.applyFilter field operator values) := by
      rw [Work.applyFilter, hfind]
      exact .inr rfl
    refine iff_of_false hkept.not_failsHalfWay ?_
    rintro ⟨v, n, -, -, -, ⟨hp, -⟩ | ⟨hp, -⟩ | ⟨hp, -⟩⟩ <;>
      · rw [h, Registry.find, hp] at hfind
        cases hfind
  · obtain ⟨name, hname, hget⟩ := Registry.get?_of_find hfind
    rw [h] at hget
    obtain ⟨hin, hago, hless⟩ := Registry.behavior_iff_name hget
    simp only [hname, Except.ok.injEq, ← hin, ← hago, ← hless]
    show w.FailsHalfWay _ ↔ ∃ v n, values = [v] ∧ LeadingInteger.ofValue v = .ok n ∧
      LosesUpperBound w.engine.today op.behavior n
    rw [applyFilter_of_find hfind]
    rcases hdays : op.behavior.days with _ | range
    · have hkept : w.Kept ((w.validate op values).andThen fun w => w.modify op field values) :=
        kept_validate_andThen fun v _ hr =>
          kept_modifyWithin v.chainLimit field values v (hr.trans h) hget hdays
      refine iff_of_false hkept.not_failsHalfWay ?_
      rintro ⟨v, n, -, -, -, ⟨hb, -⟩ | ⟨hb, -⟩ | ⟨hb, -⟩⟩ <;>
        · rw [hb] at hdays
          cases hdays
    · have hvalidate : w.validate op values = .done w := by
        rw [Work.validate, Engine.validate, Registry.validators_of_days hget hdays]
        rfl
      obtain ⟨steps, hsteps⟩ := exists_chainLimit h
      rw [hvalidate, Attempt.andThen_done, modify, hsteps, failsHalfWay_days_iff hdays]
      exact Behavior.isHalfDone_decide_iff hdays _ field values

/-- The lower bound stays behind. -/
theorem applyFilter_beyondCalendar :
    let w : Work := ⟨.standard ⟨none, none⟩
      ⟨2024, 1, 17, by decide, by decide, by decide, by decide⟩, .empty .postgresql false⟩
    let a := w.applyFilter "created" (.text "<t+") [.text "9999999"]
    a.failure? = some .outOfCalendar ∧ w.query.predicates = [] ∧
      a.state.query.predicates = ["created > '2024-01-16 23:59:59'"] := by
  intro w a
  have hfailure : a.failure? = some .outOfCalendar := by decide +kernel
  have hpredicates : a.state.query.predicates = ["created > '2024-01-16 23:59:59'"] := by
    decide +kernel
  exact ⟨hfailure, rfl, hpredicates⟩

theorem failsHalfWay_beyondCalendar :
    let w : Work := ⟨.standard ⟨none, none⟩
      ⟨2024, 1, 17, by decide, by decide, by decide, by decide⟩, .empty .postgresql false⟩
    w.engine.registry = .standard ∧
      w.FailsHalfWay (w.applyFilter "created" (.text "<t+") [.text "9999999"]) := by
  intro w
  have hread : LeadingInteger.ofValue (.text "9999999") = .ok 9999999 := rfl
  have hordinal : w.engine.today.ordinal = 738902 := by decide
  have hlast : (Date.lastOrdinal : Int) = 3652059 := rfl
  refine ⟨rfl, (failsHalfWay_iff rfl _ _ _).mpr ⟨_, 9999999, rfl, hread, by omega, ?_⟩⟩
  exact .inr (.inr ⟨rfl, .inr (by omega)⟩)

end Work
end ReportFilter
