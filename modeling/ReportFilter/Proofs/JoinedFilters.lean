/-
# Joined filters

The condition of a query joins its predicates by AND without parentheses around
them. Filters on columns append operands only, so the joined text is cut into the
predicates again, whatever values the filters have: what a filter says can never be
read as a part of another.

A query keeps that its predicates are operands through every request, also when
one fails (`Work.Joins.serve`).

Key definitions: `Decision.Joins`, `Work.Joins`, `Request.IsOnColumn`.
Key theorems: `Behavior.joins_decide`, `Work.Joins.serve`,
`Work.conjuncts_sql`.
-/
import ReportFilter.Proofs.Operands
import ReportFilter.Proofs.Runs

namespace ReportFilter

/-! ### Decisions on columns -/

/-- A decision whose conditions are stated by operands. -/
def Decision.Joins (d : Dialect) (field : String) (s : Decision) : Prop :=
  ∀ c ∈ s.conditions, (c.clause d field).IsOperand d

namespace Decision

variable {d : Dialect} {field : String}

theorem joins_of_no_conditions {s : Decision} (h : s.conditions = []) : s.Joins d field := by
  intro c hc
  rw [h] at hc
  cases hc

theorem joins_append {c : Condition} (h : (c.clause d field).IsOperand d) :
    (append c).Joins d field := by
  intro c' hc
  rw [List.mem_singleton.mp hc]
  exact h

theorem joins_ofExcept {x : Except Failure Decision} (h : ∀ y, x = .ok y → y.Joins d field) :
    (ofExcept x).Joins d field := by
  cases x with
  | error e => exact joins_of_no_conditions rfl
  | ok y => exact h y rfl

theorem joins_ofExcept_map {α : Type} {x : Except Failure α} {c : α → Condition}
    (h : ∀ a, ((c a).clause d field).IsOperand d) :
    (ofExcept (x.map fun a => append (c a))).Joins d field := by
  cases x with
  | error e => exact joins_of_no_conditions rfl
  | ok a => exact joins_append (h a)

/-- Bounds on a column are operands. -/
theorem IsBounds.joins {s : Decision} (hs : s.IsBounds) (hf : IsColumn field) :
    s.Joins d field := by
  intro c hc
  obtain ⟨t, rfl | rfl⟩ := hs.conditions c hc
  · exact Condition.IsPlain.isOperand_clause d hf trivial
  · exact Condition.IsPlain.isOperand_clause d hf trivial

end Decision

namespace Situation

variable {s : Situation} {field : String} {values : List Value} {y : Decision}

/-- A template states an operand. -/
theorem joins_decideTemplate (d : Dialect) (hf : IsColumn field) (hs : s.operator.IsPlain)
    (hsign : s.operator.template = some defaultTemplate →
      s.operator.comparison ∈ comparisonSigns)
    (h : s.decideTemplate field values = .ok y) : y.Joins d field := by
  obtain ⟨ht | ⟨rest, hr, ht⟩, hc⟩ := hs
  · rw [decideTemplate_comparing s field values ht] at h
    cases h
    have hplain : '%' ∉ (" " ++ s.operator.comparison ++ " ").toList := by simpa using hc
    have hcompared := Condition.isOperand_compared d hf (List.mem_map_of_mem (hsign ht))
      (values.headD (.text ""))
    exact Decision.joins_append ⟨_, Frame.clause_compared hplain field _, hcompared⟩
  · rw [decideTemplate_fixed s field values hr ht] at h
    cases h
    have habout := Condition.isOperand_about d hf (List.mem_map_of_mem hr)
    rw [← String.append_assoc] at habout
    exact Decision.joins_append ⟨_, rfl, habout⟩

theorem joins_decideEquals (d : Dialect) (hf : IsColumn field) :
    (decideEquals values).Joins d field := by
  simp only [decideEquals]
  split
  · exact Decision.joins_append (Condition.IsPlain.isOperand_clause d hf trivial)
  · rename_i hv
    exact Decision.joins_append (Condition.IsPlain.isOperand_clause (c := .oneOf _) d hf hv)

theorem joins_decideNotEquals (d : Dialect) (hf : IsColumn field)
    (h : decideNotEquals values = .ok y) : y.Joins d field := by
  obtain ⟨rest, -, rfl⟩ := decideNotEquals_cases h
  split
  · exact Decision.joins_append (Condition.IsPlain.isOperand_clause d hf trivial)
  · rename_i hv
    exact Decision.joins_append (Condition.IsPlain.isOperand_clause (c := .noneOf _) d hf hv)

theorem joins_decideBetween {first last : Value} (d : Dialect) (hf : IsColumn field)
    (h : decideBetween first last = .ok y) : y.Joins d field := by
  obtain rfl | ⟨a, b, rfl⟩ := decideBetween_cases h
  · exact Decision.joins_of_no_conditions rfl
  · exact Decision.joins_append
      (Condition.IsPlain.isOperand_clause (c := .between a b) d hf trivial)

end Situation

/-- **What a built-in operator asks of a column is stated by operands.** -/
theorem Behavior.joins_decide {name : String} {op : Operator}
    (hget : Registry.standard.get? name = some op) {s : Situation} (hs : s.operator = op)
    (d : Dialect) {field : String} (hf : IsColumn field) (values : List Value) :
    (op.behavior.decide s field values).Joins d field := by
  have hplain : s.operator.IsPlain := hs ▸ Registry.isPlain_of_get? hget
  have hsign : op.behavior = .template → s.operator.template = some defaultTemplate →
      s.operator.comparison ∈ comparisonSigns := by
    rw [hs]
    exact Registry.comparison_mem_of_get? hget
  cases hdays : op.behavior.days with
  | some range => exact (Behavior.isBounds_decide hdays s field values).joins hf
  | none =>
    simp only [Behavior.decide]
    split
    · exact Decision.joins_of_no_conditions rfl
    · cases hb : op.behavior with
      | template =>
        exact Decision.joins_ofExcept fun y => Situation.joins_decideTemplate d hf hplain (hsign hb)
      | today | ago | inDays | moreThanAgo | lessThanAgo | inLessThan | inMoreThan =>
        rw [hb] at hdays
        cases hdays
      | thisWeek =>
        refine Decision.joins_ofExcept fun y hy => ?_
        obtain ⟨start, stop, rfl⟩ := Situation.decideThisWeek_cases hy
        exact Decision.joins_of_no_conditions rfl
      | onDate =>
        refine Decision.joins_ofExcept fun y hy => ?_
        obtain rfl | ⟨m, rfl⟩ := Situation.decideOnDate_cases hy <;>
          exact Decision.joins_of_no_conditions rfl
      | between => exact Decision.joins_ofExcept fun y => Situation.joins_decideBetween d hf
      | equals => exact Situation.joins_decideEquals d hf
      | notEquals => exact Decision.joins_ofExcept fun y => Situation.joins_decideNotEquals d hf
      | numericEquals | contains | notContains =>
        exact Decision.joins_ofExcept_map fun a =>
          Condition.IsPlain.isOperand_clause d hf trivial
      | alwaysTrue =>
        exact Decision.joins_append (Condition.IsPlain.isOperand_clause d hf trivial)
      | forward | forwardAll =>
        refine Decision.joins_ofExcept fun y hy => ?_
        rw [Situation.decideForward_cases hy]
        exact Decision.joins_of_no_conditions rfl

/-! ### Queries of operands -/

/-- A query whose predicates are operands. -/
structure Query.Joins (d : Dialect) (q : Query) : Prop where
  dialect : q.dialect = d
  operands : ∀ p ∈ q.predicates, d.IsOperand p

namespace Query

variable {d : Dialect} {q : Query}

theorem joins_empty (d : Dialect) (parameterized : Bool) :
    (Query.empty d parameterized).Joins d :=
  ⟨rfl, fun _ hp => (by cases hp)⟩

theorem Joins.push (h : q.Joins d) {p : String} (hp : d.IsOperand p) : (q.push p).Joins d := by
  refine ⟨h.dialect, fun p' hp' => ?_⟩
  rcases List.mem_append.mp hp' with hp' | hp'
  · exact h.operands p' hp'
  · rw [List.mem_singleton.mp hp']
    exact hp

/-- **A clause of an operand keeps the predicates operands**, with literals and with
bind parameters. -/
theorem Joins.append (h : q.Joins d) {c : Clause} (hc : c.IsOperand d) :
    (q.append c).state.Joins d := by
  obtain ⟨f, rfl, hf⟩ := hc
  obtain ⟨rfl, hoperands⟩ := h
  rw [append_clause]
  by_cases hp : q.parameterized = true
  · have hnumbered : q.dialect.IsOperand (f.numbered q.dialect q.parameters.length) := by
      refine hf _ (by rw [List.length_map, List.length_range]) fun a ha => ?_
      obtain ⟨i, -, rfl⟩ := List.mem_map.mp ha
      exact q.dialect.isAtom_placeholder _
    have hparameters : Query.Joins q.dialect
        { q with parameters := q.parameters ++ f.values } := ⟨rfl, hoperands⟩
    rw [if_pos hp]
    exact hparameters.push hnumbered
  · rw [if_neg hp]
    rcases hl : f.values.mapM q.dialect.literal with e | literals
    · rw [Frame.inline, hl]
      exact ⟨rfl, hoperands⟩
    · have hfilled : q.dialect.IsOperand (f.fill literals) := by
        refine hf literals (length_of_mapM hl) fun a ha => ?_
        obtain ⟨v, -, hv⟩ := mem_of_mapM hl a ha
        exact q.dialect.isAtom_literal hv
      rw [Frame.inline, hl]
      exact Joins.push ⟨rfl, hoperands⟩ hfilled

theorem Joins.appendAll : ∀ {cs : List Clause} {q : Query}, q.Joins d →
    (∀ c ∈ cs, c.IsOperand d) → (q.appendAll cs).state.Joins d
  | [], q, h, _ => h
  | c :: cs, q, h, hcs => by
    have hhead := h.append (hcs c List.mem_cons_self)
    exact Attempt.state_andThen hhead fun q' hq' =>
      hq'.appendAll fun c' hc' => hcs c' (List.mem_cons_of_mem _ hc')

end Query

/-! ### Runs -/

/-- Built-in operators at work on a query whose predicates are operands. -/
structure Work.Joins (d : Dialect) (w : Work) : Prop where
  standard : w.engine.registry = .standard
  query : w.query.Joins d

/-- A request that only concerns columns. -/
def Request.IsOnColumn : Request → Prop
  | .clock _ => True
  | .filter field _ _ | .days field _ _ => IsColumn field
  | .clause _ => False

instance : ∀ r : Request, Decidable r.IsOnColumn
  | .clock _ => isTrue trivial
  | .filter field _ _ | .days field _ _ => inferInstanceAs (Decidable (IsColumn field))
  | .clause _ => isFalse id

namespace Work

variable {d : Dialect} {w : Work} {field : String}

theorem Joins.append (h : w.Joins d) {s : Decision} (hs : s.Joins d field) :
    (w.append field s).state.Joins d := by
  refine ⟨h.standard, h.query.appendAll fun c hc => ?_⟩
  obtain ⟨c', hc', rfl⟩ := List.mem_map.mp hc
  rw [h.query.dialect]
  exact hs c' hc'

theorem Joins.ready (h : w.Joins d) (op : Operator) (values : List Value) :
    (w.ready op values).Joins d :=
  ⟨(registry_ready w op values).trans h.standard, (query_ready w op values).symm ▸ h.query⟩

theorem Joins.validate (h : w.Joins d) (op : Operator) (values : List Value) :
    (w.validate op values).state.Joins d := ⟨h.standard, h.query⟩

/-- **A chain of operators on a column appends operands**, as far as it gets. -/
theorem Joins.modifyWithin (hf : IsColumn field) : ∀ (steps : Nat) {name : String}
    {op : Operator} (values : List Value) {w : Work}, w.Joins d →
      Registry.standard.get? name = some op →
        (modifyWithin steps op field values w).state.Joins d
  | 0, _, _, _, _, h, _ => h
  | steps + 1, name, op, values, w, h, hget => by
    rw [modifyWithin_succ]
    have hdecision : (op.behavior.decide (w.engine.situation op) field values).Joins d field :=
      Behavior.joins_decide hget rfl d hf values
    refine Attempt.state_andThen ((h.ready op values).append hdecision) fun v hv => ?_
    rcases (op.behavior.decide (w.engine.situation op) field values).ending with
      _ | e | ⟨validated, values'⟩
    · exact hv
    · exact hv
    · unfold conclude
      rcases ht : v.target op with e | next
      · exact hv
      · -- the delegate is built in as well
        obtain ⟨target, -, hnext⟩ := get?_of_target ht
        rw [hv.standard] at hnext
        cases validated with
        | false => exact Joins.modifyWithin hf steps values' hv hnext
        | true =>
          exact Attempt.state_andThen (hv.validate next values') fun u hu =>
            Joins.modifyWithin hf steps values' hu hnext

theorem Joins.applyFilter (h : w.Joins d) (hf : IsColumn field) (operator : Value)
    (values : List Value) : (w.applyFilter field operator values).state.Joins d := by
  rcases hfind : w.engine.registry.find operator with e | op
  · rw [Work.applyFilter, hfind]
    exact h
  · obtain ⟨name, -, hget⟩ := Registry.get?_of_find hfind
    rw [h.standard] at hget
    rw [applyFilter_of_find hfind]
    exact Attempt.state_andThen (h.validate op values) fun v hv =>
      hv.modifyWithin hf v.chainLimit values hget

theorem Joins.dateRange (h : w.Joins d) (hf : IsColumn field) (first last : Option Int) :
    (w.dateRange field first last).state.Joins d := by
  have hdecision : (DateRange.decide w.engine.today first last).Joins d field :=
    (DateRange.isBounds_decide w.engine.today first last).joins hf
  refine Attempt.state_andThen (h.append hdecision) fun v hv => ?_
  split <;> exact hv

/-- **A request on a column keeps the predicates operands**, also when it fails. -/
theorem Joins.serve (h : w.Joins d) {r : Request} (hr : r.IsOnColumn) :
    (w.serve r).state.Joins d := by
  cases r with
  | clock today => exact ⟨h.standard, h.query⟩
  | filter field operator values => exact h.applyFilter hr operator values
  | days field first last => exact h.dateRange hr first last
  | clause c => exact hr.elim

/-- So do several of them. -/
theorem Joins.after : ∀ {rs : List Request} {w : Work}, w.Joins d → (∀ r ∈ rs, r.IsOnColumn) →
    (w.after rs).Joins d
  | [], _, h, _ => h
  | r :: rs, w, h, hrs => by
    have hserved := h.serve (hrs r List.mem_cons_self)
    have ih := Joins.after hserved fun r' hr' => hrs r' (List.mem_cons_of_mem _ hr')
    exact ih

/-- **The condition of a query is the conjunction of its predicates.** After any
requests on columns that have left a predicate, the SQL text cut at each AND that
stands outside literals and parentheses and belongs to no BETWEEN is the predicates
in order, and no predicate has an OR outside literals and parentheses. -/
theorem conjuncts_sql (d : Dialect) (parameterized : Bool) {e : Engine}
    (he : e.registry = .standard) {rs : List Request} (hrs : ∀ r ∈ rs, r.IsOnColumn)
    (hne : (Work.after ⟨e, .empty d parameterized⟩ rs).query.predicates ≠ []) :
    let q := (Work.after ⟨e, .empty d parameterized⟩ rs).query
    d.conjuncts q.sql = q.predicates ∧
      ∀ p ∈ q.predicates, Token.or ∉ d.tokens p.toList := by
  intro q
  have hstart : Joins d ⟨e, .empty d parameterized⟩ := ⟨he, Query.joins_empty d parameterized⟩
  have hend : q.Joins d := (hstart.after hrs).query
  exact ⟨d.conjuncts_intercalate hne hend.operands, fun p hp => (hend.operands p hp).no_or⟩

/-- Values that look like SQL, a BETWEEN and an exclusion. -/
theorem conjuncts_sql_lookalikes :
    let e := Engine.standard ⟨none, none⟩ ⟨2024, 1, 17, by decide, by decide, by decide, by decide⟩
    let rs : List Request :=
      [.filter "t.name" (.text "!") [.text "a' AND (b", .text " OR "],
        .filter "t.born" (.text "<>d") [.text "2024-01-01", .text "2024-02-29"],
        .filter "t.size" (.text "~") [.text "\\' AND 1=1 --"]]
    let q := (Work.after ⟨e, .empty .mysql false⟩ rs).query
    e.registry = .standard ∧ (∀ r ∈ rs, r.IsOnColumn) ∧ q.predicates ≠ [] ∧
      Dialect.mysql.conjuncts q.sql = q.predicates ∧
      ∀ p ∈ q.predicates, Token.or ∉ Dialect.mysql.tokens p.toList := by
  intro e rs q
  have hrs : ∀ r ∈ rs, r.IsOnColumn := by decide
  have hne : q.predicates ≠ [] := by decide +kernel
  exact ⟨rfl, hrs, hne, conjuncts_sql .mysql false rfl hrs hne⟩

end Work
end ReportFilter
