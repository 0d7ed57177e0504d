/-
# What the built-in operators decide

The templates of the built-in operators are plain, so what they state is known
in full. With that, a built-in operator that counts no days decides on at most one
thing (`Decision.IsSingle`): it fails, asks for nothing, hands values on, or states
one condition, which is framed and whose values are given ones or no integers.
Proofs about filters split on that and do not open the behaviors again.

Key definitions: `Operator.IsPlain`, `Decision.IsSingle`.
Key theorems: `Registry.isPlain_of_get?`, `Situation.decideTemplate_comparing`,
`Behavior.isSingle_decide`.
-/
import ReportFilter.Engine
import ReportFilter.Proofs.Days
import ReportFilter.Proofs.PlainTemplates

namespace ReportFilter

/-! ### The catalogue -/

/-- The ends of the templates that take no value. -/
def fixedEnds : List String := ["IS NULL", "IS NOT NULL", "= 0"]

/-- The signs that the built-in operators compare by. -/
def comparisonSigns : List String := ["=", "<", ">", "<=", ">="]

/-- An operator of a plain template: it compares the field with a value, or it
says something fixed about it. -/
def Operator.IsPlain (op : Operator) : Prop :=
  (op.template = some defaultTemplate ∨
    ∃ rest ∈ fixedEnds, op.template = Catalogue.fieldTemplate rest) ∧
  '%' ∉ op.comparison.toList

instance (op : Operator) : Decidable op.IsPlain := by
  unfold Operator.IsPlain
  infer_instance

namespace Registry

theorem mem_of_get? {r : Registry} {name : String} {op : Operator} (h : r.get? name = some op) :
    (name, op) ∈ r.entries := by
  obtain ⟨before, after, he, -⟩ := List.lookup_eq_some_iff.mp h
  rw [he]
  simp

theorem isPlain_of_get? {name : String} {op : Operator} (h : standard.get? name = some op) :
    op.IsPlain := by
  have hall : ∀ e ∈ standard.entries, e.2.IsPlain := by decide
  exact hall _ (mem_of_get? h)

/-- A built-in operator of the default template compares by one of the signs. -/
theorem comparison_mem_of_get? {name : String} {op : Operator} (h : standard.get? name = some op)
    (hb : op.behavior = .template) (ht : op.template = some defaultTemplate) :
    op.comparison ∈ comparisonSigns := by
  have hall : ∀ e ∈ standard.entries, e.2.behavior = .template →
      e.2.template = some defaultTemplate → e.2.comparison ∈ comparisonSigns := by
    decide
  exact hall _ (mem_of_get? h) hb ht

theorem get?_of_find {r : Registry} {name : Value} {op : Operator} (h : r.find name = .ok op) :
    ∃ n, name.plain = .ok n ∧ r.get? n = some op := by
  obtain ⟨n, hn, h⟩ := exists_of_bind_eq_ok h
  refine ⟨n, hn, ?_⟩
  cases ho : r.get? n with
  | none => rw [ho] at h; cases h
  | some op' => rw [ho] at h; cases h; rfl

/-- An operator is found by its name. -/
theorem find_of_get? {r : Registry} {name : String} {op : Operator} (h : r.get? name = some op) :
    r.find (.text name) = .ok op := by
  simp only [find, Value.plain_text, bind, Except.bind, h]

end Registry

/-! ### Templates -/

namespace Situation

variable (s : Situation) (field : String) (values : List Value)

/-- The default template gives its slots, with spaces between. -/
theorem render_defaultTemplate (field op value : String) :
    Template.render defaultTemplate [("field", field), ("op", op), ("value", value)] =
      .ok (field ++ (" " ++ op ++ " ") ++ value) := by
  have hspelled : defaultTemplate.toList = Template.spelled
      [.slot "field".toList, .text " ".toList, .slot "op".toList, .text " ".toList,
        .slot "value".toList] := by decide
  have hrender := Template.render_spelled hspelled (by simp [Template.Mark.IsPlain])
    [("field", field), ("op", op), ("value", value)]
    (fun name => if name = "field".toList then field.toList
      else if name = "op".toList then op.toList else value.toList) (by
      intro name hname
      simp only [List.mem_cons, Template.Mark.slot.injEq, reduceCtorEq, List.not_mem_nil,
        or_false, false_or] at hname
      rcases hname with rfl | rfl | rfl <;> rfl)
  rw [hrender]
  simp [Template.Mark.filled, String.append_assoc]

/-- The other templates give the field and say something fixed about it. -/
theorem render_fieldTemplate {rest : String} (hr : ∀ c ∈ rest.toList, c ≠ '{' ∧ c ≠ '}')
    (field op : String) :
    Template.render ("\x7bfield\x7d " ++ rest) [("field", field), ("op", op)] =
      .ok (field ++ " " ++ rest) := by
  have hspelled : ("\x7bfield\x7d " ++ rest).toList =
      Template.spelled [.slot "field".toList, .text (" " ++ rest).toList] := by
    simp [Template.spelled, Template.Mark.spelled]
  have hrender := Template.render_spelled hspelled (by simpa [Template.Mark.IsPlain] using hr)
    [("field", field), ("op", op)] (fun _ => field.toList) (by
      intro name hname
      simp only [List.mem_cons, Template.Mark.slot.injEq, reduceCtorEq, List.not_mem_nil,
        or_false] at hname
      subst hname
      rfl)
  rw [hrender]
  simp [Template.Mark.filled, String.append_assoc]

/-- The default template compares the field with the first value. -/
theorem decideTemplate_comparing (h : s.operator.template = some defaultTemplate) :
    s.decideTemplate field values = .ok (.append (.stated
      ⟨Fragment.escape field ++ (" " ++ s.operator.comparison ++ " ") ++ "%s",
        [values.headD (.text "")]⟩)) := by
  have hslot : Template.hasSlot defaultTemplate "value" = true := by decide
  simp only [decideTemplate, h, hslot, if_true, render_defaultTemplate]
  rfl

/-- The other templates say something fixed about the field. -/
theorem decideTemplate_fixed {rest : String} (hr : rest ∈ fixedEnds)
    (h : s.operator.template = Catalogue.fieldTemplate rest) :
    s.decideTemplate field values = .ok (.append (.stated ⟨field ++ " " ++ rest, []⟩)) := by
  have hslots : ∀ rest ∈ fixedEnds,
      Template.hasSlot ("\x7bfield\x7d " ++ rest) "value" = false := by decide
  have hbraces : ∀ rest ∈ fixedEnds, '{' ∉ rest.toList ∧ '}' ∉ rest.toList := by decide
  have hslot := hslots rest hr
  have hchars : ∀ c ∈ rest.toList, c ≠ '{' ∧ c ≠ '}' := fun c hc =>
    ⟨fun h => (hbraces rest hr).1 (h ▸ hc), fun h => (hbraces rest hr).2 (h ▸ hc)⟩
  simp only [decideTemplate, h, Catalogue.fieldTemplate, hslot, Bool.false_eq_true, if_false,
    render_fieldTemplate hchars]
  rfl

end Situation
/-! ### Shapes of decisions -/

/-- One of the given values, or no integer. -/
def Value.IsTame (given : List Value) (v : Value) : Prop := v ∈ given ∨ ∀ n, v ≠ .int n

theorem Value.IsTame.isShort {given : List Value} {v : Value} (h : v.IsTame given)
    (hg : ∀ v ∈ given, v.IsShort) : v.IsShort := by
  rcases h with h | h
  · exact hg v h
  · exact fun n hn => absurd hn (h n)

/-- A decision on a field and given values that does at most one thing. -/
inductive Decision.IsSingle (d : Dialect) (field : String) (given : List Value) : Decision → Prop
  | fail (e : Failure) : IsSingle d field given (.fail e)
  | skip : IsSingle d field given .skip
  | handOver (validated : Bool) (values : List Value) (h : ∀ v ∈ values, v.IsTame given) :
    IsSingle d field given (.handOver validated values)
  | append (c : Condition) (hc : (c.clause d field).IsFramed)
    (h : ∀ v ∈ c.values, v.IsTame given) : IsSingle d field given (.append c)

theorem Decision.IsSingle.ofExcept {d : Dialect} {field : String} {given : List Value}
    {x : Except Failure Decision} (h : ∀ y, x = .ok y → IsSingle d field given y) :
    IsSingle d field given (.ofExcept x) := by
  cases x with
  | error e => exact .fail e
  | ok y => exact h y rfl

/-- A condition that no template states is framed. -/
theorem Decision.IsSingle.appendCondition {d : Dialect} {field : String} {given : List Value}
    {c : Condition} (hc : ∀ s, c ≠ .stated s) (h : ∀ v ∈ c.values, v.IsTame given) :
    IsSingle d field given (.append c) :=
  .append c (c.isFramed_clause d field fun s hs => absurd hs (hc s)) h

theorem Moment.isTame_toValue (given : List Value) (m : Moment) : m.toValue.IsTame given := by
  right
  intro n
  cases m <;> simp [Moment.toValue]

theorem headD_isTame (values : List Value) {v : Value} (hv : ∀ n, v ≠ .int n) :
    (values.headD v).IsTame values := by
  cases values with
  | nil => exact .inr hv
  | cons w values => exact .inl List.mem_cons_self

namespace Situation

variable {s : Situation} {field : String} {values : List Value} {y : Decision}

theorem isSingle_decideTemplate (hs : s.operator.IsPlain) (d : Dialect)
    (h : s.decideTemplate field values = .ok y) : Decision.IsSingle d field values y := by
  obtain ⟨ht | ⟨rest, hr, ht⟩, hc⟩ := hs
  · rw [decideTemplate_comparing s field values ht] at h
    cases h
    have hop : '%' ∉ (" " ++ s.operator.comparison ++ " ").toList := by simpa using hc
    refine .append _ ⟨_, Frame.clause_compared hop field _⟩ fun v hv => ?_
    rw [List.mem_singleton.mp hv]
    exact headD_isTame values (by simp)
  · rw [decideTemplate_fixed s field values hr ht] at h
    cases h
    exact .append _ (Clause.isFramed_of_no_values rfl) fun v hv => by cases hv

/-- A week is handed over as its two ends. -/
theorem decideThisWeek_cases (h : s.decideThisWeek values = .ok y) :
    ∃ start stop : Timestamp, y = .handOver false [.timestamp start, .timestamp stop] := by
  obtain ⟨weekStart, -, h⟩ := exists_of_bind_eq_ok h
  obtain ⟨first, -, h⟩ := exists_of_bind_eq_ok h
  obtain ⟨offset, -, h⟩ := exists_of_bind_eq_ok h
  obtain ⟨start, -, h⟩ := exists_of_bind_eq_ok h
  obtain ⟨target, -, h⟩ := exists_of_bind_eq_ok h
  obtain ⟨stop, -, h⟩ := exists_of_bind_eq_ok h
  cases h
  exact ⟨_, _, rfl⟩

/-- A date is handed over, unless it is blank. -/
theorem decideOnDate_cases {value : Value} (h : s.decideOnDate value = .ok y) :
    y = .skip ∨ ∃ m : Moment, y = .handOver false [m.toValue] := by
  obtain ⟨blank, -, h⟩ := exists_of_bind_eq_ok h
  cases blank with
  | true =>
    cases h
    exact .inl rfl
  | false =>
    obtain ⟨target, -, h⟩ := exists_of_bind_eq_ok h
    obtain ⟨m, -, h⟩ := exists_of_bind_eq_ok h
    cases h
    exact .inr ⟨m, rfl⟩

/-- Two dates are two ends, unless one is blank. -/
theorem decideBetween_cases {first last : Value} (h : decideBetween first last = .ok y) :
    y = .skip ∨ ∃ a b, y = .append (.between a b) := by
  obtain ⟨blank, -, h⟩ := exists_of_bind_eq_ok h
  cases blank with
  | true =>
    cases h
    exact .inl rfl
  | false =>
    obtain ⟨blank, -, h⟩ := exists_of_bind_eq_ok h
    cases blank with
    | true =>
      cases h
      exact .inl rfl
    | false =>
      obtain ⟨a, -, h⟩ := exists_of_bind_eq_ok h
      obtain ⟨b, -, h⟩ := exists_of_bind_eq_ok h
      cases h
      exact .inr ⟨a, b, rfl⟩

/-- The values that are not blank are excluded. -/
theorem decideNotEquals_cases (h : decideNotEquals values = .ok y) :
    ∃ rest, compact values = .ok rest ∧
      y = .append (if rest = [] then .missing else .noneOf rest) := by
  obtain ⟨rest, hr, h⟩ := exists_of_bind_eq_ok h
  cases h
  exact ⟨rest, hr, rfl⟩

/-- Values are handed over as they are. -/
theorem decideForward_cases {validated : Bool} (h : s.decideForward validated values = .ok y) :
    y = .handOver validated values := by
  obtain ⟨target, -, h⟩ := exists_of_bind_eq_ok h
  cases h
  rfl

theorem isSingle_decideThisWeek (d : Dialect) (h : s.decideThisWeek values = .ok y) :
    Decision.IsSingle d field values y := by
  obtain ⟨start, stop, rfl⟩ := decideThisWeek_cases h
  refine .handOver _ _ fun v hv => ?_
  simp only [List.mem_cons, List.not_mem_nil, or_false] at hv
  rcases hv with rfl | rfl <;> exact .inr fun n => by simp

theorem isSingle_decideOnDate {value : Value} (d : Dialect) (h : s.decideOnDate value = .ok y) :
    Decision.IsSingle d field values y := by
  obtain rfl | ⟨m, rfl⟩ := decideOnDate_cases h
  · exact .skip
  · refine .handOver _ _ fun v hv => ?_
    rw [List.mem_singleton.mp hv]
    exact m.isTame_toValue values

theorem isSingle_decideBetween {first last : Value} (d : Dialect)
    (h : decideBetween first last = .ok y) : Decision.IsSingle d field values y := by
  obtain rfl | ⟨a, b, rfl⟩ := decideBetween_cases h
  · exact .skip
  · refine .appendCondition (by simp) fun v hv => ?_
    simp only [Condition.values, List.mem_cons, List.not_mem_nil, or_false] at hv
    rcases hv with rfl | rfl
    · exact a.isTame_toValue values
    · exact b.isTame_toValue values

theorem isSingle_decideEquals (d : Dialect) :
    Decision.IsSingle d field values (decideEquals values) := by
  simp only [decideEquals]
  split
  · exact .appendCondition (by simp) fun v hv => by cases hv
  · exact .appendCondition (by simp) fun v hv => .inl (List.mem_filter.mp hv).1

theorem isSingle_decideNotEquals (d : Dialect)
    (h : decideNotEquals values = .ok y) : Decision.IsSingle d field values y := by
  obtain ⟨rest, hr, rfl⟩ := decideNotEquals_cases h
  split
  · exact .appendCondition (by simp) fun v hv => by cases hv
  · exact .appendCondition (by simp) fun v hv => .inl (of_mem_compact hr v hv).1

theorem isSingle_decideForward {validated : Bool} (d : Dialect)
    (h : s.decideForward validated values = .ok y) : Decision.IsSingle d field values y := by
  rw [decideForward_cases h]
  exact .handOver _ _ fun v hv => .inl hv

end Situation

/-! ### Behaviors that do not count days -/

namespace Behavior

/-- **Any other behavior of a plain operator does at most one thing.** -/
theorem isSingle_decide {b : Behavior} (hb : b.days = none) {s : Situation}
    (hs : s.operator.IsPlain) (d : Dialect) (field : String) (values : List Value) :
    Decision.IsSingle d field values (b.decide s field values) := by
  simp only [Behavior.decide]
  split
  · exact .fail _
  · have hmap : ∀ {α : Type} {x : Except Failure α} {f : α → Decision},
        (∀ a, Decision.IsSingle d field values (f a)) →
          Decision.IsSingle d field values (.ofExcept (x.map f)) := by
      intro α x f h
      cases x with
      | error e => exact .fail e
      | ok a => exact h a
    cases b with
    | template => exact .ofExcept fun y hy => Situation.isSingle_decideTemplate hs d hy
    | today | ago | inDays | moreThanAgo | lessThanAgo | inLessThan | inMoreThan => cases hb
    | thisWeek => exact .ofExcept fun y hy => Situation.isSingle_decideThisWeek d hy
    | onDate => exact .ofExcept fun y hy => Situation.isSingle_decideOnDate d hy
    | between => exact .ofExcept fun y hy => Situation.isSingle_decideBetween d hy
    | equals => exact Situation.isSingle_decideEquals d
    | notEquals => exact .ofExcept fun y hy => Situation.isSingle_decideNotEquals d hy
    | numericEquals =>
      refine hmap fun x => .appendCondition (by simp) fun v hv => ?_
      rw [List.mem_singleton.mp hv]
      exact .inr (by simp)
    | contains | notContains =>
      refine hmap fun x => .appendCondition (by simp) fun v hv => ?_
      rw [List.mem_singleton.mp hv]
      exact .inr (by simp)
    | alwaysTrue => exact .appendCondition (by simp) fun v hv => by cases hv
    | forward | forwardAll => exact .ofExcept fun y hy => Situation.isSingle_decideForward d hy

end Behavior

end ReportFilter
