/-
# Runs

What a caller does with a query, request after request. A request that fails
does not end the run: the next one starts from what it has left. The clock may
move between two requests.

A filter is its operator's validators and then a chain of operators. What one
operator of the chain does is its decision carried out (`Work.conclude`).

Key definitions: `Request`, `Work.serve`, `Work.trace`, `Work.after`,
`Work.conclude`.
Key theorems: `Work.applyFilter_of_find`, `Work.applyFilter_of_no_validators`,
`Work.modifyWithin_succ`.
-/
import ReportFilter.Proofs.BuiltIns

namespace ReportFilter

/-- What a caller asks for. -/
inductive Request where
  /-- The clock shows a date. -/
  | clock (today : Date)
  /-- The operator of a name applied to a field and values. -/
  | filter (field : String) (operator : Value) (values : List Value)
  /-- The days between two days relative to today. -/
  | days (field : String) (first last : Option Int)
  /-- A clause of the caller's own. -/
  | clause (c : Clause)
  deriving DecidableEq, Repr

namespace Work

/-- A request served. -/
def serve (w : Work) : Request → Attempt Work
  | .clock today => .done { w with engine := { w.engine with today } }
  | .filter field operator values => w.applyFilter field operator values
  | .days field first last => w.dateRange field first last
  | .clause c => w.withQuery (w.query.append c)

/-- Requests served one after the other, each on what the one before has left. -/
def trace (w : Work) : List Request → List (Attempt Work)
  | [] => []
  | r :: rs => w.serve r :: (w.serve r).state.trace rs

/-- What is left after several requests. -/
def after (w : Work) (rs : List Request) : Work := rs.foldl (fun w r => (w.serve r).state) w

end Work

theorem Attempt.andThen_done' {σ : Type} (a : Attempt σ) : a.andThen .done = a := by
  obtain ⟨s, o⟩ := a
  cases o <;> rfl

namespace Query

@[simp] theorem appendAll_singleton (q : Query) (c : Clause) : q.appendAll [c] = q.append c :=
  (q.append c).andThen_done'

end Query

namespace Work

@[simp] theorem withQuery_done (w : Work) (q : Query) :
    w.withQuery (.done q) = .done { w with query := q } := rfl

theorem append_of_no_conditions (w : Work) (field : String) {d : Decision}
    (h : d.conditions = []) : w.append field d = .done w := by
  rw [append, h]
  rfl

/-- The settings are read before a behavior that asks for them. -/
def ready (w : Work) (op : Operator) (values : List Value) : Work :=
  if op.behavior.readsSettings && op.behavior.accepts values.length then
    { w with engine := w.engine.readSettings } else w

@[simp] theorem query_ready (w : Work) (op : Operator) (values : List Value) :
    (w.ready op values).query = w.query := by
  unfold ready
  split <;> rfl

@[simp] theorem registry_ready (w : Work) (op : Operator) (values : List Value) :
    (w.ready op values).engine.registry = w.engine.registry := by
  unfold ready
  split <;> rfl

/-- Nothing is read before a behavior that asks for no settings. -/
theorem ready_of_no_settings (w : Work) {op : Operator} (h : op.behavior.readsSettings = false)
    (values : List Value) : w.ready op values = w := by
  rw [ready, h]
  rfl

/-- What follows the conditions of a decision. -/
def conclude (steps : Nat) (op : Operator) (field : String) (ending : Ending) (w : Work) :
    Attempt Work :=
  match ending with
  | .done => .done w
  | .fail e => .fail w e
  | .handOver validated values =>
    match w.target op with
    | .error e => .fail w e
    | .ok next =>
      if validated then (w.validate next values).andThen (modifyWithin steps next field values)
      else modifyWithin steps next field values w

/-- One operator of a chain: its conditions, then what follows them. -/
theorem modifyWithin_succ (steps : Nat) (op : Operator) (field : String) (values : List Value)
    (w : Work) :
    modifyWithin (steps + 1) op field values w =
      ((w.ready op values).append field
        (op.behavior.decide (w.engine.situation op) field values)).andThen
          (conclude steps op field
            (op.behavior.decide (w.engine.situation op) field values).ending) := rfl

theorem modifyWithin_of_append {w : Work} {op : Operator} {field : String} {values : List Value}
    {c : Condition} (h : op.behavior.decide (w.engine.situation op) field values = .append c)
    (steps : Nat) :
    modifyWithin (steps + 1) op field values w =
      (w.ready op values).withQuery (w.query.append (c.clause w.query.dialect field)) := by
  have hend : ∀ a : Attempt Work, a.andThen (conclude steps op field .done) = a :=
    Attempt.andThen_done'
  rw [modifyWithin_succ, h]
  simp only [Decision.append, hend, append, List.map_cons, List.map_nil,
    Query.appendAll_singleton, query_ready]

theorem modifyWithin_of_fail {w : Work} {op : Operator} {field : String} {values : List Value}
    {e : Failure} (h : op.behavior.decide (w.engine.situation op) field values = .fail e)
    (steps : Nat) :
    modifyWithin (steps + 1) op field values w = .fail (w.ready op values) e := by
  rw [modifyWithin_succ, h, append_of_no_conditions _ field rfl, Attempt.andThen_done]
  rfl

/-- A chain of built-in operators is shorter than its limit. -/
theorem exists_chainLimit {w : Work} (h : w.engine.registry = .standard) :
    ∃ steps, w.chainLimit = steps + 1 := by
  refine ⟨78, ?_⟩
  rw [chainLimit, h]
  decide

/-- A filter is what its operator's validators do, and then its operator. -/
theorem applyFilter_of_find {w : Work} {operator : Value} {op : Operator}
    (h : w.engine.registry.find operator = .ok op) (field : String) (values : List Value) :
    w.applyFilter field operator values =
      (w.validate op values).andThen fun w => w.modify op field values := by
  rw [applyFilter, h]
  rfl

theorem applyFilter_of_no_validators {w : Work} (hr : w.engine.registry = .standard)
    {name : String} {op : Operator} (hget : Registry.standard.get? name = some op)
    (hop : op.validators = []) (field : String) (values : List Value) :
    w.applyFilter field (.text name) values = w.modify op field values := by
  have hfind : w.engine.registry.find (.text name) = .ok op := by
    rw [hr]
    exact Registry.find_of_get? hget
  have hvalidate : w.validate op values = .done w := by
    rw [Work.validate, Engine.validate, hop]
    rfl
  rw [applyFilter_of_find hfind, hvalidate, Attempt.andThen_done]

/-- A built-in operator without validators, whose behavior asks for no settings, carries
out what its behavior decides. -/
theorem applyFilter_of_behavior {w : Work} (hr : w.engine.registry = .standard) (name : String)
    {b : Behavior}
    (hname : (Registry.standard.get? name).any
      (fun op => op.validators = [] ∧ op.behavior = b) = true)
    (hreads : b.readsSettings = false) (field : String) (values : List Value) :
    ∃ (op : Operator) (steps : Nat), op.behavior = b ∧ w.ready op values = w ∧
      w.applyFilter field (.text name) values = modifyWithin (steps + 1) op field values w := by
  obtain ⟨op, hget, hop⟩ := (Option.any_eq_true _ _).mp hname
  obtain ⟨hvalidators, hb⟩ := of_decide_eq_true hop
  obtain ⟨steps, hsteps⟩ := exists_chainLimit hr
  refine ⟨op, steps, hb, w.ready_of_no_settings (by rw [hb, hreads]) values, ?_⟩
  rw [applyFilter_of_no_validators hr hget hvalidators, modify, hsteps]

theorem get?_of_target {w : Work} {op next : Operator} (h : w.target op = .ok next) :
    ∃ name, op.delegate = some name ∧ w.engine.registry.get? name = some next := by
  unfold target at h
  split at h
  · rename_i target ht
    cases h
    exact Option.bind_eq_some_iff.mp ht
  · cases h

/-! ### Predicates of inline queries -/

/-- The attempt succeeds and has appended predicates to the query, of which nothing
else has changed. -/
def Appends (w : Work) (a : Attempt Work) (predicates : List String) : Prop :=
  a.outcome = .ok () ∧
    a.state.query = { w.query with predicates := w.query.predicates ++ predicates }

/-- The attempt appends the predicates that there are, or fails for the reason for
which there are none. -/
inductive Follows (w : Work) (a : Attempt Work) : Except Failure (List String) → Prop
  | ok {predicates : List String} (h : w.Appends a predicates) : Follows w a (.ok predicates)
  | error {e : Failure} (h : a.outcome = .error e) : Follows w a (.error e)

theorem Follows.appends {w : Work} {a : Attempt Work} {predicates : List String}
    (h : w.Follows a (.ok predicates)) : w.Appends a predicates := by
  cases h with
  | ok h => exact h

/-- **A condition that states a frame appends the frame's text** to an inline
query. -/
theorem follows_of_append {w : Work} (hi : w.query.parameterized = false) {op : Operator}
    {field : String} {values : List Value} {c : Condition} {f : Frame}
    (hd : op.behavior.decide (w.engine.situation op) field values = .append c)
    (hf : c.clause w.query.dialect field = f.clause) (steps : Nat) :
    w.Follows (modifyWithin (steps + 1) op field values w)
      ((f.inline w.query.dialect).map fun predicate => [predicate]) := by
  rw [modifyWithin_of_append hd, hf, Query.append_clause, hi]
  simp only [Bool.false_eq_true, if_false]
  rcases f.inline w.query.dialect with e | predicate
  · exact .error rfl
  · exact .ok ⟨rfl, rfl⟩

/-- So does a condition that may fail to be decided on. -/
theorem follows_of_ofExcept {w : Work} (hi : w.query.parameterized = false) {op : Operator}
    {field : String} {values : List Value} {α : Type} {x : Except Failure α} {c : α → Condition}
    {f : α → Frame}
    (hd : op.behavior.decide (w.engine.situation op) field values =
      .ofExcept (x.map fun a => .append (c a)))
    (hf : ∀ a, (c a).clause w.query.dialect field = (f a).clause) (steps : Nat) :
    w.Follows (modifyWithin (steps + 1) op field values w)
      (x.bind fun a => ((f a).inline w.query.dialect).map fun predicate => [predicate]) := by
  cases x with
  | error e =>
    rw [modifyWithin_of_fail hd]
    exact .error rfl
  | ok a => exact follows_of_append hi hd (hf a) steps

end Work
end ReportFilter
