/-
# The two modes agree

A run on an inline query and the same run on a query with bind parameters go
hand in hand. The two queries hold the same frames: one shows the values as
literals, the other one numbers its bind parameters through all frames and
keeps the values in that order (`Query.Agree`).

Appending a framed clause keeps the agreement, if the values have literals, and
cannot fail (`Query.Agree.append`). All that else happens to a filter depends on
the engine, which is the same in both runs; so every request keeps the agreement
and has the same outcome (`Work.Agree.serve`).

Key definitions: `Frame.numberedAll`, `Query.Agree`, `Request.IsRegular`.
Key theorems: `Query.Agree.append`, `Work.Agree.serve`, `Work.modes_agree`.
-/
import Mathlib.Data.List.Forall2
import ReportFilter.Proofs.Runs

namespace ReportFilter

/-! ### Queries that hold the same frames -/

/-- The texts of frames with bind parameters, numbered through all of them. -/
def Frame.numberedAll (d : Dialect) : (count : Nat) → List Frame → List String
  | _, [] => []
  | count, f :: fs => f.numbered d count :: numberedAll d (count + f.values.length) fs

theorem Frame.numberedAll_append (d : Dialect) (f : Frame) : ∀ (fs : List Frame) (count : Nat),
    numberedAll d count (fs ++ [f]) =
      numberedAll d count fs ++ [f.numbered d (count + (fs.flatMap Frame.values).length)]
  | [], count => rfl
  | g :: fs, count => by
    simp only [List.cons_append, numberedAll, numberedAll_append d f fs, List.flatMap_cons,
      List.length_append, Nat.add_assoc]

theorem Frame.length_numberedAll (d : Dialect) : ∀ (fs : List Frame) (count : Nat),
    (numberedAll d count fs).length = fs.length
  | [], _ => rfl
  | f :: fs, count => by simp [numberedAll, length_numberedAll d fs]

/-- An inline query and one with bind parameters that hold the same frames. -/
structure Query.Agree (d : Dialect) (fs : List Frame) (q p : Query) : Prop where
  dialect : q.dialect = d ∧ p.dialect = d
  modes : q.parameterized = false ∧ p.parameterized = true
  inline : fs.mapM (Frame.inline d) = .ok q.predicates
  numbered : p.predicates = Frame.numberedAll d 0 fs
  parameters : p.parameters = fs.flatMap Frame.values

namespace Query

theorem Agree.length_predicates {d : Dialect} {fs : List Frame} {q p : Query}
    (h : Agree d fs q p) : q.predicates.length = p.predicates.length := by
  rw [length_of_mapM h.inline, h.numbered, Frame.length_numberedAll]

theorem agree_empty (d : Dialect) : Agree d [] (.empty d false) (.empty d true) :=
  ⟨⟨rfl, rfl⟩, ⟨rfl, rfl⟩, rfl, rfl, rfl⟩

/-- A framed clause whose values have literals is appended in both modes. -/
theorem Agree.append {d : Dialect} {fs : List Frame} {q p : Query} (h : Agree d fs q p)
    {c : Clause} (hc : c.IsFramed) (hv : ∀ v ∈ c.values, v.IsShort) :
    ∃ f q' p', q.append c = .done q' ∧ p.append c = .done p' ∧ Agree d (fs ++ [f]) q' p' := by
  obtain ⟨f, rfl⟩ := hc
  obtain ⟨hq, hp⟩ := h.dialect
  obtain ⟨hqm, hpm⟩ := h.modes
  obtain ⟨predicate, hin⟩ := Frame.exists_inline d hv
  refine ⟨f, q.push predicate,
    { p with parameters := p.parameters ++ f.values }.push (f.numbered d p.parameters.length),
    ?_, ?_, ⟨⟨hq, hp⟩, ⟨hqm, hpm⟩, ?_, ?_, ?_⟩⟩
  · simp [append_clause, hqm, hq, hin]
  · simp [append_clause, hpm, hp]
  · rw [List.mapM_append, h.inline, List.mapM_cons, hin]
    rfl
  · simp only [push, h.numbered, Frame.numberedAll_append, h.parameters, Nat.zero_add]
  · simp [push, h.parameters]

/-- So are several clauses. -/
theorem Agree.appendAll {d : Dialect} : ∀ (cs : List Clause) {fs : List Frame} {q p : Query},
    Agree d fs q p → (∀ c ∈ cs, c.IsFramed ∧ ∀ v ∈ c.values, v.IsShort) →
      ∃ fs' q' p', q.appendAll cs = .done q' ∧ p.appendAll cs = .done p' ∧ Agree d fs' q' p'
  | [], fs, q, p, h, _ => ⟨fs, q, p, rfl, rfl, h⟩
  | c :: cs, fs, q, p, h, hcs => by
    obtain ⟨hc, hv⟩ := hcs c List.mem_cons_self
    obtain ⟨f, q', p', hq, hp, h'⟩ := h.append hc hv
    obtain ⟨fs'', q'', p'', hq', hp', h''⟩ :=
      appendAll cs h' fun c hc => hcs c (List.mem_cons_of_mem _ hc)
    refine ⟨fs'', q'', p'', ?_, ?_, h''⟩
    · rw [Query.appendAll, hq, Attempt.andThen_done, hq']
    · rw [Query.appendAll, hp, Attempt.andThen_done, hp']

end Query

/-! ### Work in the two modes -/

/-- Two attempts with the same outcome, whose states are related. -/
def Attempt.Agree {σ : Type} (R : σ → σ → Prop) (a b : Attempt σ) : Prop :=
  a.outcome = b.outcome ∧ R a.state b.state

theorem Attempt.Agree.andThen {σ : Type} {R : σ → σ → Prop} {a b : Attempt σ} (h : Agree R a b)
    {f g : σ → Attempt σ} (hfg : ∀ s t, R s t → Agree R (f s) (g t)) :
    Agree R (a.andThen f) (b.andThen g) := by
  obtain ⟨s, o⟩ := a
  obtain ⟨t, o'⟩ := b
  obtain ⟨ho, hst⟩ := h
  simp only at ho hst
  subst ho
  cases o with
  | error e => exact ⟨rfl, hst⟩
  | ok u => exact hfg s t hst

/-- The same built-in operators, settings and clock at work on agreeing
queries. -/
structure Work.Agree (d : Dialect) (w v : Work) : Prop where
  engine : w.engine = v.engine
  standard : w.engine.registry = .standard
  query : ∃ fs, Query.Agree d fs w.query v.query

namespace Work

variable {d : Dialect} {w v : Work}

theorem Agree.done (h : Agree d w v) : Attempt.Agree (Agree d) (.done w) (.done v) := ⟨rfl, h⟩

theorem Agree.fail (h : Agree d w v) (e : Failure) :
    Attempt.Agree (Agree d) (.fail w e) (.fail v e) := ⟨rfl, h⟩

theorem Agree.withEngine (h : Agree d w v) {e : Engine} (he : e.registry = .standard) :
    Agree d { w with engine := e } { v with engine := e } := ⟨rfl, he, h.query⟩

theorem Agree.isPlain_of_get? (h : Agree d w v) {name : String} {op : Operator}
    (ho : w.engine.registry.get? name = some op) : op.IsPlain := by
  rw [h.standard] at ho
  exact Registry.isPlain_of_get? ho

/-- Settings that are read are the same in both. -/
theorem Agree.ready (h : Agree d w v) (op : Operator) (values : List Value) :
    Agree d (w.ready op values) (v.ready op values) := by
  unfold Work.ready
  split
  · rw [← h.engine]
    exact h.withEngine h.standard
  · exact h

theorem Agree.target (h : Agree d w v) (op : Operator) : w.target op = v.target op := by
  unfold Work.target
  rw [h.engine]

/-- Validators see the values and not the query. -/
theorem Agree.validate (h : Agree d w v) (op : Operator) (values : List Value) :
    Attempt.Agree (Agree d) (w.validate op values) (v.validate op values) := by
  have hr : (w.engine.validate op values).state.registry = .standard := h.standard
  unfold Work.validate
  rw [← h.engine]
  exact ⟨rfl, h.withEngine hr⟩

/-- Conditions that are framed are appended in both modes. -/
theorem Agree.append (h : Agree d w v) (field : String) {s : Decision}
    (hs : ∀ c ∈ s.conditions, (c.clause d field).IsFramed ∧ ∀ v ∈ c.values, v.IsShort) :
    ∃ w' v', w.append field s = .done w' ∧ v.append field s = .done v' ∧ Agree d w' v' := by
  obtain ⟨fs, hq⟩ := h.query
  obtain ⟨fs', q', p', hq', hp', h'⟩ :=
    hq.appendAll (s.conditions.map (Condition.clause d field)) (by
      intro c hc
      obtain ⟨c', hc', rfl⟩ := List.mem_map.mp hc
      exact hs c' hc')
  refine ⟨{ w with query := q' }, { v with query := p' }, ?_, ?_, ⟨h.engine, h.standard, fs', h'⟩⟩
  · rw [Work.append, hq.dialect.1, hq', withQuery_done]
  · rw [Work.append, hq.dialect.2, hp', withQuery_done]

/-- A range of days is asked for in both modes alike. -/
theorem Agree.concludeBounds (h : Agree d w v) (op : Operator) (field : String) {s : Decision}
    (hs : s.IsBounds) (steps : Nat) :
    Attempt.Agree (Agree d) ((w.append field s).andThen (Work.conclude steps op field s.ending))
      ((v.append field s).andThen (Work.conclude steps op field s.ending)) := by
  obtain ⟨w', v', hw', hv', h'⟩ := h.append field fun c hc => (hs.conditions c hc).isFramed d field
  rw [hw', hv', Attempt.andThen_done, Attempt.andThen_done]
  rcases hend : s.ending with _ | e | ⟨validated, values⟩
  · exact h'.done
  · exact h'.fail e
  · exact absurd hend (hs.ending validated values)

/-- So is a decision that does one thing. -/
theorem Agree.concludeSingle (h : Agree d w v) {op : Operator} {field : String} {s : Decision}
    {given : List Value} (hs : Decision.IsSingle d field given s) (hg : ∀ v ∈ given, v.IsShort)
    (steps : Nat)
    (hnext : ∀ (next : Operator) (values : List Value) (w v : Work), Agree d w v →
      next.IsPlain → (∀ v ∈ values, v.IsShort) →
        Attempt.Agree (Agree d) (modifyWithin steps next field values w)
          (modifyWithin steps next field values v)) :
    Attempt.Agree (Agree d) ((w.append field s).andThen (Work.conclude steps op field s.ending))
      ((v.append field s).andThen (Work.conclude steps op field s.ending)) := by
  cases hs with
  | fail e =>
    rw [append_of_no_conditions w field rfl, append_of_no_conditions v field rfl]
    exact h.fail e
  | skip =>
    rw [append_of_no_conditions w field rfl, append_of_no_conditions v field rfl]
    exact h.done
  | append c hc hv =>
    obtain ⟨w', v', hw', hv', h'⟩ := h.append field (s := .append c) (by
      intro c' hc'
      rw [List.mem_singleton.mp hc']
      exact ⟨hc, fun v hm => (hv v hm).isShort hg⟩)
    rw [hw', hv']
    exact h'.done
  | handOver validated values hv =>
    have hshort : ∀ v ∈ values, v.IsShort := fun v hm => (hv v hm).isShort hg
    rw [append_of_no_conditions w field rfl, append_of_no_conditions v field rfl,
      Attempt.andThen_done, Attempt.andThen_done]
    simp only [Decision.handOver, Work.conclude, ← h.target op]
    rcases ht : w.target op with e | next
    · exact h.fail e
    · obtain ⟨name, -, hget⟩ := get?_of_target ht
      have hplain := h.isPlain_of_get? hget
      cases validated with
      | false => exact hnext next values w v h hplain hshort
      | true =>
        exact (h.validate next values).andThen fun w v h => hnext next values w v h hplain hshort

/-- A chain of operators does the same in both modes. -/
theorem Agree.modifyWithin : ∀ (steps : Nat) (op : Operator) (field : String)
    (values : List Value) (w v : Work), Agree d w v → op.IsPlain → (∀ v ∈ values, v.IsShort) →
      Attempt.Agree (Agree d) (Work.modifyWithin steps op field values w)
        (Work.modifyWithin steps op field values v)
  | 0, _, _, _, w, v, h, _, _ => h.fail _
  | steps + 1, op, field, values, w, v, h, hop, hv => by
    -- the decision is the same in both runs, since it does not look at the query
    rw [modifyWithin_succ, modifyWithin_succ, ← h.engine]
    have hready := h.ready op values
    rcases hdays : op.behavior.days with _ | range
    · have hsingle := Behavior.isSingle_decide hdays (s := w.engine.situation op) hop d field values
      exact hready.concludeSingle hsingle hv steps fun next values w v h hn hv =>
        modifyWithin steps next field values w v h hn hv
    · exact hready.concludeBounds op field (Behavior.isBounds_decide hdays _ field values) steps

theorem Agree.applyFilter (h : Agree d w v) (field : String) (operator : Value)
    {values : List Value} (hv : ∀ v ∈ values, v.IsShort) :
    Attempt.Agree (Agree d) (w.applyFilter field operator values)
      (v.applyFilter field operator values) := by
  unfold Work.applyFilter
  rw [← h.engine]
  rcases hf : w.engine.registry.find operator with e | op
  · exact h.fail e
  · obtain ⟨name, -, hget⟩ := Registry.get?_of_find hf
    have hplain := h.isPlain_of_get? hget
    refine (h.validate op values).andThen fun w v h => ?_
    unfold Work.modify chainLimit
    rw [← h.engine]
    exact Agree.modifyWithin _ op field values w v h hplain hv

theorem Agree.dateRange (h : Agree d w v) (field : String) (first last : Option Int) :
    Attempt.Agree (Agree d) (w.dateRange field first last) (v.dateRange field first last) := by
  have hb := DateRange.isBounds_decide w.engine.today first last
  obtain ⟨w', v', hw', hv', h'⟩ :=
    h.append field fun c hc => (hb.conditions c hc).isFramed d field
  unfold Work.dateRange
  simp only
  rw [← h.engine, hw', hv', Attempt.andThen_done, Attempt.andThen_done]
  split
  · exact h'.fail _
  · exact h'.done

end Work

/-! ### Runs in the two modes -/

/-- A request whose values all have literals. A clause of the caller's own is a
framed one. -/
def Request.IsRegular : Request → Prop
  | .clock _ => True
  | .filter _ _ values => ∀ v ∈ values, v.IsShort
  | .days _ _ _ => True
  | .clause c => c.IsFramed ∧ ∀ v ∈ c.values, v.IsShort

namespace Work

variable {d : Dialect} {w v : Work}

/-- **A request has the same outcome in both modes and keeps the agreement.** -/
theorem Agree.serve (h : Agree d w v) {r : Request} (hr : r.IsRegular) :
    Attempt.Agree (Agree d) (w.serve r) (v.serve r) := by
  cases r with
  | clock today =>
    have hwv : Agree d ⟨{ w.engine with today }, w.query⟩ ⟨{ w.engine with today }, v.query⟩ :=
      ⟨rfl, h.standard, h.query⟩
    unfold Work.serve
    rw [← h.engine]
    exact hwv.done
  | filter field operator values => exact h.applyFilter field operator hr
  | days field first last => exact h.dateRange field first last
  | clause c =>
    obtain ⟨hc, hv⟩ := hr
    obtain ⟨fs, hq⟩ := h.query
    obtain ⟨f, q', p', hq', hp', h'⟩ := hq.append hc hv
    have hwv : Agree d { w with query := q' } { v with query := p' } :=
      ⟨h.engine, h.standard, _, h'⟩
    unfold Work.serve
    simp only
    rw [hq', hp', withQuery_done, withQuery_done]
    exact hwv.done

/-- So do several requests, one after the other. -/
theorem Agree.trace : ∀ {rs : List Request} {w v : Work}, Agree d w v →
    (∀ r ∈ rs, r.IsRegular) → List.Forall₂ (Attempt.Agree (Agree d)) (w.trace rs) (v.trace rs)
  | [], _, _, _, _ => .nil
  | r :: rs, w, v, h, hr => by
    have hstep := h.serve (hr r List.mem_cons_self)
    have hrest := Agree.trace hstep.2 fun r' hr' => hr r' (List.mem_cons_of_mem _ hr')
    exact .cons hstep hrest

/-- **The modes agree**: on new queries, every request of a run has the same
outcome inline and with bind parameters, and what has been appended by then are
the same frames. -/
theorem modes_agree (d : Dialect) {e : Engine} (he : e.registry = .standard) {rs : List Request}
    (hr : ∀ r ∈ rs, r.IsRegular) :
    List.Forall₂ (fun a b => a.outcome = b.outcome ∧
        a.state.query.predicates.length = b.state.query.predicates.length ∧
        ∃ fs, Query.Agree d fs a.state.query b.state.query)
      (Work.trace ⟨e, .empty d false⟩ rs) (Work.trace ⟨e, .empty d true⟩ rs) := by
  have hstart : Agree d ⟨e, .empty d false⟩ ⟨e, .empty d true⟩ :=
    ⟨rfl, he, [], Query.agree_empty d⟩
  refine (hstart.trace hr).imp fun a b hab => ?_
  obtain ⟨ho, -, -, fs, hq⟩ := hab
  exact ⟨ho, hq.length_predicates, fs, hq⟩

/-- Percent signs in a field and in a clause, a filter that fails behind its first
predicate, and a date range: nothing shifts. -/
theorem modes_agree_mixedRun :
    let e := Engine.standard ⟨none, none⟩
      ⟨2024, 1, 17, by decide, by decide, by decide, by decide⟩
    let rs : List Request :=
      [.filter "100%s" (.text "=") [.text "it's", .int 7],
        .filter "created" (.text "<t+") [.text "9999999"],
        .filter "name" (.text "!~") [.text "50%\\"],
        .days "created" (some (-3)) none,
        .clause ⟨"rate * %s > 5 %% of %s", [.int 2, .text "%s"]⟩]
    (∀ r ∈ rs, r.IsRegular) ∧
      (Work.trace ⟨e, .empty .mysql true⟩ rs).map (·.failure?) =
        [none, some .outOfCalendar, none, none, none] ∧
      List.Forall₂ (fun a b => a.outcome = b.outcome ∧
          a.state.query.predicates.length = b.state.query.predicates.length ∧
          ∃ fs, Query.Agree .mysql fs a.state.query b.state.query)
        (Work.trace ⟨e, .empty .mysql false⟩ rs) (Work.trace ⟨e, .empty .mysql true⟩ rs) := by
  intro e rs
  have hframed : Clause.IsFramed ⟨"rate * %s > 5 %% of %s", [.int 2, .text "%s"]⟩ :=
    ⟨⟨"rate * ", [(.int 2, " > 5 % of "), (.text "%s", "")]⟩, by decide⟩
  have hr : ∀ r ∈ rs, r.IsRegular := by
    intro r hr
    simp only [rs, List.mem_cons, List.not_mem_nil, or_false] at hr
    rcases hr with rfl | rfl | rfl | rfl | rfl
    · show ∀ v ∈ [_, _], _
      decide
    · show ∀ v ∈ [_], _
      decide
    · show ∀ v ∈ [_], _
      decide
    · trivial
    · exact ⟨hframed, by decide⟩
  exact ⟨hr, by decide +kernel, modes_agree .mysql rfl hr⟩

end Work
end ReportFilter
