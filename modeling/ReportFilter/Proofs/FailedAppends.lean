/-
# Failed appends

A parameterized query makes bind parameters for the values of a clause and then fills the
clause's fragment with them. Where slots and values do not match, the append fails and no
predicate is added, but the values stay with the parameters all the same
(`Query.append_cases`).

So after any row of appends the parameters are the values of all clauses that have been
tried, and not of those that the query has (`Query.parameters_afterClauses`). The two are
the same exactly as long as no append has failed, since a clause that fails has values
(`Query.appended_eq_of_values`). Later bind parameters are numbered behind the stray ones.

Key definitions: `Clause.numbered`, `Query.keeping`, `Query.afterClauses`,
`Query.appended`.
Key theorems: `Query.append_cases`, `Query.parameters_afterClauses`,
`Query.appended_eq_of_values`, `Query.parameters_of_attempts`.
-/
import Mathlib.Data.List.Flatten
import ReportFilter.Proofs.Frames

namespace ReportFilter

/-- The text of a clause with bind parameters for its values, numbered behind the first
`count` ones, if its slots and values match. -/
def Clause.numbered (d : Dialect) (count : Nat) (c : Clause) : Except Failure String :=
  if c.values = [] then .ok c.fragment
  else Fragment.fill c.fragment
    ((List.range c.values.length).map fun i => d.placeholder (count + i + 1 : Nat))

theorem Clause.values_ne_nil_of_fails {d : Dialect} {count : Nat} {c : Clause} {e : Failure}
    (h : c.numbered d count = .error e) : c.values ≠ [] := by
  intro hv
  rw [numbered, if_pos hv] at h
  cases h

namespace Query

/-- The query with the values of a clause among its parameters. -/
def keeping (q : Query) (c : Clause) : Query := { q with parameters := q.parameters ++ c.values }

/-- The query after a row of appends, of which some may fail. -/
def afterClauses (q : Query) (cs : List Clause) : Query :=
  cs.foldl (fun q c => (q.append c).state) q

/-- The clauses of a row that are appended, without those that fail. -/
def appended (q : Query) : List Clause → List Clause
  | [] => []
  | c :: cs =>
    match (q.append c).outcome with
    | .ok () => c :: (q.append c).state.appended cs
    | .error _ => (q.append c).state.appended cs

variable {q : Query}

/-- **An append to a parameterized query.** The values are kept in any case, and the text with
bind parameters is the new predicate, if there is one. -/
theorem append_cases (hp : q.parameterized = true) (c : Clause) :
    (∃ predicate, c.numbered q.dialect q.parameters.length = .ok predicate ∧
      q.append c = .done ((q.keeping c).push predicate)) ∨
    ∃ e, c.numbered q.dialect q.parameters.length = .error e ∧
      q.append c = .fail (q.keeping c) e := by
  unfold append Clause.numbered keeping
  by_cases hv : c.values = []
  · rw [if_pos hv, if_pos hv, hv, List.append_nil]
    exact .inl ⟨c.fragment, rfl, rfl⟩
  · rw [if_neg hv, if_neg hv, if_pos hp, placeholders_eq]
    unfold pushFilled
    rcases Fragment.fill c.fragment _ with e | predicate
    · exact .inr ⟨e, rfl, rfl⟩
    · exact .inl ⟨predicate, rfl, rfl⟩

theorem appended_of_done {c : Clause} {q' : Query} (h : q.append c = .done q')
    (cs : List Clause) : q.appended (c :: cs) = c :: q'.appended cs := by
  rw [appended, h]
  rfl

theorem appended_of_fail {c : Clause} {q' : Query} {e : Failure} (h : q.append c = .fail q' e)
    (cs : List Clause) : q.appended (c :: cs) = q'.appended cs := by
  rw [appended, h]
  rfl

/-! ### Rows of appends -/

theorem append_keeps (hp : q.parameterized = true) (c : Clause) :
    (q.append c).state.parameters = q.parameters ++ c.values ∧
      (q.append c).state.dialect = q.dialect ∧ (q.append c).state.parameterized = true := by
  rcases append_cases hp c with ⟨predicate, -, h⟩ | ⟨e, -, h⟩ <;>
    · rw [h]
      exact ⟨rfl, rfl, hp⟩

/-- **The parameters are the values of all clauses that have been tried.** -/
theorem afterClauses_keeps (hp : q.parameterized = true) (cs : List Clause) :
    (q.afterClauses cs).parameters = q.parameters ++ cs.flatMap Clause.values ∧
      (q.afterClauses cs).dialect = q.dialect ∧ (q.afterClauses cs).parameterized = true := by
  induction cs generalizing q with
  | nil => exact ⟨(List.append_nil _).symm, rfl, hp⟩
  | cons c cs ih =>
    obtain ⟨hparameters, hdialect, hp'⟩ := append_keeps hp c
    obtain ⟨hrest, hdialect', hp''⟩ := ih hp'
    rw [hparameters, List.append_assoc, ← List.flatMap_cons] at hrest
    exact ⟨hrest, hdialect'.trans hdialect, hp''⟩

theorem appended_sublist (hp : q.parameterized = true) (cs : List Clause) :
    (q.appended cs).Sublist cs := by
  induction cs generalizing q with
  | nil => exact .slnil
  | cons c cs ih =>
    rcases append_cases hp c with ⟨predicate, -, h⟩ | ⟨e, -, h⟩
    · rw [appended_of_done h]
      exact (ih (q := (q.keeping c).push predicate) hp).cons_cons c
    · rw [appended_of_fail h]
      exact (ih (q := q.keeping c) hp).cons c

theorem length_predicates_afterClauses (hp : q.parameterized = true) (cs : List Clause) :
    (q.afterClauses cs).predicates.length =
      q.predicates.length + (q.appended cs).length := by
  induction cs generalizing q with
  | nil => rfl
  | cons c cs ih =>
    rw [afterClauses, List.foldl_cons]
    rcases append_cases hp c with ⟨predicate, -, h⟩ | ⟨e, -, h⟩
    · rw [h, appended_of_done h, List.length_cons]
      refine (ih (q := (q.keeping c).push predicate) hp).trans ?_
      simp only [push, keeping, List.length_append, List.length_cons, List.length_nil]
      omega
    · rw [h, appended_of_fail h]
      exact ih (q := q.keeping c) hp

/-- **A clause that fails leaves values behind**: without stray values no append has
failed. -/
theorem appended_eq_of_values (hp : q.parameterized = true) {cs : List Clause}
    (h : cs.flatMap Clause.values = (q.appended cs).flatMap Clause.values) :
    q.appended cs = cs := by
  induction cs generalizing q with
  | nil => rfl
  | cons c cs ih =>
    rcases append_cases hp c with ⟨predicate, -, hc⟩ | ⟨e, hn, hc⟩
    · rw [appended_of_done hc, List.flatMap_cons, List.flatMap_cons] at h
      exact (appended_of_done hc cs).trans (congrArg (c :: ·)
        (ih (q := (q.keeping c).push predicate) hp (List.append_cancel_left h)))
    · -- the values of the rest cannot make up for those of the clause
      rw [appended_of_fail hc, List.flatMap_cons] at h
      have hvalues := List.length_pos_iff.mpr (Clause.values_ne_nil_of_fails hn)
      have hrest := ((appended_sublist (q := q.keeping c) hp cs).flatMap
        Clause.values).length_le
      have hlength := congrArg List.length h
      rw [List.length_append] at hlength
      omega

/-- **The parameters of a query belong to attempts.** After any row of appends to a
parameterized query its parameters are the values of all clauses that have been tried, in
order. There are as many predicates as clauses that have been appended; the parameters are
the values of those exactly when no append has failed. The next clause has its bind
parameters numbered behind the values of all attempts; if it fails, it has values, and these
are kept although no predicate is added. -/
theorem parameters_of_attempts (d : Dialect) (cs : List Clause) :
    let start := Query.empty d true
    let q := start.afterClauses cs
    q.parameters = cs.flatMap Clause.values ∧
    q.predicates.length = (start.appended cs).length ∧
    (q.parameters = (start.appended cs).flatMap Clause.values ↔ start.appended cs = cs) ∧
    ∀ c : Clause,
      match c.numbered d (cs.flatMap Clause.values).length with
      | .ok predicate => q.append c = .done { q with
          predicates := q.predicates ++ [predicate], parameters := q.parameters ++ c.values }
      | .error e => c.values ≠ [] ∧
          q.append c = .fail { q with parameters := q.parameters ++ c.values } e := by
  intro start q
  obtain ⟨hparameters, hdialect, hp⟩ := afterClauses_keeps (q := start) rfl cs
  change q.parameters = cs.flatMap Clause.values at hparameters
  have hlength : q.predicates.length = 0 + (start.appended cs).length :=
    length_predicates_afterClauses (q := start) rfl cs
  refine ⟨hparameters, hlength.trans (Nat.zero_add _), ⟨fun h => ?_, fun h => ?_⟩, fun c => ?_⟩
  · exact appended_eq_of_values (q := start) rfl (hparameters.symm.trans h)
  · rw [h, hparameters]
  · rw [← hparameters, ← show q.dialect = d from hdialect]
    rcases append_cases (q := q) hp c with ⟨predicate, hn, hc⟩ | ⟨e, hn, hc⟩
    · rw [hn]
      exact hc
    · rw [hn]
      exact ⟨Clause.values_ne_nil_of_fails hn, hc⟩

/-- Two slots and one value: the value stays, and the next bind parameter is the second. -/
theorem append_missingValue :
    let q := Query.empty .postgresql true
    let a := q.append ⟨"a = %s AND b = %s", [.text "x"]⟩
    let b := a.state.append ⟨"c = %s", [.text "y"]⟩
    a.failure? = some .fragmentArguments ∧
      ¬ (a.state.predicates = q.predicates ∧ a.state.parameters = q.parameters) ∧
      b.failure? = none ∧ b.state.predicates = ["c = $2"] ∧
      b.state.parameters = [.text "x", .text "y"] := by
  decide

end Query
end ReportFilter
