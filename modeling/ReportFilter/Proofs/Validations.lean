/-
# Validation before application

An operator that is applied calls its validators first, in the order in which it names
them, each on all values. One that refuses the values ends the application: what it raises
is passed on, and the query is as it was. Only when all have accepted does the behavior
run.

Which validators there are when an operator is used is not what there was when it was made.
But operators stay supplied (`Engine.prepares_prepared`), so each name leads to the
validator that was declared last under it, and a missing validator is never the reason for
a failure, along a whole chain of delegates (`Work.raises_of_modifyWithin`).

Key definitions: `Validators.AllAccept`, `Validators.Refuses`, `Validators.Raises`,
`Engine.Validates`.
Key theorems: `Validators.run_cases`, `Work.raises_of_modifyWithin`,
`Engine.validates_declared`.
-/
import ReportFilter.Proofs.Causes
import ReportFilter.Proofs.Preparations
import ReportFilter.Proofs.Runs

namespace ReportFilter

/-- Of two operations one after the other, the first or the second has failed. -/
theorem Attempt.error_of_andThen {σ : Type} {a : Attempt σ} {next : σ → Attempt σ} {f : Failure}
    (h : (a.andThen next).outcome = .error f) :
    a.outcome = .error f ∨ a.outcome = .ok () ∧ (next a.state).outcome = .error f := by
  obtain ⟨s, e | u⟩ := a
  · exact .inl h
  · exact .inr ⟨rfl, h⟩

namespace Validators

/-! ### Calls of validators -/

/-- **All validators accept the values**, called one after the other; the journal goes from
each to the next. -/
inductive AllAccept (values : List Value) : List (String × Validator) → Journal → Journal → Prop
  where
  | nil (j : Journal) : AllAccept values [] j j
  | cons {name : String} {v : Validator} {called : List (String × Validator)}
      {j mid last : Journal} (first : v.run name values j = .done mid)
      (rest : AllAccept values called mid last) : AllAccept values ((name, v) :: called) j last

/-- **A validator refuses the values** for a reason, those in front of it having accepted
them. Those behind it are not called. -/
inductive Refuses (values : List Value) (f : Failure) :
    List (String × Validator) → Journal → Journal → Prop where
  | here {name : String} {v : Validator} {called : List (String × Validator)}
      {j last : Journal} (refused : v.run name values j = .fail last f) :
      Refuses values f ((name, v) :: called) j last
  | later {name : String} {v : Validator} {called : List (String × Validator)}
      {j mid last : Journal} (first : v.run name values j = .done mid)
      (rest : Refuses values f called mid last) : Refuses values f ((name, v) :: called) j last

variable {t : Validators}

theorem run_cases (values : List Value) : ∀ {called : List (String × Validator)},
    (∀ c ∈ called, t.get c.1 = .ok c.2) → ∀ j : Journal,
      (∃ last, AllAccept values called j last ∧ t.run (called.map (·.1)) values j = .done last) ∨
        ∃ f last, Refuses values f called j last ∧
          t.run (called.map (·.1)) values j = .fail last f
  | [], _, j => .inl ⟨j, .nil j, rfl⟩
  | (name, v) :: called, h, j => by
    have hget : t.get name = .ok v := h (name, v) List.mem_cons_self
    have hrest := run_cases values fun c hc => h c (List.mem_cons_of_mem _ hc)
    rcases hrun : v.run name values j with ⟨mid, f | u⟩
    · refine .inr ⟨f, mid, .here hrun, ?_⟩
      rw [List.map_cons, run, hget]
      simp only [hrun]
      rfl
    · have hstep : t.run (((name, v) :: called).map (·.1)) values j =
          t.run (called.map (·.1)) values mid := by
        rw [List.map_cons, run, hget]
        simp only [hrun]
        rfl
      rw [hstep]
      rcases hrest mid with ⟨last, haccept, hlast⟩ | ⟨f, last, hrefuse, hlast⟩
      · exact .inl ⟨last, .cons hrun haccept, hlast⟩
      · exact .inr ⟨f, last, .later hrun hrefuse, hlast⟩

theorem exists_called : ∀ {names : List String}, (∀ name ∈ names, t.Has name) →
    ∃ called : List (String × Validator), called.map (·.1) = names ∧
      ∀ c ∈ called, t.get c.1 = .ok c.2
  | [], _ => ⟨[], rfl, fun c hc => by cases hc⟩
  | name :: names, h => by
    obtain ⟨v, hv⟩ := h name List.mem_cons_self
    obtain ⟨called, hcalled, hget⟩ := exists_called fun n hn => h n (List.mem_cons_of_mem _ hn)
    refine ⟨(name, v) :: called, by rw [List.map_cons, hcalled], fun c hc => ?_⟩
    rcases List.mem_cons.mp hc with rfl | hc
    · exact hv
    · exact hget c hc

/-! ### Failures for a missing validator -/

/-- A check of a caller's own, declared as a validator, raises the failure itself. -/
def Raises (t : Validators) (f : Failure) : Prop :=
  ∃ (name : String) (check : List Value → Journal → Attempt Journal) (values : List Value)
    (j : Journal), t.get name = .ok (.custom check) ∧ (check values j).outcome = .error f

theorem needsNoValidator_checkDates : ∀ values : List Value,
    NeedsNoValidator (Validator.checkDates values)
  | [] => needsNoValidator_ok ()
  | v :: values => by
    refine v.needsNoValidator_isBlank.bind fun blank => ?_
    have hrest := needsNoValidator_checkDates values
    cases blank with
    | true => exact hrest
    | false => exact (DateInput.needsNoValidator_read v).bind fun _ => hrest

/-- Validators that are there never fail for a missing one, unless a check of a caller's own
says so. -/
theorem raises_of_run {values : List Value} {f : Failure} (hf : f.kind = .unknownValidator) :
    ∀ {names : List String} {j : Journal}, (∀ name ∈ names, t.Has name) →
      (t.run names values j).outcome = .error f → t.Raises f
  | [], _, _, h => by cases h
  | name :: names, j, hnames, h => by
    obtain ⟨v, hget⟩ := hnames name List.mem_cons_self
    rw [run, hget] at h
    rcases Attempt.error_of_andThen h with h | ⟨-, h⟩
    · cases v with
      | dates => exact absurd hf (needsNoValidator_checkDates values f h)
      | reject =>
        cases h
        cases hf
      | record => cases h
      | custom check => exact ⟨name, check, values, j, hget, h⟩
    · exact raises_of_run hf (fun n hn => hnames n (List.mem_cons_of_mem _ hn)) h

end Validators

/-! ### Chains of delegates -/

theorem Engine.needsNoValidator_weekStart (e : Engine) : NeedsNoValidator e.weekStart :=
  Value.needsNoValidator_bySeven _

namespace Work

/-- The engine at work has the same tables of operators and validators. -/
structure SameTables (w w' : Work) : Prop where
  registry : w'.engine.registry = w.engine.registry
  validators : w'.engine.validators = w.engine.validators

theorem SameTables.trans {w w' w'' : Work} (h : w.SameTables w') (h' : w'.SameTables w'') :
    w.SameTables w'' :=
  ⟨h'.registry.trans h.registry, h'.validators.trans h.validators⟩

/-- The operators of the engine at work are supplied. -/
def IsSupplied (w : Work) : Prop := w.engine.registry.SuppliedBy w.engine.validators

theorem IsSupplied.of_sameTables {w w' : Work} (h : w.IsSupplied) (hs : w.SameTables w') :
    w'.IsSupplied := by
  rw [IsSupplied, hs.registry, hs.validators]
  exact h

theorem sameTables_ready (w : Work) (op : Operator) (values : List Value) :
    w.SameTables (w.ready op values) := by
  unfold ready
  split <;> exact ⟨rfl, rfl⟩

/-- Validation changes the journal alone. -/
theorem sameTables_validate (w : Work) (op : Operator) (values : List Value) :
    w.SameTables (w.validate op values).state := ⟨rfl, rfl⟩

/-- Where an operator's validators are there, none is missing when they are called. -/
theorem raises_of_validate {w : Work} {op : Operator}
    (hop : ∀ name ∈ op.validators, w.engine.validators.Has name) {values : List Value}
    {f : Failure} (hf : f.kind = .unknownValidator)
    (h : (w.validate op values).outcome = .error f) : w.engine.validators.Raises f :=
  Validators.raises_of_run hf hop h

theorem sameTables_append (w : Work) (field : String) (d : Decision) :
    w.SameTables (w.append field d).state := ⟨rfl, rfl⟩

theorem needsNoValidator_append (w : Work) (field : String) (d : Decision) :
    NeedsNoValidator (w.append field d).outcome :=
  w.query.needsNoValidator_appendAll _

theorem needsNoValidator_target (w : Work) (op : Operator) : NeedsNoValidator (w.target op) := by
  unfold target
  split <;> simp [Failure.kind]

/-- What follows an operator's conditions, where the rest of the chain is known. -/
theorem raises_of_conclude {steps : Nat} {f : Failure} (hf : f.kind = .unknownValidator)
    (hrest : ∀ {op : Operator} {field : String} {values : List Value} {w : Work},
      w.IsSupplied → (modifyWithin steps op field values w).outcome = .error f →
        w.engine.validators.Raises f)
    {op : Operator} {field : String} {ending : Ending}
    (hending : ∀ e, ending = .fail e → e.kind ≠ .unknownValidator) {w : Work}
    (hw : w.IsSupplied) (h : (conclude steps op field ending w).outcome = .error f) :
    w.engine.validators.Raises f := by
  cases ending with
  | done => cases h
  | fail e =>
    cases h
    exact absurd hf (hending f rfl)
  | handOver validated values =>
    rcases htarget : w.target op with e | next
    · rw [conclude, htarget] at h
      cases h
      exact absurd hf (w.needsNoValidator_target op f htarget)
    · rw [conclude, htarget] at h
      obtain ⟨name, -, hget⟩ := get?_of_target htarget
      have hnext := hw next (Registry.mem_operators_of_get? hget)
      cases validated with
      | false => exact hrest hw h
      | true =>
        have hvalidated := w.sameTables_validate next values
        rcases Attempt.error_of_andThen h with h | ⟨-, h⟩
        · exact raises_of_validate hnext hf h
        · rw [← hvalidated.validators]
          exact hrest (hw.of_sameTables hvalidated) h

/-- **Along a chain of delegates no validator is missing**, unless a check of a caller's own
says so. -/
theorem raises_of_modifyWithin {f : Failure} (hf : f.kind = .unknownValidator) :
    ∀ (steps : Nat) {op : Operator} {field : String} {values : List Value} {w : Work},
      w.IsSupplied → (modifyWithin steps op field values w).outcome = .error f →
        w.engine.validators.Raises f := by
  intro steps
  induction steps with
  | zero =>
    intro op field values w _ h
    cases h
    cases hf
  | succ steps ih =>
    intro op field values w hw h
    have hending := op.behavior.needsNoValidator_decide (s := w.engine.situation op)
      w.engine.needsNoValidator_weekStart field values
    rw [modifyWithin_succ] at h
    generalize op.behavior.decide (w.engine.situation op) field values = d at h hending
    have hsame := (w.sameTables_ready op values).trans (sameTables_append _ field d)
    rcases Attempt.error_of_andThen h with h | ⟨-, h⟩
    · exact absurd hf (needsNoValidator_append _ field d f h)
    · rw [← hsame.validators]
      exact raises_of_conclude hf ih hending (hw.of_sameTables hsame) h

/-- **An operator is applied without a missing validator**, its own among them. -/
theorem raises_of_apply {w : Work} (hw : w.IsSupplied) {op : Operator}
    (hop : op ∈ w.engine.registry.operators) {field : String} {values : List Value} {f : Failure}
    (hf : f.kind = .unknownValidator) (h : (w.apply op field values).outcome = .error f) :
    w.engine.validators.Raises f := by
  have hvalidated := w.sameTables_validate op values
  rcases Attempt.error_of_andThen h with h | ⟨-, h⟩
  · exact raises_of_validate (hw op hop) hf h
  · rw [← hvalidated.validators]
    exact raises_of_modifyWithin hf _ (hw.of_sameTables hvalidated) h

end Work

/-! ### What an operator that is applied does first -/

namespace Engine

/-- **The operator's validators are called on the values before anything else**: all of them
accept, and the behavior runs, or one refuses, and nothing else is done. -/
inductive Validates (e : Engine) (op : Operator) (called : List (String × Validator))
    (values : List Value) : Prop where
  | accepted {noted : Journal} (accept : Validators.AllAccept values called e.journal noted)
      (validate : e.validate op values = .done { e with journal := noted })
      (apply : ∀ (q : Query) (field : String),
        Work.apply ⟨e, q⟩ op field values =
          Work.modify ⟨{ e with journal := noted }, q⟩ op field values)
  | refused {f : Failure} {noted : Journal}
      (refuse : Validators.Refuses values f called e.journal noted)
      (validate : e.validate op values = .fail { e with journal := noted } f)
      (apply : ∀ (q : Query) (field : String),
        Work.apply ⟨e, q⟩ op field values = .fail ⟨{ e with journal := noted }, q⟩ f)

theorem validates_of_get {e : Engine} {op : Operator} {called : List (String × Validator)}
    (hnames : called.map (·.1) = op.validators)
    (hget : ∀ c ∈ called, e.validators.get c.1 = .ok c.2) (values : List Value) :
    e.Validates op called values := by
  rcases Validators.run_cases values hget e.journal with ⟨noted, haccept, hrun⟩ |
    ⟨f, noted, hrefuse, hrun⟩
  · rw [hnames] at hrun
    have hvalidate : e.validate op values = .done { e with journal := noted } := by
      rw [validate, hrun]
      rfl
    refine .accepted haccept hvalidate fun q field => ?_
    rw [Work.apply, Work.validate, hvalidate]
    rfl
  · rw [hnames] at hrun
    have hvalidate : e.validate op values = .fail { e with journal := noted } f := by
      rw [validate, hrun]
      rfl
    refine .refused hrefuse hvalidate fun q field => ?_
    rw [Work.apply, Work.validate, hvalidate]
    rfl

/-- **No predicate without validation, and no operator with a missing validator.** However
an engine has been prepared, each name that a registered operator gives for a validator
leads to the one declared last under it, and these are what the operator calls, before it
does anything else. None of them is missing when values are validated, nor is any along the
chain of delegates. -/
theorem validates_declared (e : Engine) (definitions : List Operator.Spec)
    (ps : List Preparation) :
    let start : Engine := { e with registry := .ofDefinitions definitions }
    let e' := start.prepared ps
    ∀ op ∈ e'.registry.operators,
      (∃ called : List (String × Validator), called.map (·.1) = op.validators ∧
        (∀ c ∈ called,
          ((start.declared ps).reverse ++ e.validators.entries).lookup c.1 = some c.2) ∧
        ∀ values, e'.Validates op called values) ∧
      ∀ (values : List Value) (f : Failure), f.kind = .unknownValidator →
        ((e'.validate op values).outcome = .error f → e'.validators.Raises f) ∧
        ∀ (q : Query) (field : String),
          (Work.apply ⟨e', q⟩ op field values).outcome = .error f → e'.validators.Raises f := by
  intro start e' op hop
  have hprepares := start.prepares_prepared ps
  have hsupplied : e'.registry.SuppliedBy e'.validators :=
    hprepares.supplied fun op hop => by cases hop
  obtain ⟨called, hnames, hget⟩ := Validators.exists_called (hsupplied op hop)
  refine ⟨⟨called, hnames, fun c hc => ?_, validates_of_get hnames hget⟩, fun values f hf =>
    ⟨fun h => ?_, fun q field h => ?_⟩⟩
  · rw [← Validators.get_eq_ok_iff.mp (hget c hc)]
    exact (hprepares.replaces c.1).symm
  · exact Validators.raises_of_run hf (hsupplied op hop) h
  · exact Work.raises_of_apply (w := ⟨e', q⟩) hsupplied hop hf h

/-- A load fails for a missing validator, and so does an operator that is declared. A
validator is replaced after the operator that names it twice has been made; the one between
its two calls refuses the values. -/
theorem validates_declared_replaced :
    let twice : Operator.Spec := { name := .text "twice", validators := ["x", "y", "x"] }
    let lost : Operator.Spec := { name := .text "lost", validators := ["z"] }
    let e : Engine :=
      ⟨.ofDefinitions [twice], .initial, [], .fresh ⟨none, none⟩,
        ⟨2024, 1, 17, by decide, by decide, by decide, by decide⟩⟩
    let ps : List Preparation := [.declare (.validator "x" .reject), .load,
      .declare (.operator lost), .declare (.validator "y" .reject), .load,
      .declare (.validator "x" .record)]
    let op : Operator := twice.made "twice"
    let missing : Failure := .unknownValidator "z" ["x"]
    let a := Work.apply ⟨e.prepared ps, .empty .sqlite false⟩ op "f" [.int 1]
    ((e.prepared ps).registry.names = ["twice"] ∧ op ∈ (e.prepared ps).registry.operators ∧
      missing.kind = .unknownValidator ∧ a.failure? = some (.rejected 1) ∧
      a.state.engine.journal = [("x", 1)] ∧ a.state.query = .empty .sqlite false) ∧
    (∃ called : List (String × Validator), called.map (·.1) = ["x", "y", "x"] ∧
      (∀ c ∈ called,
        ((e.declared ps).reverse ++ e.validators.entries).lookup c.1 = some c.2) ∧
      (e.prepared ps).Validates op called [.int 1]) ∧
    (a.outcome = .error missing → (e.prepared ps).validators.Raises missing) := by
  intro twice lost e ps op missing a
  have hop : op ∈ (e.prepared ps).registry.operators := by decide +kernel
  have hmissing : missing.kind = .unknownValidator := rfl
  obtain ⟨⟨called, hnames, hlast, hvalidates⟩, hraises⟩ :=
    validates_declared e [twice] ps op hop
  exact ⟨⟨by decide +kernel, hop, hmissing, by decide +kernel, by decide +kernel,
    by decide +kernel⟩, ⟨called, hnames, hlast, hvalidates [.int 1]⟩,
    (hraises [.int 1] missing hmissing).2 (.empty .sqlite false) "f"⟩

end Engine
end ReportFilter
