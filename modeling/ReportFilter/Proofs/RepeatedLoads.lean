/-
# Repeated loads

A load that fails leaves the operators that it has registered, unlinked, and the flag
unset. The next load starts from there. Names that are taken are passed over, operators
that are made do not depend on the validators, and all operators are linked at the end.
So with whatever validators the loads before have failed, the registry is still on its way
to the table of a single load that finds all validators (`Registry.Approaches`).

Key definitions: `Validators.IsPartOf`, `Registry.Approaches`, `Preparation.isRepetition`.
Key theorems: `Registry.register_congr`, `Registry.registerAll_again`,
`Registry.Approaches.load`, `Engine.load_again`.
-/
import ReportFilter.Proofs.Preparations

namespace ReportFilter

/-- Every name of the table is in the other. -/
def Validators.IsPartOf (t t' : Validators) : Prop := ∀ name, t.Has name → t'.Has name

namespace Registry

variable {r : Registry} {t t' : Validators} {spec : Operator.Spec}

/-! ### Registering does not depend on what the validators are -/

theorem register_congr {op op' : Operator} {r₁ r₂ : Registry}
    (h : r.register t spec = .ok (op, r₁)) (h' : r.register t' spec = .ok (op', r₂)) :
    op = op' ∧ r₁ = r₂ := by
  obtain ⟨name, hname, hop, hcases⟩ := register_cases h
  obtain ⟨name', hname', hop', hcases'⟩ := register_cases h'
  cases hname.symm.trans hname'
  have hr : r₁ = r₂ := by
    rcases hcases with ⟨hget, rfl⟩ | ⟨hget, made, hmade, rfl⟩
    · rcases hcases' with ⟨-, rfl⟩ | ⟨hget', -⟩
      · rfl
      · cases hget.symm.trans hget'
    · rcases hcases' with ⟨hget', -⟩ | ⟨-, made', hmade', rfl⟩
      · cases hget.symm.trans hget'
      · obtain ⟨-, -, rfl⟩ := Operator.ofSpec_eq_ok_iff.mp hmade
        obtain ⟨-, -, rfl⟩ := Operator.ofSpec_eq_ok_iff.mp hmade'
        rfl
  subst hr
  exact ⟨Option.some.inj (hop.symm.trans hop'), rfl⟩

/-- With more validators, registering does the same. -/
theorem register_of_isPartOf (ht : t.IsPartOf t') {op : Operator} {r' : Registry}
    (h : r.register t spec = .ok (op, r')) : r.register t' spec = .ok (op, r') := by
  obtain ⟨name, hname, -, ⟨hget, rfl⟩ | ⟨-, made, hmade, -⟩⟩ := register_cases h
  · exact register_of_get? hname hget
  · obtain ⟨hoptions, hfound, heq⟩ := Operator.ofSpec_eq_ok_iff.mp hmade
    have hmade' : Operator.ofSpec t' name spec = .ok made :=
      Operator.ofSpec_eq_ok_iff.mpr ⟨hoptions, fun v hv => ht v (hfound v hv), heq⟩
    obtain ⟨op', r₂, h'⟩ := exists_register (r := r) hname hmade'
    obtain ⟨rfl, rfl⟩ := register_congr h h'
    exact h'

/-! ### Definitions once more -/

theorem registerAll_congr : ∀ (specs : List Operator.Spec) {r : Registry},
    (r.registerAll t specs).outcome = .ok () → (r.registerAll t' specs).outcome = .ok () →
      r.registerAll t specs = r.registerAll t' specs
  | [], _, _, _ => rfl
  | spec :: specs, r, h, h' => by
    obtain ⟨op, r₁, hreg⟩ := exists_register_of_registerAll h
    obtain ⟨op', r₂, hreg'⟩ := exists_register_of_registerAll h'
    obtain ⟨-, rfl⟩ := register_congr hreg hreg'
    rw [registerAll_cons_of_ok hreg] at h ⊢
    rw [registerAll_cons_of_ok hreg'] at h' ⊢
    exact registerAll_congr specs h h'

theorem registerAll_of_isPartOf (ht : t.IsPartOf t') : ∀ (specs : List Operator.Spec)
    {r : Registry}, (r.registerAll t specs).outcome = .ok () →
      (r.registerAll t' specs).outcome = .ok ()
  | [], _, _ => rfl
  | spec :: specs, r, h => by
    obtain ⟨op, r', hreg⟩ := exists_register_of_registerAll h
    rw [registerAll_cons_of_ok hreg] at h
    rw [registerAll_cons_of_ok (register_of_isPartOf ht hreg)]
    exact registerAll_of_isPartOf ht specs h

/-- **Definitions registered once more, behind an attempt that got part of the way**, come
out as if there had been no such attempt. -/
theorem registerAll_again : ∀ (specs : List Operator.Spec) {r : Registry},
    (r.registerAll t specs).outcome = .ok () →
      (r.registerAll t' specs).state.registerAll t specs = r.registerAll t specs
  | [], _, _ => rfl
  | spec :: specs, r, h => by
    obtain ⟨op, r₁, hreg⟩ := exists_register_of_registerAll h
    rcases hreg' : r.register t' spec with e | ⟨op', r₂⟩
    · have hstuck : (r.registerAll t' (spec :: specs)).state = r := by
        rw [registerAll, hreg']
        rfl
      rw [hstuck]
    · obtain ⟨-, rfl⟩ := register_congr hreg hreg'
      rw [registerAll_cons_of_ok hreg] at h
      rw [registerAll_cons_of_ok hreg', registerAll_cons_of_ok hreg]
      -- the name of the first spec is taken from here on
      obtain ⟨name, hname, hget, -⟩ := register_cases hreg
      obtain ⟨ns, hgrows⟩ := r₁.grows_registerAll t' specs
      obtain ⟨later, hlater, -⟩ := hgrows.operators name op hget
      rw [registerAll_cons_of_ok (register_of_get? hname hlater)]
      exact registerAll_again specs h

/-! ### On the way to a loaded registry -/

/-- **The registry is on its way** from one that is not loaded to what a load of that one
makes with all validators, or is there. -/
inductive Approaches (start : Registry) (full : Validators) : Registry → Prop where
  | onTheWay {r : Registry} (unset : r.loaded = false)
      (ahead : r.registerAll full r.definitions = start.registerAll full start.definitions) :
      Approaches start full r
  | there : Approaches start full (start.load full).state

section

variable {start : Registry} {full : Validators} (hl : start.loaded = false)
  (hfull : (start.load full).outcome = .ok ())

include hl hfull

theorem loaded_load : (start.load full).state.loaded = true := by
  rw [load_of_registerAll hl (registerAll_of_load hl hfull)]
  rfl

theorem Approaches.load_of_ok (h : Approaches start full r) (hok : (r.load t).outcome = .ok ()) :
    (r.load t).state = (start.load full).state := by
  have hall := registerAll_of_load hl hfull
  cases h with
  | onTheWay unset ahead =>
    have hregistered := registerAll_of_load unset hok
    have hsame : r.registerAll t r.definitions = start.registerAll full start.definitions := by
      rw [← ahead] at hall ⊢
      exact registerAll_congr _ hregistered hall
    rw [load_of_registerAll unset hregistered, load_of_registerAll hl hall, hsame]
  | there => rw [load_of_loaded t (loaded_load hl hfull)]; rfl

/-- **A load keeps the registry on its way**, with whatever validators, and whether it fails
or not. -/
theorem Approaches.load (h : Approaches start full r) (t : Validators) :
    Approaches start full (r.load t).state := by
  by_cases hok : (r.load t).outcome = .ok ()
  · rw [h.load_of_ok hl hfull hok]
    exact .there
  · cases h with
    | onTheWay unset ahead =>
      have hall := registerAll_of_load hl hfull
      have hchanges := r.changesOperators_registerAll t r.definitions
      rw [load_of_fails unset hok]
      refine .onTheWay (hchanges.loaded.trans unset) ?_
      rw [hchanges.definitions]
      rw [← ahead] at hall ⊢
      exact registerAll_again r.definitions hall
    | there =>
      rw [load_of_loaded t (loaded_load hl hfull)] at hok
      exact absurd rfl hok

/-- With all validators there, the next load returns. -/
theorem Approaches.load_returns (h : Approaches start full r) (ht : full.IsPartOf t) :
    (r.load t).outcome = .ok () := by
  cases h with
  | onTheWay unset ahead =>
    have hall := registerAll_of_load hl hfull
    rw [← ahead] at hall
    rw [load_of_registerAll unset (registerAll_of_isPartOf ht _ hall)]
    rfl
  | there => rw [load_of_loaded t (loaded_load hl hfull)]; rfl

end

theorem loaded_of_load_fails (h : (r.load t).outcome ≠ .ok ()) :
    (r.load t).state.loaded = false := by
  by_cases hl : r.loaded = true
  · rw [load_of_loaded t hl] at h
    exact absurd rfl h
  · have hunset := eq_false_of_ne_true hl
    rw [load_of_fails hunset h]
    exact (r.changesOperators_registerAll t r.definitions).loaded.trans hunset

end Registry

/-! ### Repetitions -/

/-- Whether a step declares a validator or loads the registry once more. -/
def Preparation.isRepetition : Preparation → Bool
  | .declare (.validator ..) | .load => true
  | .declare (.operator _) | .loadBy .. => false

namespace Engine

theorem approaches_prepared {start : Registry} {full : Validators} (hl : start.loaded = false)
    (hfull : (start.load full).outcome = .ok ()) : ∀ (ps : List Preparation) {e : Engine},
      start.Approaches full e.registry → (∀ p ∈ ps, p.isRepetition = true) →
        start.Approaches full (e.prepared ps).registry
  | [], _, h, _ => h
  | p :: ps, e, h, hps => by
    refine approaches_prepared hl hfull ps (e := (e.prepare p).state) ?_ fun q hq =>
      hps q (List.mem_cons_of_mem p hq)
    have hp := hps p List.mem_cons_self
    cases p with
    | declare d =>
      cases d with
      | validator name v => exact h
      | operator spec => cases hp
    | load => exact h.load hl hfull e.validators
    | loadBy declarations outcome => cases hp

/-- **A failed load can be repeated without a trace.** It leaves the flag unset. However
many loads have failed, with validators declared in between, a load that returns leaves the
registry that a single load makes where all validators are there, and it does return once
they are. -/
theorem load_again :
    (∀ e : Engine, (e.prepare .load).outcome ≠ .ok () →
      (e.prepare .load).state.registry.loaded = false) ∧
    ∀ (e : Engine) (full : Validators), e.registry.loaded = false →
      (e.registry.load full).outcome = .ok () →
        ∀ ps : List Preparation, (∀ p ∈ ps, p.isRepetition = true) →
          let e' := e.prepared ps
          ((e'.prepare .load).outcome = .ok () →
            (e'.prepare .load).state.registry = (e.registry.load full).state) ∧
          (full.IsPartOf e'.validators → (e'.prepare .load).outcome = .ok ()) := by
  refine ⟨fun e h => Registry.loaded_of_load_fails h, ?_⟩
  intro e full hl hfull ps hps e'
  have hway : e.registry.Approaches full e'.registry :=
    approaches_prepared hl hfull ps (.onTheWay hl rfl) hps
  exact ⟨fun hok => hway.load_of_ok hl hfull hok, fun ht => hway.load_returns hl hfull ht⟩

/-- Two loads fail, each at another operator. A third finds all validators, of which one
has been replaced; that of the second "a" is not asked for. -/
theorem load_again_twice :
    let a : Operator.Spec := { name := .text "a", delegateName := some "c" }
    let b : Operator.Spec := { name := .text "b", validators := ["x"], delegateName := some "a" }
    let other : Operator.Spec := { name := .text "a", validators := ["z"] }
    let c : Operator.Spec := { name := .text "c", validators := ["dates", "y"] }
    let e : Engine :=
      ⟨.ofDefinitions [a, b, other, c], .initial, [], .fresh ⟨none, none⟩,
        ⟨2024, 1, 17, by decide, by decide, by decide, by decide⟩⟩
    let full : Validators := ⟨[("y", .reject), ("x", .record), ("dates", .dates)]⟩
    let ps : List Preparation := [.load, .declare (.validator "x" .reject), .load,
      .declare (.validator "y" .record), .declare (.validator "x" .dates)]
    ((e.prepare .load).outcome ≠ .ok () ∧
      (e.prepare .load).state.registry.loaded = false ∧
      ((e.prepared (ps.take 2)).prepare .load).failure?.map Failure.kind =
        some .unknownValidator ∧
      (e.prepared ps).registry.names = ["a", "b"]) ∧
    (((e.prepared ps).prepare .load).outcome = .ok () ∧
      ((e.prepared ps).prepare .load).state.registry = (e.registry.load full).state) := by
  intro a b other c e full ps
  have hfails : (e.prepare .load).outcome ≠ .ok () := fun h =>
    absurd (Attempt.failure?_eq_none_iff.mpr h) (by decide +kernel)
  have hfull : (e.registry.load full).outcome = .ok () :=
    Attempt.failure?_eq_none_iff.mp (by decide +kernel)
  have hps : ∀ p ∈ ps, p.isRepetition = true := by simp [ps, Preparation.isRepetition]
  have hpart : full.IsPartOf (e.prepared ps).validators := by
    intro name hname
    have hnames : ∀ n ∈ full.entries.map (·.1),
        n ∈ (e.prepared ps).validators.entries.map (·.1) := by
      decide +kernel
    exact Validators.has_iff.mpr (hnames name (Validators.has_iff.mp hname))
  obtain ⟨hsame, hreturns⟩ := load_again.2 e full rfl hfull ps hps
  have hok := hreturns hpart
  exact ⟨⟨hfails, load_again.1 e hfails, by decide +kernel, by decide +kernel⟩, hok,
    hsame hok⟩

end Engine
end ReportFilter
