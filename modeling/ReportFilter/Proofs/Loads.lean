/-
# Loads

A load registers the definitions in order, links all operators, and sets the flag. Calls
on a registry change its operators alone (`Registry.ChangesOperators`), so the
definitions are there for another load, and the flag is set by a load that returns and
never taken back.

Definitions that are all registered are registered one by one, and afterwards each of
their names is there (`Registry.registerAll_of_ok`, `Registry.mem_names_of_registerAll`).

Key definitions: `Registry.ChangesOperators`, `Registry.Step.isLoad`,
`Registry.registerCalls`.
Key theorems: `Registry.changesOperators_call`, `Registry.loaded_of_load`,
`Registry.load_of_registerAll`.
-/
import ReportFilter.Proofs.Histories

namespace ReportFilter
namespace Registry

/-! ### Names -/

theorem mem_names_iff {r : Registry} {name : String} :
    name ∈ r.names ↔ ∃ op, r.get? name = some op := by
  rw [← Option.ne_none_iff_exists', ne_eq, get?_eq_none_iff, Decidable.not_not]

theorem mem_operators_of_get? {r : Registry} {name : String} {op : Operator}
    (h : r.get? name = some op) : op ∈ r.operators :=
  List.mem_map.mpr ⟨(name, op), mem_of_get? h, rfl⟩

/-- Names are never lost. -/
theorem Grows.mem_names {r r' : Registry} {ns : List String} (h : r.Grows ns r') {name : String}
    (hn : name ∈ r.names) : name ∈ r'.names := by
  rw [h.names]
  exact List.mem_append_left _ hn

/-- A registry that grows by no names has the names that it had. -/
theorem Grows.names_eq {r r' : Registry} (h : r.Grows [] r') : r'.names = r.names := by
  rw [h.names]
  simp [List.removeAll]

theorem names_linkAll (r : Registry) : r.linkAll.names = r.names := r.grows_linkAll.names_eq

theorem names_push (r : Registry) (name : String) (op : Operator) :
    (r.push name op).names = r.names ++ [name] := List.map_append

theorem operators_push (r : Registry) (name : String) (op : Operator) :
    (r.push name op).operators = r.operators ++ [op] := List.map_append

theorem mem_operators_linkAll {r : Registry} {op : Operator} (h : op ∈ r.linkAll.operators) :
    ∃ first ∈ r.operators, op = r.linkEntry first := by
  obtain ⟨e', he', rfl⟩ := List.mem_map.mp h
  obtain ⟨e, he, rfl⟩ := List.mem_map.mp he'
  exact ⟨e.2, List.mem_map.mpr ⟨e, he, rfl⟩, rfl⟩

/-! ### Calls -/

/-- What holds of the registry and of what registering a spec makes of it, holds after the
call, whether it fails or not. -/
theorem state_call_register {P : Registry → Prop} {r : Registry} {validators : Validators}
    {spec : Operator.Spec} (hr : P r)
    (h : ∀ op r', r.register validators spec = .ok (op, r') → P r') :
    P (r.call (.register validators spec)).state := by
  rcases hreg : r.register validators spec with e | ⟨op, r'⟩
  · rw [call, hreg]
    exact hr
  · rw [call, hreg]
    exact h op r' hreg

/-- A spec whose operator can be made is registered. -/
theorem exists_register {r : Registry} {validators : Validators} {spec : Operator.Spec}
    {name : String} {first : Operator} (hname : spec.name.plain = .ok name)
    (hfirst : Operator.ofSpec validators name spec = .ok first) :
    ∃ op r', r.register validators spec = .ok (op, r') := by
  rcases hget : r.get? name with _ | op
  · refine ⟨((r.insert name first).get? name).getD first, r.insert name first, ?_⟩
    simp only [register, hname, hfirst, bind, Except.bind]
    rw [hget]
    rfl
  · exact ⟨op, r, register_of_get? hname hget⟩

/-- Only the operators have changed. -/
structure ChangesOperators (r r' : Registry) : Prop where
  definitions : r'.definitions = r.definitions
  loaded : r'.loaded = r.loaded

theorem ChangesOperators.refl (r : Registry) : r.ChangesOperators r := ⟨rfl, rfl⟩

theorem ChangesOperators.trans {r r' r'' : Registry} (h : r.ChangesOperators r')
    (h' : r'.ChangesOperators r'') : r.ChangesOperators r'' :=
  ⟨h'.definitions.trans h.definitions, h'.loaded.trans h.loaded⟩

theorem changesOperators_insert (r : Registry) (name : String) (op : Operator) :
    r.ChangesOperators (r.insert name op) := by
  unfold insert
  split <;> exact ⟨rfl, rfl⟩

theorem changesOperators_register {r r' : Registry} {validators : Validators}
    {spec : Operator.Spec} {op : Operator} (h : r.register validators spec = .ok (op, r')) :
    r.ChangesOperators r' := by
  obtain ⟨name, -, -, ⟨-, rfl⟩ | ⟨-, made, -, rfl⟩⟩ := register_cases h
  · exact .refl r'
  · exact r.changesOperators_insert name made

theorem changesOperators_linkTo {r r' : Registry} {name : Value} {target : Operator}
    (h : r.linkTo name target = .ok r') : r.ChangesOperators r' := by
  rcases hfind : r.find name with e | op
  · rw [linkTo, hfind] at h
    cases h
  · rw [linkTo, hfind] at h
    cases h
    exact ⟨rfl, rfl⟩

theorem changesOperators_link {r r' : Registry} {name target : Value}
    (h : r.link name target = .ok r') : r.ChangesOperators r' := by
  obtain ⟨_, -, h⟩ := exists_of_bind_eq_ok h
  obtain ⟨target, -, h⟩ := exists_of_bind_eq_ok h
  exact changesOperators_linkTo h

/-- **A call changes the operators alone.** -/
theorem changesOperators_call (r : Registry) (c : Call) : r.ChangesOperators (r.call c).state := by
  cases c with
  | register validators spec =>
    exact state_call_register (.refl r) fun _ _ h => changesOperators_register h
  | find name =>
    rw [call, state_lookup]
    exact .refl r
  | operatorFor operator =>
    rw [call, state_lookup]
    exact .refl r
  | link name target => exact state_ofExcept (.refl r) fun _ h => changesOperators_link h
  | linkTo name target => exact state_ofExcept (.refl r) fun _ h => changesOperators_linkTo h

theorem changesOperators_afterCalls : ∀ (cs : List Call) (r : Registry),
    r.ChangesOperators (r.afterCalls cs)
  | [], r => .refl r
  | c :: cs, r => (r.changesOperators_call c).trans (changesOperators_afterCalls cs _)

theorem changesOperators_registerAll (r : Registry) (validators : Validators)
    (specs : List Operator.Spec) :
    r.ChangesOperators (r.registerAll validators specs).state := by
  rw [state_registerAll]
  exact changesOperators_afterCalls _ r

/-! ### The flag -/

theorem loaded_step {r : Registry} (h : r.loaded = true) (s : Step) :
    (r.step s).state.loaded = true := by
  cases s with
  | call c => exact (r.changesOperators_call c).loaded.trans h
  | load validators =>
    rw [step, load_of_loaded validators h]
    exact h
  | loadBy calls outcome =>
    rw [step, if_pos h]
    exact h

/-- A registry that is loaded stays loaded. -/
theorem loaded_after : ∀ (ss : List Step) {r : Registry}, r.loaded = true →
    (r.after ss).loaded = true
  | [], _, h => h
  | s :: ss, _, h => loaded_after ss (loaded_step h s)

/-- Whether a step is a load, by whatever definitions. -/
def Step.isLoad : Step → Bool
  | .call _ => false
  | .load _ | .loadBy .. => true

theorem loaded_of_andThen {a : Attempt Registry}
    (h : (a.andThen fun r => .done { r.linkAll with loaded := true }).outcome = .ok ()) :
    (a.andThen fun r => .done { r.linkAll with loaded := true }).state.loaded = true := by
  obtain ⟨r, e | u⟩ := a
  · cases h
  · rfl

/-- **Behind a load that returns, the registry is loaded.** -/
theorem loaded_of_load {r : Registry} {s : Step} (hs : s.isLoad = true)
    (h : (r.step s).outcome = .ok ()) : (r.step s).state.loaded = true := by
  by_cases hl : r.loaded = true
  · exact loaded_step hl s
  · cases s with
    | call c => cases hs
    | load validators =>
      rw [step, load, if_neg hl] at h ⊢
      exact loaded_of_andThen h
    | loadBy calls outcome =>
      rw [step, if_neg hl] at h ⊢
      exact loaded_of_andThen h

/-! ### Definitions -/

/-- The calls that register specs. -/
def registerCalls (validators : Validators) (specs : List Operator.Spec) : List Call :=
  specs.map (.register validators)

theorem registerAll_cons_of_ok {r r' : Registry} {validators : Validators} {spec : Operator.Spec}
    {op : Operator} (h : r.register validators spec = .ok (op, r')) (specs : List Operator.Spec) :
    r.registerAll validators (spec :: specs) = r'.registerAll validators specs := by
  rw [registerAll, h]

/-- The first of definitions that are all registered is registered. -/
theorem exists_register_of_registerAll {r : Registry} {validators : Validators}
    {spec : Operator.Spec} {specs : List Operator.Spec}
    (h : (r.registerAll validators (spec :: specs)).outcome = .ok ()) :
    ∃ op r', r.register validators spec = .ok (op, r') := by
  rcases hreg : r.register validators spec with e | ⟨op, r'⟩
  · rw [registerAll, hreg] at h
    cases h
  · exact ⟨op, r', rfl⟩

/-- Definitions that are all registered are registered one by one. -/
theorem registerAll_of_ok {validators : Validators} :
    ∀ (specs : List Operator.Spec) {r : Registry},
      (r.registerAll validators specs).outcome = .ok () →
        r.registerAll validators specs = .done (r.afterCalls (registerCalls validators specs))
  | [], _, _ => rfl
  | spec :: specs, r, h => by
    obtain ⟨op, r', hreg⟩ := exists_register_of_registerAll h
    rw [registerAll_cons_of_ok hreg] at h ⊢
    rw [registerCalls, List.map_cons, afterCalls, call, hreg]
    exact registerAll_of_ok specs h

theorem grows_registerAll (r : Registry) (validators : Validators) (specs : List Operator.Spec) :
    ∃ ns, r.Grows ns (r.registerAll validators specs).state := by
  rw [state_registerAll]
  exact ⟨_, grows_afterCalls _ r⟩

/-- The names of definitions that are all registered are there. -/
theorem mem_names_of_registerAll {validators : Validators} {specs : List Operator.Spec}
    {r : Registry} (h : (r.registerAll validators specs).outcome = .ok ()) :
    ∀ spec ∈ specs, ∃ name ∈ (r.registerAll validators specs).state.names,
      spec.name.plain = .ok name := by
  induction specs generalizing r with
  | nil =>
    intro spec hspec
    cases hspec
  | cons first specs ih =>
    intro spec hspec
    obtain ⟨op, r', hreg⟩ := exists_register_of_registerAll h
    rw [registerAll_cons_of_ok hreg] at h ⊢
    rcases List.mem_cons.mp hspec with rfl | hspec
    · obtain ⟨name, hname, hget, -⟩ := register_cases hreg
      obtain ⟨ns, hgrows⟩ := r'.grows_registerAll validators specs
      exact ⟨name, hgrows.mem_names (mem_names_of_get? hget), hname⟩
    · exact ih h spec hspec

/-! ### A first load -/

theorem load_of_not_loaded {r : Registry} (hl : r.loaded = false) (validators : Validators) :
    r.load validators = (r.registerAll validators r.definitions).andThen fun r =>
      .done { r.linkAll with loaded := true } := by
  rw [load, if_neg (by rw [hl]; decide)]

/-- A first load whose definitions are all registered returns, and this is what it makes of
the registry. -/
theorem load_of_registerAll {r : Registry} {validators : Validators} (hl : r.loaded = false)
    (h : (r.registerAll validators r.definitions).outcome = .ok ()) :
    r.load validators =
      .done { (r.registerAll validators r.definitions).state.linkAll with loaded := true } := by
  rw [load_of_not_loaded hl]
  unfold Attempt.andThen
  rw [h]

/-- A first load that fails has got as far as its definitions have. -/
theorem load_of_fails {r : Registry} {validators : Validators} (hl : r.loaded = false)
    (h : (r.load validators).outcome ≠ .ok ()) :
    r.load validators = r.registerAll validators r.definitions := by
  rw [load_of_not_loaded hl] at h ⊢
  rcases hall : r.registerAll validators r.definitions with ⟨s, e | u⟩
  · rfl
  · rw [hall] at h
    exact absurd rfl h

/-- The definitions of a first load that returns are all registered. -/
theorem registerAll_of_load {r : Registry} {validators : Validators} (hl : r.loaded = false)
    (h : (r.load validators).outcome = .ok ()) :
    (r.registerAll validators r.definitions).outcome = .ok () := by
  rw [load_of_not_loaded hl] at h
  rcases hall : r.registerAll validators r.definitions with ⟨s, e | u⟩
  · rw [hall] at h
    cases h
  · rfl

end Registry
end ReportFilter
