/-
# Preparations of an engine

Before filters are built, validators and operators are declared to the engine, and its
registry is loaded: by its own definitions, or by others, which declare validators and
operators themselves. Each of these may fail, and the preparation goes on.

The table of validators follows the declarations alone: under a name stands the validator
that was declared last (`Validators.Replaces`). A validator that an operator names has to be
there when the operator is made, and validators are replaced but never removed, so the
operators of the registry stay supplied (`Registry.SuppliedBy`).

Key definitions: `Declaration`, `Preparation`, `Engine.prepared`, `Engine.declared`,
`Validators.Replaces`, `Registry.SuppliedBy`.
Key theorems: `Operator.ofSpec_eq_ok_iff`, `Engine.prepares_prepare`,
`Engine.prepares_prepared`.
-/
import ReportFilter.Proofs.Loads

namespace ReportFilter

/-! ### What is declared -/

/-- A validator under a name, or an operator. -/
inductive Declaration where
  | validator (name : String) (validator : Validator)
  | operator (spec : Operator.Spec)

/-- The validator that a declaration declares, under its name. -/
def Declaration.validator? : Declaration → Option (String × Validator)
  | .validator name v => some (name, v)
  | .operator _ => none

/-- A step of a preparation. -/
inductive Preparation where
  | declare (d : Declaration)
  /-- The registry's own definitions. -/
  | load
  /-- Any definitions: what they declare, and whether they return. -/
  | loadBy (declarations : List Declaration) (outcome : Except Failure Unit)

namespace Engine

/-- The engine with what becomes of its registry. -/
def withRegistry (e : Engine) (a : Attempt Registry) : Attempt Engine :=
  a.map fun r => { e with registry := r }

/-- A declaration made. -/
def declare (e : Engine) : Declaration → Attempt Engine
  | .validator name validator =>
    .done { e with validators := e.validators.register name validator }
  | .operator spec => e.withRegistry (e.registry.call (.register e.validators spec))

/-- The engine after several declarations, of which some may fail. -/
def afterDeclarations (e : Engine) : List Declaration → Engine
  | [] => e
  | d :: ds => (e.declare d).state.afterDeclarations ds

/-- The end of a load. -/
def finishLoad (e : Engine) : Engine :=
  { e with registry := { e.registry.linkAll with loaded := true } }

/-- A step of a preparation made. -/
def prepare (e : Engine) : Preparation → Attempt Engine
  | .declare d => e.declare d
  | .load => e.withRegistry (e.registry.load e.validators)
  | .loadBy declarations outcome =>
    if e.registry.loaded then .done e
    else Attempt.andThen ⟨e.afterDeclarations declarations, outcome⟩ fun e => .done e.finishLoad

/-- The engine after a preparation. -/
def prepared (e : Engine) : List Preparation → Engine
  | [] => e
  | p :: ps => (e.prepare p).state.prepared ps

/-- The validators that a step declares. -/
def declaredBy (e : Engine) : Preparation → List (String × Validator)
  | .declare d => d.validator?.toList
  | .load => []
  | .loadBy declarations _ =>
    if e.registry.loaded then [] else declarations.filterMap Declaration.validator?

/-- The validators that a preparation declares, in order. -/
def declared (e : Engine) : List Preparation → List (String × Validator)
  | [] => []
  | p :: ps => e.declaredBy p ++ (e.prepare p).state.declared ps

end Engine

/-! ### The table of validators -/

namespace Validators

/-- There is a validator of the name. -/
def Has (t : Validators) (name : String) : Prop := ∃ v, t.get name = .ok v

theorem get_eq_ok_iff {t : Validators} {name : String} {v : Validator} :
    t.get name = .ok v ↔ t.entries.lookup name = some v := by
  unfold get
  cases t.entries.lookup name <;> simp

theorem has_iff {t : Validators} {name : String} : t.Has name ↔ name ∈ t.entries.map (·.1) := by
  have hne : (∀ e ∈ t.entries, (name != e.1) = true) ↔ name ∉ t.entries.map (·.1) := by
    simp only [List.mem_map, bne_iff_ne, ne_eq]
    grind
  simp only [Has, get_eq_ok_iff]
  rw [← Option.ne_none_iff_exists', ne_eq, List.lookup_eq_none_iff, hne, Decidable.not_not]

/-- **The declared validators take their places in the table**: the last one of a name
counts, and names without a new one keep theirs. -/
def Replaces (t : Validators) (declared : List (String × Validator)) (t' : Validators) : Prop :=
  ∀ name, t'.entries.lookup name = (declared.reverse ++ t.entries).lookup name

variable {t t' t'' : Validators} {vs ws : List (String × Validator)}

theorem Replaces.refl (t : Validators) : t.Replaces [] t := fun _ => rfl

theorem Replaces.trans (h : t.Replaces vs t') (h' : t'.Replaces ws t'') :
    t.Replaces (vs ++ ws) t'' := by
  intro name
  calc t''.entries.lookup name
      = (ws.reverse ++ t'.entries).lookup name := h' name
    _ = (ws.reverse ++ (vs.reverse ++ t.entries)).lookup name := by
        rw [List.lookup_append, h name, ← List.lookup_append]
    _ = ((vs ++ ws).reverse ++ t.entries).lookup name := by
        rw [List.reverse_append, List.append_assoc]

theorem replaces_register (t : Validators) (name : String) (v : Validator) :
    t.Replaces [(name, v)] (t.register name v) := by
  intro other
  rw [register, lookup_replace]
  by_cases h : other = name
  · subst h
    rw [if_pos rfl]
    exact List.lookup_cons_self.symm
  · rw [if_neg h]
    have hne : (other == name) = false := beq_false_of_ne h
    simp only [List.reverse_cons, List.reverse_nil, List.nil_append, List.cons_append,
      List.lookup_cons, hne]

/-- No name is lost. -/
theorem Replaces.has (h : t.Replaces vs t') {name : String} (hn : t.Has name) : t'.Has name := by
  obtain ⟨v, hv⟩ := hn
  have hlookup := h name
  rw [List.lookup_append, get_eq_ok_iff.mp hv] at hlookup
  rcases hd : vs.reverse.lookup name with _ | w
  · exact ⟨v, get_eq_ok_iff.mpr (by rw [hlookup, hd]; rfl)⟩
  · exact ⟨w, get_eq_ok_iff.mpr (by rw [hlookup, hd]; rfl)⟩

end Validators

/-! ### What an operator asks for -/

namespace Operator

theorem forM_eq_ok_iff {α : Type} {f : α → Except Failure Unit} : ∀ {xs : List α},
    xs.forM f = .ok () ↔ ∀ x ∈ xs, f x = .ok ()
  | [] => by simp [List.forM, pure, Except.pure]
  | x :: xs => by
    have ih : xs.forM f = .ok () ↔ ∀ x ∈ xs, f x = .ok () := forM_eq_ok_iff
    have hcons : (x :: xs).forM f = f x >>= fun _ => xs.forM f := rfl
    rw [hcons, List.forall_mem_cons, ← ih]
    rcases f x with e | u
    · simp [bind, Except.bind]
    · simp [bind, Except.bind]

/-- **An operator is made if and only if its options are known and its validators are
there**, and then it does not depend on what the validators are. -/
theorem ofSpec_eq_ok_iff {t : Validators} {name : String} {spec : Spec} {op : Operator} :
    ofSpec t name spec = .ok op ↔
      spec.unknownOptions = [] ∧ (∀ v ∈ spec.validators, t.Has v) ∧ spec.made name = op := by
  have hfound : (spec.validators.forM fun v => do let _ ← t.get v) = .ok () ↔
      ∀ v ∈ spec.validators, t.Has v := by
    rw [forM_eq_ok_iff]
    refine forall₂_congr fun v _ => ?_
    unfold Validators.Has
    rcases t.get v with e | w <;> simp [bind, Except.bind, pure, Except.pure]
  rw [← hfound]
  simp only [ofSpec]
  split
  · rename_i hoptions
    exact ⟨fun h => (by cases h), fun h => absurd h.1 hoptions⟩
  · rename_i hoptions
    rcases hforM : spec.validators.forM fun v => do let _ ← t.get v with e | u
    · rw [hforM]
      exact ⟨fun h => (by cases h), fun h => (by cases h.2.1)⟩
    · rw [hforM]
      refine ⟨fun h => ⟨Decidable.not_not.mp hoptions, rfl, ?_⟩, fun h => ?_⟩
      · cases h
        rfl
      · rw [← h.2.2]
        rfl

end Operator

/-! ### Operators are supplied -/

namespace Registry

variable {r : Registry} {t t' : Validators}

/-- Every validator that an operator names is in the table. -/
def SuppliedBy (r : Registry) (t : Validators) : Prop :=
  ∀ op ∈ r.operators, ∀ name ∈ op.validators, t.Has name

theorem SuppliedBy.replaces (h : r.SuppliedBy t) {vs : List (String × Validator)}
    (ht : t.Replaces vs t') : r.SuppliedBy t' :=
  fun op hop name hname => ht.has (h op hop name hname)

theorem SuppliedBy.linkAll (h : r.SuppliedBy t) : r.linkAll.SuppliedBy t := by
  intro op hop name hname
  obtain ⟨first, hfirst, rfl⟩ := mem_operators_linkAll hop
  have hsame : (r.linkEntry first).validators = first.validators := by
    rw [(r.isLater_linkEntry first).same]
  rw [hsame] at hname
  exact h first hfirst name hname

theorem SuppliedBy.insert (h : r.SuppliedBy t) (name : String) {op : Operator}
    (hop : ∀ v ∈ op.validators, t.Has v) : (r.insert name op).SuppliedBy t := by
  have hpush : (r.push name op).SuppliedBy t := by
    intro other hother
    rw [operators_push] at hother
    rcases List.mem_append.mp hother with hmem | hmem
    · exact h other hmem
    · rw [List.mem_singleton.mp hmem]
      exact hop
  unfold Registry.insert
  split
  · exact hpush.linkAll
  · exact hpush

/-- An operator that is registered was made with its validators there. -/
theorem SuppliedBy.register (h : r.SuppliedBy t) {spec : Operator.Spec} {op : Operator}
    {r' : Registry} (hreg : r.register t spec = .ok (op, r')) : r'.SuppliedBy t := by
  obtain ⟨name, -, -, ⟨-, rfl⟩ | ⟨-, made, hmade, rfl⟩⟩ := register_cases hreg
  · exact h
  · obtain ⟨-, hfound, rfl⟩ := Operator.ofSpec_eq_ok_iff.mp hmade
    exact h.insert name hfound

theorem SuppliedBy.registerAll : ∀ (specs : List Operator.Spec) {r : Registry},
    r.SuppliedBy t → (r.registerAll t specs).state.SuppliedBy t
  | [], _, h => h
  | spec :: specs, r, h => by
    rcases hreg : r.register t spec with e | ⟨op, r'⟩
    · rw [Registry.registerAll, hreg]
      exact h
    · rw [Registry.registerAll, hreg]
      exact registerAll specs (h.register hreg)

theorem SuppliedBy.load (h : r.SuppliedBy t) : (r.load t).state.SuppliedBy t := by
  by_cases hl : r.loaded = true
  · rw [load_of_loaded t hl]
    exact h
  · rw [load_of_not_loaded (eq_false_of_ne_true hl)]
    exact Attempt.state_andThen (P := (SuppliedBy · t)) (h.registerAll r.definitions)
      fun _ hs => hs.linkAll

end Registry

namespace Engine

/-- **A part of a preparation.** The declared validators take their places, and the
operators stay supplied. -/
structure Prepares (e : Engine) (declared : List (String × Validator)) (e' : Engine) : Prop where
  replaces : e.validators.Replaces declared e'.validators
  supplied : e.registry.SuppliedBy e.validators → e'.registry.SuppliedBy e'.validators

theorem Prepares.refl (e : Engine) : e.Prepares [] e := ⟨.refl _, id⟩

theorem Prepares.trans {e e' e'' : Engine} {vs ws : List (String × Validator)}
    (h : e.Prepares vs e') (h' : e'.Prepares ws e'') : e.Prepares (vs ++ ws) e'' :=
  ⟨h.replaces.trans h'.replaces, fun hs => h'.supplied (h.supplied hs)⟩

theorem prepares_declare (e : Engine) (d : Declaration) :
    e.Prepares d.validator?.toList (e.declare d).state := by
  cases d with
  | validator name v =>
    have hreplaces := Validators.replaces_register e.validators name v
    exact ⟨hreplaces, fun hs => hs.replaces hreplaces⟩
  | operator spec =>
    exact ⟨.refl _, fun hs =>
      Registry.state_call_register (P := (Registry.SuppliedBy · e.validators)) hs
        fun _ _ hreg => hs.register hreg⟩

theorem prepares_afterDeclarations : ∀ (ds : List Declaration) (e : Engine),
    e.Prepares (ds.filterMap Declaration.validator?) (e.afterDeclarations ds)
  | [], e => .refl e
  | d :: ds, e => by
    have hrest := (e.prepares_declare d).trans (prepares_afterDeclarations ds _)
    cases d <;> exact hrest

/-- **A step prepares the engine** by the validators that it declares. -/
theorem prepares_prepare (e : Engine) (p : Preparation) :
    e.Prepares (e.declaredBy p) (e.prepare p).state := by
  cases p with
  | declare d => exact e.prepares_declare d
  | load => exact ⟨.refl _, fun hs => hs.load⟩
  | loadBy declarations outcome =>
    rw [prepare, declaredBy]
    by_cases hl : e.registry.loaded = true
    · rw [if_pos hl, if_pos hl]
      exact .refl e
    · rw [if_neg hl, if_neg hl]
      refine Attempt.state_andThen (P := e.Prepares _) (prepares_afterDeclarations declarations e)
        fun s hs => ?_
      exact ⟨hs.replaces, fun hsupplied => (hs.supplied hsupplied).linkAll⟩

/-- **So does a preparation.** -/
theorem prepares_prepared : ∀ (ps : List Preparation) (e : Engine),
    e.Prepares (e.declared ps) (e.prepared ps)
  | [], e => .refl e
  | p :: ps, e => (e.prepares_prepare p).trans (prepares_prepared ps _)

end Engine
end ReportFilter
