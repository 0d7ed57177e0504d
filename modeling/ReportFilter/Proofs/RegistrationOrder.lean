/-
# The order of registration

Specs are registered before the load, as definitions, or after it, in some order, and
some of them are refused. A registry holds the specs of which operators could be made
(`Registry.HoldsSpecs`): every registration adds its spec to them, and links do not
matter. Under distinct names the specs tell the operators, and in a loaded registry
their links as well (`Registry.get?_eq_of_holdsSpecs`). So neither the order nor the
split into the three parts can be seen in the end.

Key definitions: `Registry.HoldsSpecs`, `Registry.Plan`, `Registry.HaveDistinctNames`.
Key theorems: `Registry.HoldsSpecs.register`, `Registry.holdsSpecs_plan`,
`Registry.get?_eq_of_holdsSpecs`, `Registry.links_delegates`.
-/
import ReportFilter.Proofs.Delegates

namespace ReportFilter
namespace Registry

/-! ### What a registry holds -/

/-- **The registry holds the specs** that could be registered, and nothing else: each
operator is one of theirs, as it was made or linked since. -/
structure HoldsSpecs (r : Registry) (validators : Validators) (specs : List Operator.Spec) :
    Prop where
  made : ∀ name op, r.get? name = some op → ∃ spec ∈ specs, ∃ first : Operator,
    spec.name.plain = .ok name ∧ Operator.ofSpec validators name spec = .ok first ∧
      first.IsLater op
  kept : ∀ spec ∈ specs, ∀ name first, spec.name.plain = .ok name →
    Operator.ofSpec validators name spec = .ok first → name ∈ r.names

theorem HoldsSpecs.grows {r r' : Registry} {validators : Validators}
    {specs : List Operator.Spec} (h : r.HoldsSpecs validators specs) (hg : r.Grows [] r') :
    r'.HoldsSpecs validators specs := by
  have hnames : r'.names = r.names := hg.names_eq
  refine ⟨fun name op hget => ?_, fun spec hspec name first hname hfirst => ?_⟩
  · have hmem : name ∈ r.names := hnames ▸ mem_names_of_get? hget
    obtain ⟨before, hbefore⟩ := mem_names_iff.mp hmem
    obtain ⟨later, hlater, hop⟩ := hg.operators name before hbefore
    cases hget.symm.trans hlater
    obtain ⟨spec, hspec, first, hname, hfirst, his⟩ := h.made name before hbefore
    exact ⟨spec, hspec, first, hname, hfirst, his.trans hop⟩
  · rw [hnames]
    exact h.kept spec hspec name first hname hfirst

theorem HoldsSpecs.push {r : Registry} {validators : Validators} {specs : List Operator.Spec}
    (h : r.HoldsSpecs validators specs) {spec : Operator.Spec} {name : String}
    {made : Operator} (hget : r.get? name = none) (hname : spec.name.plain = .ok name)
    (hmade : Operator.ofSpec validators name spec = .ok made) :
    (r.push name made).HoldsSpecs validators (specs ++ [spec]) := by
  refine ⟨fun other op hother => ?_, fun s hs other first hn hfirst => ?_⟩
  · rcases hr : r.get? other with _ | there
    · have hmem := mem_names_of_get? hother
      rw [names_push] at hmem
      have heq : other = name := by
        rcases List.mem_append.mp hmem with hm | hm
        · exact absurd hm (get?_eq_none_iff.mp hr)
        · exact List.mem_singleton.mp hm
      subst heq
      rw [get?_push_self hget made] at hother
      cases hother
      exact ⟨spec, by simp, made, hname, hmade, .refl made⟩
    · rw [get?_push_of_some hr name made] at hother
      cases hother
      obtain ⟨s, hs, hrest⟩ := h.made other op hr
      exact ⟨s, List.mem_append_left _ hs, hrest⟩
  · rw [names_push]
    rcases List.mem_append.mp hs with hs | hs
    · exact List.mem_append_left _ (h.kept s hs other first hn hfirst)
    · rw [List.mem_singleton.mp hs] at hn
      cases hname.symm.trans hn
      simp

/-- **Registering one more spec**, whether that fails or not. -/
theorem HoldsSpecs.register {r : Registry} {validators : Validators}
    {specs : List Operator.Spec} (h : r.HoldsSpecs validators specs) (spec : Operator.Spec) :
    (r.call (.register validators spec)).state.HoldsSpecs validators (specs ++ [spec]) := by
  -- without a new operator, the name of the spec is taken or it has none
  have hsame : (∀ name first, spec.name.plain = .ok name →
      Operator.ofSpec validators name spec = .ok first → name ∈ r.names) →
        r.HoldsSpecs validators (specs ++ [spec]) := by
    intro hspec
    refine ⟨fun name op hget => ?_, fun s hs name first hname hfirst => ?_⟩
    · obtain ⟨s, hs, hrest⟩ := h.made name op hget
      exact ⟨s, List.mem_append_left _ hs, hrest⟩
    · rcases List.mem_append.mp hs with hs | hs
      · exact h.kept s hs name first hname hfirst
      · rw [List.mem_singleton.mp hs] at hname hfirst
        exact hspec name first hname hfirst
  rcases hreg : r.register validators spec with e | ⟨op, r'⟩
  · rw [call, hreg]
    refine hsame fun name first hname hfirst => ?_
    obtain ⟨op, r', hok⟩ := exists_register (r := r) hname hfirst
    rw [hreg] at hok
    cases hok
  · rw [call, hreg]
    obtain ⟨name, hname, -, hcases⟩ := register_cases hreg
    show r'.HoldsSpecs validators (specs ++ [spec])
    rcases hcases with ⟨hget, rfl⟩ | ⟨hget, made, hmade, rfl⟩
    · refine hsame fun other first hother _ => ?_
      cases hname.symm.trans hother
      exact mem_names_of_get? hget
    · have hpush := h.push hget hname hmade
      unfold insert
      split
      · exact hpush.grows (grows_linkAll _)
      · exact hpush

theorem HoldsSpecs.registerCalls {validators : Validators} :
    ∀ (specs : List Operator.Spec) {r : Registry} {earlier : List Operator.Spec},
      r.HoldsSpecs validators earlier →
        (r.afterCalls (registerCalls validators specs)).HoldsSpecs validators (earlier ++ specs)
  | [], r, earlier, h => by
    rw [List.append_nil]
    exact h
  | spec :: specs, r, earlier, h => by
    have hrest := registerCalls specs (h.register spec)
    rw [List.append_assoc] at hrest
    exact hrest

/-! ### Plans -/

/-- Specs in the order in which they are registered: before the load, as definitions, and
after it. -/
structure Plan where
  before : List Operator.Spec
  definitions : List Operator.Spec
  after : List Operator.Spec
  deriving DecidableEq, Repr

namespace Plan

/-- All specs in their order. -/
def specs (p : Plan) : List Operator.Spec := p.before ++ p.definitions ++ p.after

/-- Specs registered one by one. -/
def registering (validators : Validators) (specs : List Operator.Spec) : List Step :=
  (registerCalls validators specs).map .call

/-- The registry before its load. -/
def prepared (p : Plan) (validators : Validators) : Registry :=
  (ofDefinitions p.definitions).after (registering validators p.before)

/-- The load does not fail. -/
def Loads (p : Plan) (validators : Validators) : Prop :=
  ((p.prepared validators).load validators).outcome = .ok ()

/-- The history that a plan asks for. -/
def steps (p : Plan) (validators : Validators) : List Step :=
  registering validators p.before ++ .load validators :: registering validators p.after

/-- The registry at the end. -/
def registry (p : Plan) (validators : Validators) : Registry :=
  (ofDefinitions p.definitions).after (p.steps validators)

end Plan

/-- No two specs give the same name; a spec whose name has no text gives none. -/
def HaveDistinctNames (specs : List Operator.Spec) : Prop :=
  (specs.filterMap fun s => s.name.plain.toOption).Nodup

instance (specs : List Operator.Spec) : Decidable (HaveDistinctNames specs) := by
  unfold HaveDistinctNames
  infer_instance

theorem HaveDistinctNames.spec_eq {specs : List Operator.Spec} (h : HaveDistinctNames specs)
    {a b : Operator.Spec} (ha : a ∈ specs) (hb : b ∈ specs) {name : String}
    (hna : a.name.plain = .ok name) (hnb : b.name.plain = .ok name) : a = b := by
  induction specs with
  | nil => cases ha
  | cons s specs ih =>
    have hrest : HaveDistinctNames specs := List.Nodup.sublist
      ((List.sublist_cons_self s specs).filterMap fun s => s.name.plain.toOption) h
    -- the first spec does not share its name with one behind it
    have hfirst : ∀ t ∈ specs, s.name.plain = .ok name → t.name.plain ≠ .ok name := by
      intro t ht hs hn
      have hmem : name ∈ specs.filterMap fun s => s.name.plain.toOption :=
        List.mem_filterMap.mpr ⟨t, ht, by rw [hn]; rfl⟩
      rw [HaveDistinctNames, List.filterMap_cons, hs] at h
      exact (List.nodup_cons.mp h).1 hmem
    rcases List.mem_cons.mp ha with rfl | hsa
    · rcases List.mem_cons.mp hb with rfl | hsb
      · rfl
      · exact absurd hnb (hfirst b hsb hna)
    · rcases List.mem_cons.mp hb with rfl | hsb
      · exact absurd hna (hfirst a hsa hnb)
      · exact ih hrest hsa hsb

theorem after_registering (validators : Validators) : ∀ (specs : List Operator.Spec)
    (r : Registry), r.after (Plan.registering validators specs) =
      r.afterCalls (registerCalls validators specs)
  | [], _ => rfl
  | _ :: specs, _ => after_registering validators specs _

/-- A plan's registry is made in three parts. -/
theorem Plan.registry_eq (p : Plan) (validators : Validators) :
    p.registry validators = ((p.prepared validators).step (.load validators)).state.after
      (registering validators p.after) := by
  rw [registry, steps, after_append]
  rfl

/-- **A plan's registry holds its specs**, if its load does not fail. -/
theorem holdsSpecs_plan {p : Plan} {validators : Validators} (h : p.Loads validators) :
    (p.registry validators).HoldsSpecs validators p.specs := by
  have hprepared : p.prepared validators =
      (ofDefinitions p.definitions).afterCalls (registerCalls validators p.before) :=
    after_registering validators p.before _
  have hchanges : (ofDefinitions p.definitions).ChangesOperators (p.prepared validators) := by
    rw [hprepared]
    exact changesOperators_afterCalls _ _
  have hdefinitions : (p.prepared validators).definitions = p.definitions := hchanges.definitions
  have hok := registerAll_of_load hchanges.loaded h
  have hload := load_of_registerAll hchanges.loaded hok
  rw [hdefinitions] at hok hload
  have hempty : (ofDefinitions p.definitions).HoldsSpecs validators [] :=
    ⟨fun name op hget => (by cases hget), fun spec hspec => (by cases hspec)⟩
  have hbefore : (p.prepared validators).HoldsSpecs validators p.before := by
    rw [hprepared]
    exact hempty.registerCalls p.before
  have hdone : ((p.prepared validators).load validators).state.HoldsSpecs validators
      (p.before ++ p.definitions) := by
    rw [hload, registerAll_of_ok p.definitions hok]
    have hgrown := (hbefore.registerCalls p.definitions).grows (grows_linkAll _)
    exact ⟨hgrown.made, hgrown.kept⟩
  rw [p.registry_eq, after_registering]
  exact hdone.registerCalls p.after

/-! ### The order does not matter -/

/-- **The specs tell the operators** of a loaded registry, with their links. -/
theorem get?_eq_of_holdsSpecs {r r' : Registry} {validators : Validators}
    {specs specs' : List Operator.Spec} (hspecs : specs.Perm specs')
    (hdistinct : HaveDistinctNames specs) (h : r.HoldsSpecs validators specs)
    (h' : r'.HoldsSpecs validators specs') (hlinks : r.LinksByName) (hlinks' : r'.LinksByName)
    (hl : r.loaded = true) (hl' : r'.loaded = true) (name : String) :
    r.get? name = r'.get? name := by
  have hnames : ∀ n, n ∈ r.names ↔ n ∈ r'.names := by
    intro n
    constructor
    · intro hn
      obtain ⟨op, hget⟩ := mem_names_iff.mp hn
      obtain ⟨spec, hspec, first, hname, hfirst, -⟩ := h.made n op hget
      exact h'.kept spec (hspecs.mem_iff.mp hspec) n first hname hfirst
    · intro hn
      obtain ⟨op, hget⟩ := mem_names_iff.mp hn
      obtain ⟨spec, hspec, first, hname, hfirst, -⟩ := h'.made n op hget
      exact h.kept spec (hspecs.mem_iff.mpr hspec) n first hname hfirst
  by_cases hmem : name ∈ r.names
  · obtain ⟨op, hop⟩ := mem_names_iff.mp hmem
    obtain ⟨op', hop'⟩ := mem_names_iff.mp ((hnames name).mp hmem)
    obtain ⟨spec, hspec, first, hname, hfirst, hlater⟩ := h.made name op hop
    obtain ⟨spec', hspec', first', hname', hfirst', hlater'⟩ := h'.made name op' hop'
    obtain rfl : spec = spec' := hdistinct.spec_eq hspec (hspecs.mem_iff.mpr hspec') hname hname'
    cases hfirst.symm.trans hfirst'
    have hdelegate : op.delegate = op'.delegate := by
      have hn : op.delegateName = op'.delegateName := by
        rw [hlater.same, hlater'.same]
      refine Option.ext fun target => ?_
      rw [hlinks.delegate_iff hl (mem_operators_of_get? hop),
        hlinks'.delegate_iff hl' (mem_operators_of_get? hop'), hn, hnames]
    rw [hop, hop', hlater.same, hlater'.same, hdelegate]
  · rw [get?_eq_none_iff.mpr hmem, get?_eq_none_iff.mpr fun hn => hmem ((hnames name).mpr hn)]

theorem find_congr {r r' : Registry} (h : ∀ name, r.get? name = r'.get? name) (v : Value) :
    r.find v = r'.find v := by
  simp only [find, h]

theorem links_of_mem_steps {p : Plan} {validators : Validators} :
    ∀ s ∈ p.steps validators, s.links = false := by
  intro s hs
  simp only [Plan.steps, Plan.registering, registerCalls, List.map_map, List.mem_append,
    List.mem_map, List.mem_cons] at hs
  rcases hs with ⟨spec, -, rfl⟩ | rfl | ⟨spec, -, rfl⟩ <;> rfl

/-- A plan whose load does not fail ends with a loaded registry, linked by name. -/
theorem linksByName_plan {p : Plan} {validators : Validators} (h : p.Loads validators) :
    (p.registry validators).LinksByName ∧ (p.registry validators).loaded = true := by
  refine ⟨linksByName_after _ (linksByName_ofDefinitions p.definitions) links_of_mem_steps, ?_⟩
  rw [p.registry_eq]
  exact loaded_after _ (loaded_of_load rfl h)

/-- **Delegates are linked completely, and in any order.** Once a load has returned, every
operator delegates to the one that is found by the name that it gives, or is not ready when
there is none, whatever else is done, as long as nobody links by hand. Two plans for the
same specs under distinct names end with the same operators under the same names. -/
theorem links_delegates :
    (∀ (definitions : List Operator.Spec) (earlier later : List Step) (load : Step),
      load.isLoad = true → (∀ s ∈ earlier ++ load :: later, s.links = false) →
        let r := (ofDefinitions definitions).after earlier
        (r.step load).outcome = .ok () → ((r.step load).state.after later).ResolvesDelegates) ∧
    ∀ (validators : Validators) (p q : Plan), p.specs.Perm q.specs →
      HaveDistinctNames p.specs → p.Loads validators → q.Loads validators →
        (∀ v : Value, (p.registry validators).find v = (q.registry validators).find v) ∧
          ∀ (op : Operator) (x : Except Failure Operator),
            (p.registry validators).Delegates op x ↔ (q.registry validators).Delegates op x := by
  constructor
  · intro definitions earlier later load hload hlinks r hok
    have hend : (r.step load).state.after later =
        (ofDefinitions definitions).after (earlier ++ load :: later) := by
      rw [after_append]
      rfl
    have hlinked := linksByName_after _ (linksByName_ofDefinitions definitions) hlinks
    have htable := isTableOf_after definitions (earlier ++ load :: later)
    rw [← hend] at hlinked htable
    exact resolvesDelegates_of_loaded hlinked htable.keys
      (loaded_after later (loaded_of_load hload hok))
  · intro validators p q hspecs hdistinct hp hq
    obtain ⟨hlinks, hl⟩ := linksByName_plan hp
    obtain ⟨hlinks', hl'⟩ := linksByName_plan hq
    have hget := get?_eq_of_holdsSpecs hspecs hdistinct (holdsSpecs_plan hp) (holdsSpecs_plan hq)
      hlinks hlinks' hl hl'
    exact ⟨find_congr hget, fun op x => ⟨fun h => h.congr hget, fun h => h.congr fun name =>
      (hget name).symm⟩⟩

/-- A target behind the load, a name that is a number, an operator that is its own target,
one whose target never comes, and a spec that is refused. -/
theorem links_delegates_scattered :
    let later : Operator.Spec := { name := .text "later", delegateName := some "7" }
    let seven : Operator.Spec := { name := .int 7, delegateName := some "target" }
    let itself : Operator.Spec := { name := .text "self", delegateName := some "self" }
    let lost : Operator.Spec := { name := .text "lost", delegateName := some "refused" }
    let refused : Operator.Spec := { name := .text "refused", validators := ["missing"] }
    let target : Operator.Spec := { name := .text "target" }
    let p : Plan := ⟨[later], [itself, seven], [lost, refused, target]⟩
    let q : Plan := ⟨[refused, target], [lost], [seven, itself, later]⟩
    (p.specs.Perm q.specs ∧ HaveDistinctNames p.specs ∧ p.Loads .initial ∧ q.Loads .initial ∧
      (p.registry .initial).find (.int 7) = (q.registry .initial).find (.int 7)) ∧
    (∀ s ∈ p.steps .initial, s.links = false) ∧ (p.registry .initial).ResolvesDelegates := by
  intro later seven itself lost refused target p q
  have hspecs : p.specs.Perm q.specs := by decide +kernel
  have hdistinct : HaveDistinctNames p.specs := by decide +kernel
  have hp : p.Loads .initial := Attempt.failure?_eq_none_iff.mp (by decide +kernel)
  have hq : q.Loads .initial := Attempt.failure?_eq_none_iff.mp (by decide +kernel)
  refine ⟨⟨hspecs, hdistinct, hp, hq, ?_⟩, links_of_mem_steps, ?_⟩
  · exact (links_delegates.2 .initial p q hspecs hdistinct hp hq).1 (.int 7)
  · rw [p.registry_eq]
    exact links_delegates.1 p.definitions (Plan.registering .initial p.before)
      (Plan.registering .initial p.after) (.load .initial) rfl links_of_mem_steps hp

end Registry
end ReportFilter
