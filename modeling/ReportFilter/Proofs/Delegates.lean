/-
# Delegates

An operator that delegates gives the name of its target, and the target may be
registered later, by other hands, or never. Where nobody links operators by hand, a
link goes from an operator to the name that it gives, and that name is registered
(`Registry.LinksByName`). Once the registry is loaded no such link is missing: the
load has linked what was there, and every registration links what it completes.

So in a loaded registry every operator delegates to the one that is found by the name
that it gives (`Registry.resolvesDelegates_of_loaded`).

Key definitions: `Registry.LinksByName`, `Registry.Delegates`,
`Registry.ResolvesDelegates`.
Key theorems: `Registry.linksByName_call`, `Registry.linksByName_step`,
`Registry.linksByName_after`, `Registry.resolvesDelegates_of_loaded`.
-/
import ReportFilter.Proofs.Loads

namespace ReportFilter
namespace Registry

/-! ### Links by name -/

/-- Whether a call links an operator by hand. -/
def Call.links : Call → Bool
  | .link .. | .linkTo .. => true
  | .register .. | .find _ | .operatorFor _ => false

/-- Whether a step links an operator by hand. -/
def Step.links : Step → Bool
  | .call c => c.links
  | .load _ => false
  | .loadBy calls _ => calls.any Call.links

/-- Every link goes to the name that the operator gives, which is registered. -/
def LinkedByName (r : Registry) : Prop :=
  ∀ op ∈ r.operators, ∀ target, op.delegate = some target →
    op.delegateName = some target ∧ target ∈ r.names

/-- Every operator that gives a registered name is linked to it. -/
def LinksAll (r : Registry) : Prop :=
  ∀ op ∈ r.operators, ∀ target ∈ r.names, op.delegateName = some target →
    op.delegate = some target

/-- **Operators are linked by name**, and in a loaded registry no link is missing. -/
structure LinksByName (r : Registry) : Prop where
  linked : r.LinkedByName
  complete : r.loaded = true → r.LinksAll

/-- An operator of a registered target is linked to it, if it is not linked yet, and
all others stay. -/
theorem delegate_linkEntry (r : Registry) (op : Operator) :
    (∃ target ∈ r.names, op.delegateName = some target ∧
        (r.linkEntry op).delegate = some (op.delegate.getD target)) ∨
      (∀ target ∈ r.names, op.delegateName ≠ some target) ∧ r.linkEntry op = op := by
  unfold linkEntry
  split
  · rename_i hname
    exact .inr ⟨fun target _ h => (by rw [hname] at h; cases h), rfl⟩
  · rename_i target hname
    by_cases hget : (r.get? target).isSome = true
    · refine .inl ⟨target, mem_names_iff.mpr (Option.isSome_iff_exists.mp hget), hname, ?_⟩
      rw [if_pos hget, Operator.link]
      rcases hd : op.delegate with _ | first
      · rfl
      · exact hd
    · refine .inr ⟨fun other hother h => hget ?_, if_neg hget⟩
      cases hname.symm.trans h
      exact Option.isSome_iff_exists.mpr (mem_names_iff.mp hother)

theorem linkedByName_linkAll {r : Registry} (h : r.LinkedByName) : r.linkAll.LinkedByName := by
  intro op hop target hd
  obtain ⟨first, hfirst, rfl⟩ := mem_operators_linkAll hop
  have hname : (r.linkEntry first).delegateName = first.delegateName := by
    rw [(r.isLater_linkEntry first).same]
  rw [names_linkAll, hname]
  rcases r.delegate_linkEntry first with ⟨t, ht, hn, hlink⟩ | ⟨-, hsame⟩
  · rcases hfd : first.delegate with _ | t'
    · rw [hlink, hfd] at hd
      cases hd
      exact ⟨hn, ht⟩
    · rw [hlink, hfd] at hd
      cases hd
      exact h first hfirst t' hfd
  · rw [hsame] at hd
    exact h first hfirst target hd

/-- Behind a pass over all operators, none whose target is registered is unlinked. -/
theorem exists_delegate_linkAll {r : Registry} {op : Operator} (hop : op ∈ r.linkAll.operators)
    {target : String} (ht : target ∈ r.names) (hn : op.delegateName = some target) :
    ∃ t, op.delegate = some t := by
  obtain ⟨first, -, rfl⟩ := mem_operators_linkAll hop
  rcases r.delegate_linkEntry first with ⟨t, -, -, hlink⟩ | ⟨hnone, hsame⟩
  · exact ⟨_, hlink⟩
  · rw [hsame] at hn
    exact absurd hn (hnone target ht)

theorem linksAll_linkAll {r : Registry} (h : r.LinkedByName) : r.linkAll.LinksAll := by
  intro op hop target ht hn
  rw [names_linkAll] at ht
  obtain ⟨t, hd⟩ := exists_delegate_linkAll hop ht hn
  have hname := (linkedByName_linkAll h op hop t hd).1
  rw [hd, ← hname, hn]

/-! ### Every call keeps the links -/

theorem linkedByName_push {r : Registry} (h : r.LinkedByName) {name : String} {op : Operator}
    (hop : op.delegate = none) : (r.push name op).LinkedByName := by
  intro other hother target hd
  rw [operators_push] at hother
  rcases List.mem_append.mp hother with hmem | hmem
  · obtain ⟨hn, ht⟩ := h other hmem target hd
    rw [names_push]
    exact ⟨hn, List.mem_append_left _ ht⟩
  · rw [List.mem_singleton.mp hmem, hop] at hd
    cases hd

theorem linksByName_insert {r : Registry} (h : r.LinksByName) {name : String} {op : Operator}
    (hop : op.delegate = none) : (r.insert name op).LinksByName := by
  have hpush : (r.push name op).LinkedByName := linkedByName_push h.linked hop
  unfold insert
  split
  · exact ⟨linkedByName_linkAll hpush, fun _ => linksAll_linkAll hpush⟩
  · rename_i hloaded
    exact ⟨hpush, fun hl => absurd hl hloaded⟩

/-- **A call that links nothing by hand keeps the operators linked by name.** -/
theorem linksByName_call {r : Registry} (h : r.LinksByName) {c : Call} (hc : c.links = false) :
    (r.call c).state.LinksByName := by
  cases c with
  | register validators spec =>
    refine state_call_register h fun op r' hreg => ?_
    obtain ⟨name, -, -, ⟨-, rfl⟩ | ⟨-, made, hmade, rfl⟩⟩ := register_cases hreg
    · exact h
    · exact linksByName_insert h (Operator.name_ofSpec hmade).2
  | find name =>
    rw [call, state_lookup]
    exact h
  | operatorFor operator =>
    rw [call, state_lookup]
    exact h
  | link name target => cases hc
  | linkTo name target => cases hc

theorem linksByName_afterCalls : ∀ (cs : List Call) {r : Registry}, r.LinksByName →
    (∀ c ∈ cs, c.links = false) → (r.afterCalls cs).LinksByName
  | [], _, h, _ => h
  | c :: cs, _, h, hc =>
    linksByName_afterCalls cs (linksByName_call h (hc c List.mem_cons_self)) fun d hd =>
      hc d (List.mem_cons_of_mem c hd)

theorem links_of_mem_definitionCalls {validators : Validators} :
    ∀ (specs : List Operator.Spec) (r : Registry), ∀ c ∈ definitionCalls validators specs r,
      c.links = false
  | [], _, c, hc => by cases hc
  | spec :: specs, r, c, hc => by
    rw [definitionCalls] at hc
    rcases List.mem_cons.mp hc with rfl | hc
    · rfl
    · split at hc
      · exact links_of_mem_definitionCalls specs _ c hc
      · cases hc

/-- The end of a load links all operators. -/
theorem LinksByName.finish {a : Attempt Registry} (h : a.state.LinksByName) :
    (a.andThen fun r => .done { r.linkAll with loaded := true }).state.LinksByName :=
  Attempt.state_andThen h fun _ hs =>
    ⟨linkedByName_linkAll hs.linked, fun _ => linksAll_linkAll hs.linked⟩

/-- **A step that links nothing by hand keeps the operators linked by name.** -/
theorem linksByName_step {r : Registry} (h : r.LinksByName) {s : Step} (hs : s.links = false) :
    (r.step s).state.LinksByName := by
  cases s with
  | call c => exact linksByName_call h hs
  | load validators =>
    rw [step, load]
    by_cases hl : r.loaded = true
    · rw [if_pos hl]
      exact h
    · rw [if_neg hl]
      refine LinksByName.finish ?_
      rw [state_registerAll]
      exact linksByName_afterCalls _ h (links_of_mem_definitionCalls _ r)
  | loadBy calls outcome =>
    rw [step]
    by_cases hl : r.loaded = true
    · rw [if_pos hl]
      exact h
    · rw [if_neg hl]
      exact LinksByName.finish (linksByName_afterCalls calls h (by simpa [Step.links] using hs))

theorem linksByName_after : ∀ (ss : List Step) {r : Registry}, r.LinksByName →
    (∀ s ∈ ss, s.links = false) → (r.after ss).LinksByName
  | [], _, h, _ => h
  | s :: ss, _, h, hs =>
    linksByName_after ss (linksByName_step h (hs s List.mem_cons_self)) fun t ht =>
      hs t (List.mem_cons_of_mem s ht)

theorem linksByName_ofDefinitions (definitions : List Operator.Spec) :
    (ofDefinitions definitions).LinksByName :=
  ⟨fun op hop => (by cases hop), fun h => (by cases h)⟩

/-- A link of a loaded registry is to the name that the operator gives, if there is such a
name. -/
theorem LinksByName.delegate_iff {r : Registry} (h : r.LinksByName) (hl : r.loaded = true)
    {op : Operator} (hop : op ∈ r.operators) (target : String) :
    op.delegate = some target ↔ op.delegateName = some target ∧ target ∈ r.names :=
  ⟨h.linked op hop target, fun ⟨hn, ht⟩ => h.complete hl op hop target ht hn⟩

/-! ### What a loaded registry delegates to -/

/-- An operator's delegate is the operator, or there is none for the reason given. -/
structure Delegates (r : Registry) (op : Operator) (x : Except Failure Operator) : Prop where
  linked : op.linked = x.map Operator.name
  target : ∀ w : Work, w.engine.registry = r → w.target op = x

/-- **Every operator delegates to the operator that is found by the name it gives.** One
whose name is not registered, or which gives none, is not ready to delegate. -/
structure ResolvesDelegates (r : Registry) : Prop where
  found : ∀ op ∈ r.operators, ∀ name ∈ r.names, op.delegateName = some name →
    ∃ target, r.find (.text name) = .ok target ∧ r.Delegates op (.ok target)
  missing : ∀ op ∈ r.operators, (∀ name ∈ r.names, op.delegateName ≠ some name) →
    r.Delegates op (.error (.unlinked op.name op.delegateName))

theorem resolvesDelegates_of_loaded {r : Registry} (h : r.LinksByName)
    (hkeys : ∀ e ∈ r.entries, e.2.name = e.1) (hl : r.loaded = true) : r.ResolvesDelegates := by
  refine ⟨fun op hop name hname hn => ?_, fun op hop hnone => ?_⟩
  · obtain ⟨target, hget⟩ := mem_names_iff.mp hname
    have hd : op.delegate = some name := h.complete hl op hop name hname hn
    have hkey : target.name = name := hkeys _ (mem_of_get? hget)
    refine ⟨target, find_of_get? hget, ?_, fun w hw => ?_⟩
    · rw [Operator.linked, hd, ← hkey]
      rfl
    · rw [Work.target, hd, hw, Option.bind_some, hget]
  · have hd : op.delegate = none := by
      rcases hd : op.delegate with _ | target
      · rfl
      · obtain ⟨hn, ht⟩ := h.linked op hop target hd
        exact absurd hn (hnone target ht)
    refine ⟨?_, fun w hw => ?_⟩
    · rw [Operator.linked, hd]
      rfl
    · rw [Work.target, hd, Option.bind_none]

/-- Where the same operators are under the same names, they delegate to the same ones. -/
theorem Delegates.congr {r r' : Registry} {op : Operator} {x : Except Failure Operator}
    (h : r.Delegates op x) (hget : ∀ name, r.get? name = r'.get? name) : r'.Delegates op x := by
  refine ⟨h.linked, fun w hw => ?_⟩
  have htarget := h.target { w with engine := { w.engine with registry := r } } rfl
  rw [← htarget]
  simp only [Work.target, hw, funext hget]

end Registry
end ReportFilter
