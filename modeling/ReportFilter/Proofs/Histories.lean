/-
# Histories of a registry

What is done with a registry, call after call: operators are registered, looked up and
linked, and the registry is loaded. A call that fails does not end the history. The
validators may be others at every call, and a load may run any definitions: they make
calls on the registry themselves, and then return or fail.

However a history goes on, a registry only grows. Names stay where they are, new ones
come behind them, and an operator stays under its name as it was made, except that it
may be linked once (`Registry.Grows`). Every call makes the registry grow by the names
that it registers (`Registry.grows_call`), and so does every history
(`Registry.grows_after`).

Key definitions: `Registry.Call`, `Registry.Step`, `Registry.after`,
`Registry.registered`, `Operator.IsLater`, `Registry.Grows`.
Key theorems: `Registry.grows_register`, `Registry.grows_after`,
`Registry.keeps_first_registrations`.
-/
import ReportFilter.Proofs.BuiltIns

namespace ReportFilter

/-! ### What is done with a registry -/

/-- An operation that changes nothing when it fails. -/
def Attempt.ofExcept {σ : Type} (s : σ) : Except Failure σ → Attempt σ
  | .ok t => .done t
  | .error e => .fail s e

theorem Attempt.state_of_fails {σ : Type} {s : σ} {x : Except Failure σ} {e : Failure}
    (h : (ofExcept s x).outcome = .error e) : (ofExcept s x).state = s := by
  cases x with
  | error e => rfl
  | ok t => cases h

namespace Registry

/-- A call on a registry. -/
inductive Call where
  | register (validators : Validators) (spec : Operator.Spec)
  | find (name : Value)
  | operatorFor (operator : OperatorRef)
  | link (name target : Value)
  /-- A link to an operator that need not be registered. -/
  | linkTo (name : Value) (target : Operator)

/-- A call made. -/
def call (r : Registry) : Call → Attempt Registry
  | .register validators spec => .ofExcept r ((r.register validators spec).map (·.2))
  | .find name => .ofExcept r ((r.find name).map fun _ => r)
  | .operatorFor operator => .ofExcept r ((r.operatorFor operator).map fun _ => r)
  | .link name target => .ofExcept r (r.link name target)
  | .linkTo name target => .ofExcept r (r.linkTo name target)

/-- The registry after several calls, of which some may fail. -/
def afterCalls (r : Registry) : List Call → Registry
  | [] => r
  | c :: cs => (r.call c).state.afterCalls cs

/-- A step of a history. -/
inductive Step where
  | call (c : Call)
  /-- The registry's own definitions. -/
  | load (validators : Validators)
  /-- Any definitions: their calls, and whether they return. -/
  | loadBy (calls : List Call) (outcome : Except Failure Unit)

/-- A step made. -/
def step (r : Registry) : Step → Attempt Registry
  | .call c => r.call c
  | .load validators => r.load validators
  | .loadBy calls outcome =>
    if r.loaded then .done r
    else Attempt.andThen ⟨r.afterCalls calls, outcome⟩ fun r =>
      .done { r.linkAll with loaded := true }

/-- The registry after a history. -/
def after (r : Registry) : List Step → Registry
  | [] => r
  | s :: ss => (r.step s).state.after ss

/-- The name that a call registers, taken or not. -/
def Call.registered (r : Registry) : Call → List String
  | .register validators spec =>
    match r.register validators spec, spec.name.plain with
    | .ok _, .ok name => [name]
    | _, _ => []
  | _ => []

/-- The names that calls register, in order. -/
def registeredCalls (r : Registry) : List Call → List String
  | [] => []
  | c :: cs => c.registered r ++ (r.call c).state.registeredCalls cs

/-- The calls for definitions that are registered in order, up to the first that fails. -/
def definitionCalls (validators : Validators) : List Operator.Spec → Registry → List Call
  | [], _ => []
  | spec :: specs, r =>
    .register validators spec ::
      match r.register validators spec with
      | .ok (_, r) => definitionCalls validators specs r
      | .error _ => []

/-- The calls that a step makes. -/
def Step.calls (r : Registry) : Step → List Call
  | .call c => [c]
  | .load validators => if r.loaded then [] else definitionCalls validators r.definitions r
  | .loadBy calls _ => if r.loaded then [] else calls

/-- The names that a history registers, in order. -/
def registered (r : Registry) : List Step → List String
  | [] => []
  | s :: ss => r.registeredCalls (s.calls r) ++ (r.step s).state.registered ss

theorem after_append (r : Registry) : ∀ ss ts : List Step,
    r.after (ss ++ ts) = (r.after ss).after ts
  | [], _ => rfl
  | s :: ss, ts => after_append (r.step s).state ss ts

end Registry

/-! ### Growth -/

/-- An operator as it was made, and linked since, if it was not linked before. -/
structure Operator.IsLater (op later : Operator) : Prop where
  same : later = { op with delegate := later.delegate }
  linked : ∀ target, op.delegate = some target → later.delegate = some target

namespace Operator

theorem IsLater.refl (op : Operator) : op.IsLater op := ⟨rfl, fun _ h => h⟩

theorem IsLater.trans {op mid later : Operator} (h : op.IsLater mid) (h' : mid.IsLater later) :
    op.IsLater later := by
  refine ⟨?_, fun target ht => h'.linked target (h.linked target ht)⟩
  rw [h'.same, h.same]

theorem IsLater.name_eq {op later : Operator} (h : op.IsLater later) : later.name = op.name := by
  rw [h.same]

theorem isLater_link (op : Operator) (target : String) : op.IsLater (op.link target) := by
  unfold link
  cases h : op.delegate with
  | some t => exact .refl op
  | none => exact ⟨rfl, fun t ht => by rw [h] at ht; cases ht⟩

end Operator

namespace Registry

/-- **The registry has grown by the names.** New ones come behind those that there were,
each where it occurs first. Operators stay under their names. -/
structure Grows (r : Registry) (names : List String) (r' : Registry) : Prop where
  keys : (∀ e ∈ r.entries, e.2.name = e.1) → ∀ e ∈ r'.entries, e.2.name = e.1
  nodup : r.names.Nodup → r'.names.Nodup
  names : r'.names = r.names ++ (names.removeAll r.names).eraseDups
  operators : ∀ name op, r.get? name = some op →
    ∃ later, r'.get? name = some later ∧ op.IsLater later

theorem get?_eq_none_iff {r : Registry} {name : String} :
    r.get? name = none ↔ name ∉ r.names := by
  have hne : (∀ e ∈ r.entries, (name != e.1) = true) ↔ name ∉ r.names := by
    simp only [names, List.mem_map, bne_iff_ne, ne_eq]
    grind
  rw [get?, List.lookup_eq_none_iff, hne]

theorem mem_names_of_get? {r : Registry} {name : String} {op : Operator}
    (h : r.get? name = some op) : name ∈ r.names :=
  List.mem_map.mpr ⟨(name, op), mem_of_get? h, rfl⟩

theorem Grows.refl (r : Registry) : r.Grows [] r :=
  ⟨id, id, by simp [List.removeAll], fun _ op h => ⟨op, h, .refl op⟩⟩

theorem removeAll_append (ns ms keys : List String) :
    (ns ++ ms).removeAll keys = ns.removeAll keys ++ ms.removeAll keys := by
  simp only [List.removeAll, List.filter_append]

/-- Names that are neither there nor among the first ones are not there behind the first
ones. -/
theorem removeAll_removeAll (ns ms keys : List String) :
    (ms.removeAll keys).removeAll (ns.removeAll keys) =
      ms.removeAll (keys ++ (ns.removeAll keys).eraseDups) := by
  simp only [List.removeAll, List.filter_filter]
  refine List.filter_congr fun n _ => ?_
  rw [Bool.eq_iff_iff]
  simp only [Bool.and_eq_true, Bool.not_eq_true', List.elem_eq_mem, decide_eq_false_iff_not,
    List.mem_append, List.mem_eraseDups, List.mem_filter]
  grind

theorem Grows.trans {r r' r'' : Registry} {ns ms : List String} (h : r.Grows ns r')
    (h' : r'.Grows ms r'') : r.Grows (ns ++ ms) r'' := by
  refine ⟨fun hk => h'.keys (h.keys hk), fun hn => h'.nodup (h.nodup hn), ?_, fun name op hop => ?_⟩
  · calc r''.names
        = r'.names ++ (ms.removeAll r'.names).eraseDups := h'.names
      _ = r.names ++ ((ns.removeAll r.names).eraseDups ++
            ((ms.removeAll r.names).removeAll (ns.removeAll r.names)).eraseDups) := by
          rw [h.names, removeAll_removeAll, List.append_assoc]
      _ = r.names ++ ((ns ++ ms).removeAll r.names).eraseDups := by
          rw [removeAll_append, List.eraseDups_append]
  · obtain ⟨mid, hmid, hlater⟩ := h.operators name op hop
    obtain ⟨later, hget, hlater'⟩ := h'.operators name mid hmid
    exact ⟨later, hget, hlater.trans hlater'⟩

theorem names_mapOperators (r : Registry) (f : String → Operator → Operator) :
    (r.mapOperators f).names = r.names := by
  rw [names, mapOperators, List.map_map]
  rfl

theorem get?_mapOperators (r : Registry) (f : String → Operator → Operator) (name : String) :
    (r.mapOperators f).get? name = (r.get? name).map (f name) := by
  have hentries : ∀ entries : List (String × Operator),
      (entries.map fun e => (e.1, f e.1 e.2)).lookup name = (entries.lookup name).map (f name) := by
    intro entries
    induction entries with
    | nil => rfl
    | cons e entries ih =>
      rw [List.map_cons, List.lookup_cons, List.lookup_cons, ih]
      cases h : name == e.1 with
      | true => rw [eq_of_beq h]; rfl
      | false => rfl
  exact hentries r.entries

/-- Links do not change which operator is under a name. -/
theorem grows_mapOperators (r : Registry) {f : String → Operator → Operator}
    (hf : ∀ key (op : Operator), op.IsLater (f key op)) : r.Grows [] (r.mapOperators f) := by
  refine ⟨fun hk e he => ?_, fun hn => ?_, ?_, fun name op hop => ?_⟩
  · obtain ⟨e', he', rfl⟩ := List.mem_map.mp he
    exact (hf e'.1 e'.2).name_eq.trans (hk e' he')
  · rwa [names_mapOperators]
  · rw [names_mapOperators]
    simp [List.removeAll]
  · refine ⟨f name op, ?_, hf name op⟩
    rw [get?_mapOperators, hop]
    rfl

theorem isLater_linkEntry (r : Registry) (op : Operator) : op.IsLater (r.linkEntry op) := by
  unfold linkEntry
  split
  · exact .refl op
  · split
    · exact op.isLater_link _
    · exact .refl op

theorem grows_linkAll (r : Registry) : r.Grows [] r.linkAll :=
  r.grows_mapOperators fun _ op => r.isLater_linkEntry op

theorem grows_linkTo {r r' : Registry} {name : Value} {target : Operator}
    (h : r.linkTo name target = .ok r') : r.Grows [] r' := by
  rcases hfind : r.find name with e | op
  · rw [linkTo, hfind] at h
    cases h
  · rw [linkTo, hfind] at h
    cases h
    refine r.grows_mapOperators fun key e => ?_
    split
    · exact e.isLater_link target.name
    · exact .refl e

theorem grows_link {r r' : Registry} {name target : Value} (h : r.link name target = .ok r') :
    r.Grows [] r' := by
  obtain ⟨_, -, h⟩ := exists_of_bind_eq_ok h
  obtain ⟨target, -, h⟩ := exists_of_bind_eq_ok h
  exact grows_linkTo h

/-! ### Registration -/

/-- The registry with an operator behind the others. -/
def push (r : Registry) (name : String) (op : Operator) : Registry :=
  { r with entries := r.entries ++ [(name, op)] }

/-- The registry with an operator under a new name, linked if links are made already. -/
def insert (r : Registry) (name : String) (op : Operator) : Registry :=
  if r.loaded then (r.push name op).linkAll else r.push name op

theorem get?_push_of_some {r : Registry} {other : String} {op' : Operator}
    (h : r.get? other = some op') (name : String) (op : Operator) :
    (r.push name op).get? other = some op' := by
  rw [get?] at h
  rw [get?, push, List.lookup_append, h]
  rfl

theorem get?_push_self {r : Registry} {name : String} (h : r.get? name = none) (op : Operator) :
    (r.push name op).get? name = some op := by
  rw [get?] at h
  rw [get?, push, List.lookup_append, h]
  exact List.lookup_cons_self

theorem grows_push {r : Registry} {name : String} {op : Operator} (hget : r.get? name = none)
    (hop : op.name = name) : r.Grows [name] (r.push name op) := by
  have hnew := get?_eq_none_iff.mp hget
  have hnames : (r.push name op).names = r.names ++ [name] := List.map_append
  refine ⟨fun hk e he => ?_, fun hn => ?_, ?_, fun other op' h => ?_⟩
  · rcases List.mem_append.mp he with he | he
    · exact hk e he
    · rw [List.mem_singleton.mp he]
      exact hop
  · rw [hnames]
    exact List.nodup_append.mpr ⟨hn, by simp, by grind⟩
  · have hkept : [name].removeAll r.names = [name] := by
      simp [List.removeAll, hnew]
    rw [hnames, hkept]
    rfl
  · exact ⟨op', get?_push_of_some h name op, .refl op'⟩

theorem grows_insert {r : Registry} {name : String} {op : Operator} (hget : r.get? name = none)
    (hop : op.name = name) : r.Grows [name] (r.insert name op) := by
  unfold insert
  split
  · exact (grows_push hget hop).trans (r.push name op).grows_linkAll
  · exact grows_push hget hop

theorem exists_get?_insert {r : Registry} {name : String} (op : Operator)
    (hget : r.get? name = none) : ∃ later, (r.insert name op).get? name = some later := by
  have hpush := get?_push_self hget op
  unfold insert
  split
  · obtain ⟨later, hlater, -⟩ := (r.push name op).grows_linkAll.operators name op hpush
    exact ⟨later, hlater⟩
  · exact ⟨op, hpush⟩

/-- **What registering does**: a taken name is left with its operator, and an operator
of a new name is made and comes behind the others. -/
theorem register_cases {r r' : Registry} {validators : Validators} {spec : Operator.Spec}
    {op : Operator} (h : r.register validators spec = .ok (op, r')) :
    ∃ name, spec.name.plain = .ok name ∧ r'.get? name = some op ∧
      (r.get? name = some op ∧ r' = r ∨
        r.get? name = none ∧ ∃ made, Operator.ofSpec validators name spec = .ok made ∧
          r' = r.insert name made) := by
  obtain ⟨name, hname, h⟩ := exists_of_bind_eq_ok h
  refine ⟨name, hname, ?_⟩
  rcases hget : r.get? name with _ | first
  · rw [hget] at h
    obtain ⟨made, hmade, h⟩ := exists_of_bind_eq_ok h
    have hresult : (((r.insert name made).get? name).getD made, r.insert name made) = (op, r') :=
      Except.ok.inj h
    obtain ⟨later, hlater⟩ := exists_get?_insert made hget
    rw [hlater] at hresult
    cases hresult
    exact ⟨hlater, .inr ⟨rfl, made, hmade, rfl⟩⟩
  · rw [hget] at h
    cases h
    exact ⟨hget, .inl ⟨rfl, rfl⟩⟩

/-- Registering makes the registry grow by the name, taken or not. -/
theorem grows_register {r r' : Registry} {validators : Validators} {spec : Operator.Spec}
    {op : Operator} (h : r.register validators spec = .ok (op, r')) {name : String}
    (hname : spec.name.plain = .ok name) : r.Grows [name] r' := by
  obtain ⟨name', hname', -, hcases⟩ := register_cases h
  cases hname.symm.trans hname'
  rcases hcases with ⟨hget, rfl⟩ | ⟨hget, made, hmade, rfl⟩
  · have hmem := mem_names_of_get? hget
    have hnone : [name].removeAll r'.names = [] := by
      simp [List.removeAll, hmem]
    exact ⟨id, id, by simp [hnone], fun _ op h => ⟨op, h, .refl op⟩⟩
  · exact grows_insert hget (Operator.name_ofSpec hmade).1

/-! ### Histories -/

/-- What holds of the registry and of what the operation makes of it, holds after it. -/
theorem state_ofExcept {P : Registry → Prop} {r : Registry} {x : Except Failure Registry}
    (hr : P r) (h : ∀ r', x = .ok r' → P r') : P (Attempt.ofExcept r x).state := by
  cases x with
  | error e => exact hr
  | ok r' => exact h r' rfl

/-- A call that looks an operator up leaves the registry. -/
theorem state_lookup (r : Registry) (x : Except Failure Operator) :
    (Attempt.ofExcept r (x.map fun _ => r)).state = r := by
  cases x <;> rfl

/-- **A call makes the registry grow** by the name that it registers. -/
theorem grows_call (r : Registry) (c : Call) : r.Grows (c.registered r) (r.call c).state := by
  cases c with
  | register validators spec =>
    rcases h : r.register validators spec with e | ⟨op, r'⟩
    · rw [Call.registered, call, h]
      exact .refl r
    · obtain ⟨name, hname, -⟩ := register_cases h
      rw [Call.registered, call, h, hname]
      exact grows_register h hname
  | find name =>
    rw [call, state_lookup]
    exact .refl r
  | operatorFor operator =>
    rw [call, state_lookup]
    exact .refl r
  | link name target =>
    exact state_ofExcept (P := r.Grows []) (.refl r) fun r' h => grows_link h
  | linkTo name target =>
    exact state_ofExcept (P := r.Grows []) (.refl r) fun r' h => grows_linkTo h

theorem grows_afterCalls : ∀ (cs : List Call) (r : Registry),
    r.Grows (r.registeredCalls cs) (r.afterCalls cs)
  | [], r => .refl r
  | c :: cs, r => (r.grows_call c).trans (grows_afterCalls cs _)

/-- Definitions that are registered in order make these calls. -/
theorem state_registerAll (validators : Validators) : ∀ (specs : List Operator.Spec)
    (r : Registry), (r.registerAll validators specs).state =
      r.afterCalls (definitionCalls validators specs r)
  | [], r => rfl
  | spec :: specs, r => by
    rcases h : r.register validators spec with e | ⟨op, r'⟩
    · rw [registerAll, definitionCalls, afterCalls, call, h]
      rfl
    · rw [registerAll, definitionCalls, afterCalls, call, h]
      exact state_registerAll validators specs r'

/-- The end of a load: all operators are linked, and the registry is loaded. -/
theorem Grows.finish {r : Registry} {names : List String} {a : Attempt Registry}
    (h : r.Grows names a.state) :
    r.Grows names (a.andThen fun r => .done { r.linkAll with loaded := true }).state := by
  refine Attempt.state_andThen h fun s hs => ?_
  have hlinked := hs.trans s.grows_linkAll
  rw [List.append_nil] at hlinked
  exact ⟨hlinked.keys, hlinked.nodup, hlinked.names, hlinked.operators⟩

/-- **A step makes the registry grow** by the names that its calls register. -/
theorem grows_step (r : Registry) (s : Step) :
    r.Grows (r.registeredCalls (s.calls r)) (r.step s).state := by
  cases s with
  | call c => exact r.grows_afterCalls [c]
  | load validators =>
    rw [step, load, Step.calls]
    by_cases h : r.loaded = true
    · rw [if_pos h, if_pos h]
      exact .refl r
    · rw [if_neg h, if_neg h]
      refine Grows.finish ?_
      rw [state_registerAll]
      exact grows_afterCalls _ r
  | loadBy calls outcome =>
    rw [step, Step.calls]
    by_cases h : r.loaded = true
    · rw [if_pos h, if_pos h]
      exact .refl r
    · rw [if_neg h, if_neg h]
      exact Grows.finish (grows_afterCalls calls r)

/-- **A history makes the registry grow** by the names that it registers. -/
theorem grows_after : ∀ (ss : List Step) (r : Registry), r.Grows (r.registered ss) (r.after ss)
  | [], r => .refl r
  | s :: ss, r => (r.grows_step s).trans (grows_after ss _)

/-! ### What holds after every history -/

/-- A table of operators under their names, which are the given ones in the order in
which they occur first. -/
structure IsTableOf (r : Registry) (registered : List String) : Prop where
  keys : ∀ e ∈ r.entries, e.2.name = e.1
  nodup : r.names.Nodup
  names : r.names = registered.eraseDups
  size : r.size = r.names.length
  operators : r.operators.map Operator.name = r.names

/-- Whoever asks for the name gets the operator, and registering it once more does
nothing else. -/
structure Answers (r : Registry) (name : String) (op : Operator) : Prop where
  find : ∀ v : Value, v.plain = .ok name → r.find v = .ok op
  operatorFor : ∀ v : Value, v.plain = .ok name → r.operatorFor (.name v) = .ok op
  itself : r.operatorFor (.operator op) = .ok op
  register : ∀ (validators : Validators) (spec : Operator.Spec),
    spec.name.plain = .ok name → r.register validators spec = .ok (op, r)

theorem answers_of_get? {r : Registry} {name : String} {op : Operator}
    (h : r.get? name = some op) : r.Answers name op := by
  have hfind : ∀ v : Value, v.plain = .ok name → r.find v = .ok op := by
    intro v hv
    simp only [Registry.find, hv, bind, Except.bind, h]
  exact ⟨hfind, hfind, rfl, fun _ _ hname => register_of_get? hname h⟩

theorem isTableOf_after (definitions : List Operator.Spec) (ss : List Step) :
    ((ofDefinitions definitions).after ss).IsTableOf
      ((ofDefinitions definitions).registered ss) := by
  have h := grows_after ss (ofDefinitions definitions)
  have hkeys := h.keys fun e he => by cases he
  refine ⟨hkeys, h.nodup List.nodup_nil, ?_, (List.length_map _).symm, ?_⟩
  · have hall : ∀ ns : List String, ns.removeAll [] = ns := fun ns => List.removeAll_nil
    exact h.names.trans (by rw [ofDefinitions]; exact congrArg List.eraseDups (hall _))
  · rw [operators, names, List.map_map]
    exact List.map_congr_left hkeys

theorem contains_iff_get? {r : Registry} {v : Value} :
    r.contains v = .ok true ↔ ∃ name op, v.plain = .ok name ∧ r.get? name = some op := by
  constructor
  · intro h
    rcases hv : v.plain with e | name
    · rw [contains, hv] at h
      cases h
    · rw [contains, hv] at h
      obtain ⟨op, hget⟩ := Option.isSome_iff_exists.mp (Except.ok.inj h)
      exact ⟨name, op, rfl, hget⟩
  · rintro ⟨name, op, hv, hget⟩
    rw [contains, hv]
    show Except.ok (r.get? name).isSome = _
    rw [hget]
    rfl

/-- A value is in the registry when an operator is found by it, which is when its text is
one of the names. -/
theorem contains_iff (r : Registry) (v : Value) :
    (r.contains v = .ok true ↔ ∃ op, r.find v = .ok op) ∧
      (r.contains v = .ok true ↔ ∃ name ∈ r.names, v.plain = .ok name) := by
  rw [contains_iff_get?]
  refine ⟨⟨?_, ?_⟩, ⟨?_, ?_⟩⟩
  · rintro ⟨name, op, hv, hget⟩
    exact ⟨op, (answers_of_get? hget).find v hv⟩
  · rintro ⟨op, hfind⟩
    obtain ⟨name, hv, hget⟩ := get?_of_find hfind
    exact ⟨name, op, hv, hget⟩
  · rintro ⟨name, op, hv, hget⟩
    exact ⟨name, mem_names_of_get? hget, hv⟩
  · rintro ⟨name, hmem, hv⟩
    obtain ⟨op, hget⟩ := Option.ne_none_iff_exists'.mp fun h => get?_eq_none_iff.mp h hmem
    exact ⟨name, op, hv, hget⟩

/-- **The registry keeps its first registrations for ever.** After every history it is a
table under distinct names in the order of their first registration. What a registration
or a look-up has returned is what every later call for that name returns, at most linked
since. A call that fails changes nothing. -/
theorem keeps_first_registrations (definitions : List Operator.Spec) (earlier later : List Step) :
    let r := (ofDefinitions definitions).after earlier
    let r' := r.after later
    r'.IsTableOf ((ofDefinitions definitions).registered (earlier ++ later)) ∧
    (∀ v : Value, (r'.contains v = .ok true ↔ ∃ op, r'.find v = .ok op) ∧
      (r'.contains v = .ok true ↔ ∃ name ∈ r'.names, v.plain = .ok name)) ∧
    (∀ (validators : Validators) (spec : Operator.Spec) (op : Operator) (r₁ : Registry),
      r.register validators spec = .ok (op, r₁) →
        ∃ name op', spec.name.plain = .ok name ∧ op.IsLater op' ∧
          (r₁.after later).Answers name op') ∧
    (∀ (v : Value) (op : Operator), r.find v = .ok op →
      ∃ name op', v.plain = .ok name ∧ op.IsLater op' ∧ r'.Answers name op') ∧
    ∀ (c : Call) (e : Failure), (r'.call c).outcome = .error e → (r'.call c).state = r' := by
  intro r r'
  have hlater : ∀ (r : Registry) (name : String) (op : Operator), r.get? name = some op →
      ∃ op', op.IsLater op' ∧ (r.after later).Answers name op' := by
    intro r name op hget
    obtain ⟨op', hget', hop'⟩ := (grows_after later r).operators name op hget
    exact ⟨op', hop', answers_of_get? hget'⟩
  refine ⟨?_, r'.contains_iff, fun validators spec op r₁ h => ?_, fun v op h => ?_, fun c e h => ?_⟩
  · have htable := isTableOf_after definitions (earlier ++ later)
    rwa [after_append] at htable
  · obtain ⟨name, hname, hget, -⟩ := register_cases h
    obtain ⟨op', hop', hanswers⟩ := hlater r₁ name op hget
    exact ⟨name, op', hname, hop', hanswers⟩
  · obtain ⟨name, hname, hget⟩ := get?_of_find h
    obtain ⟨op', hop', hanswers⟩ := hlater r name op hget
    exact ⟨name, op', hname, hop', hanswers⟩
  · cases c <;> exact Attempt.state_of_fails h

/-- A name that is registered before the definitions stays in front of theirs. -/
example :
    let named (name : Value) : Operator.Spec := { name }
    ((ofDefinitions [named (.text "="), named (.text "7")]).after
      [.call (.register .initial (named (.int 7))), .load .initial,
        .call (.find (.text "!"))]).names = ["7", "="] := by
  decide +kernel

end Registry
end ReportFilter
