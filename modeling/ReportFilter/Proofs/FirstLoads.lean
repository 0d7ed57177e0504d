/-
# First loads from several threads

While the registry is not loaded, a thread gets past the lock before it touches the
table, and it is alone there (`Loading.State.Excludes`). So only one thread's position
matters, that of the lock's holder, and with it go what has become of the table and how
often the definitions have been run (`Loading.Stage`): nothing has happened yet, or the
holder registers, links or is about to set the flag, or the table is the one that a load
makes (`Registry.load`). A call returns only in the last of these stages, because the flag
is set last.

Key definitions: `Loading.State.Excludes`, `Loading.Stage`, `Loading.Orderly`,
`Loading.IsFinished`.
Key theorems: `Loading.Orderly.move`, `Loading.orderly_of_moves`, `Loading.loads_once`.
-/
import Mathlib.Logic.Relation
import ReportFilter.Loading
import ReportFilter.Proofs.Delegates

namespace ReportFilter
namespace Loading

/-! ### The lock -/

/-- Whether a thread at the position holds the lock. -/
def Position.isInside : Position → Bool
  | .outside | .checking | .waiting => false
  | .rechecking | .registering _ | .linking | .flagging | .releasing _ => true

namespace State

/-- Only the holder of the lock is inside. -/
def Excludes (s : State) : Prop :=
  ∀ thread p, s.threads[thread]? = some p → p.isInside = true → s.holder = some thread

/-- Where the holder of the lock stands. -/
def inside? (s : State) : Option Position := s.holder.bind fun thread => s.threads[thread]?

variable {s t : State} {thread : Nat} {p : Position}

/-- A thread has moved. The lock goes on to exclude if the thread holds it where it is
now inside, and did not take it from another. -/
theorem Excludes.set (h : s.Excludes) (hthreads : t.threads = s.threads.set thread p)
    (hself : p.isInside = true → t.holder = some thread)
    (hothers : ∀ other, other ≠ thread → s.holder = some other → t.holder = some other) :
    t.Excludes := by
  intro other q hq hinside
  rw [hthreads, List.getElem?_set] at hq
  by_cases hother : thread = other
  · subst hother
    rw [if_pos rfl] at hq
    split at hq
    · cases hq
      exact hself hinside
    · cases hq
  · rw [if_neg hother] at hq
    exact hothers other (Ne.symm hother) (h other q hq hinside)

theorem inside?_of_holder {q : Position} (hq : s.threads[thread]? = some q)
    (hthreads : t.threads = s.threads.set thread p) (hholder : t.holder = some thread) :
    t.inside? = some p := by
  obtain ⟨hlt, -⟩ := List.getElem?_eq_some_iff.mp hq
  rw [inside?, hholder, hthreads]
  exact List.getElem?_set_self hlt

theorem inside?_of_other (hthreads : t.threads = s.threads.set thread p)
    (hholder : t.holder = s.holder) (hne : s.holder ≠ some thread) : t.inside? = s.inside? := by
  rw [inside?, inside?, hholder, hthreads]
  rcases hs : s.holder with _ | other
  · rfl
  · have hother : thread ≠ other := fun h => hne (by rw [hs, h])
    exact List.getElem?_set_ne hother

end State

/-! ### The stages of a first load -/

/-- **The stages of a first load**: where the holder of the lock stands, if there is one,
the table at that moment, how often the definitions have been run, and how many calls have
returned. -/
inductive Stage (validators : Validators) (r : Registry) :
    Option Position → Registry → Nat → Nat → Prop where
  | untouched : Stage validators r none r 0 0
  | entered : Stage validators r (some .rechecking) r 0 0
  | registering {rest : List Operator.Spec} {current : Registry}
      (unset : current.loaded = false)
      (ahead : current.registerAll validators rest = r.registerAll validators r.definitions) :
      Stage validators r (some (.registering rest)) current 1 0
  | linking : Stage validators r (some .linking) (r.registerAll validators r.definitions).state 1 0
  | flagging :
      Stage validators r (some .flagging) (r.registerAll validators r.definitions).state.linkAll 1 0
  | leaving {returned : Nat} :
      Stage validators r (some (.releasing false)) (r.load validators).state 1 returned
  | loaded {returned : Nat} : Stage validators r none (r.load validators).state 1 returned
  | reentered {returned : Nat} :
      Stage validators r (some .rechecking) (r.load validators).state 1 returned

/-- The lock excludes, and the holder is at one of the stages. -/
structure Orderly (validators : Validators) (r : Registry) (s : State) : Prop where
  excludes : s.Excludes
  stage : Stage validators r s.inside? s.registry s.runs s.returned

variable {validators : Validators} {r : Registry} {s t : State} {thread : Nat} {p : Position}

theorem Stage.isInside {current : Registry} {runs returned : Nat}
    (h : Stage validators r (some p) current runs returned) : p.isInside = true := by
  cases h <;> rfl

theorem Orderly.holder_ne (h : Orderly validators r s) (hp : s.threads[thread]? = some p)
    (hout : p.isInside = false) : s.holder ≠ some thread := by
  intro hholder
  have hinside : s.inside? = some p := by
    rw [State.inside?, hholder]
    exact hp
  have hstage := h.stage
  rw [hinside] at hstage
  rw [hstage.isInside] at hout
  cases hout

/-- A thread that is outside the lock has moved, and stays outside. -/
theorem Orderly.stay (h : Orderly validators r s) {q : Position}
    (hp : s.threads[thread]? = some p) (hout : p.isInside = false) (hq : q.isInside = false)
    (hthreads : t.threads = s.threads.set thread q) (hholder : t.holder = s.holder)
    (hstage : Stage validators r s.inside? t.registry t.runs t.returned) :
    Orderly validators r t := by
  refine ⟨h.excludes.set hthreads (fun hinside => ?_) fun other _ hother => ?_, ?_⟩
  · rw [hq] at hinside
    cases hinside
  · rw [hholder, hother]
  · rw [State.inside?_of_other hthreads hholder (h.holder_ne hp hout)]
    exact hstage

/-- A thread that is inside is where the stage is. -/
theorem Orderly.stage_of_isInside (h : Orderly validators r s) (hp : s.threads[thread]? = some p)
    (hin : p.isInside = true) :
    Stage validators r (some p) s.registry s.runs s.returned := by
  have hinside : s.inside? = some p := by
    rw [State.inside?, h.excludes thread p hp hin]
    exact hp
  exact hinside ▸ h.stage

/-- The holder of the lock has moved, and keeps the lock. -/
theorem Orderly.advance (h : Orderly validators r s) {q : Position}
    (hp : s.threads[thread]? = some p) (hin : p.isInside = true)
    (hthreads : t.threads = s.threads.set thread q) (hholder : t.holder = s.holder)
    (hstage : Stage validators r (some p) s.registry s.runs s.returned →
      Stage validators r (some q) t.registry t.runs t.returned) : Orderly validators r t := by
  have hs : s.holder = some thread := h.excludes thread p hp hin
  refine ⟨h.excludes.set hthreads (fun _ => hholder.trans hs) fun other _ hother => ?_, ?_⟩
  · rw [hholder, hother]
  · rw [State.inside?_of_holder hp hthreads (hholder.trans hs)]
    exact hstage (h.stage_of_isInside hp hin)

/-! ### From stage to stage -/

section Steps

variable {current : Registry} {runs returned : Nat}

/-- Where the flag is set, another call may return. -/
theorem Stage.return (hr : r.loaded = false) {inside : Option Position}
    (h : Stage validators r inside current runs returned) (hl : current.loaded = true) :
    Stage validators r inside current runs (returned + 1) := by
  have hregistered : (r.registerAll validators r.definitions).state.loaded = false :=
    (r.changesOperators_registerAll validators r.definitions).loaded.trans hr
  cases h with
  | untouched | entered =>
    rw [hr] at hl
    cases hl
  | registering unset =>
    rw [unset] at hl
    cases hl
  | linking =>
    rw [hregistered] at hl
    cases hl
  | flagging =>
    rw [Registry.linkAll, Registry.mapOperators, hregistered] at hl
    cases hl
  | leaving => exact .leaving
  | loaded => exact .loaded
  | reentered => exact .reentered

theorem Stage.acquire (h : Stage validators r none current runs returned) :
    Stage validators r (some .rechecking) current runs returned := by
  cases h with
  | untouched => exact .entered
  | loaded => exact .reentered

theorem Stage.recheck (hr : r.loaded = false)
    (h : Stage validators r (some .rechecking) current runs returned)
    (hl : current.loaded = true) :
    Stage validators r (some (.releasing false)) current runs returned := by
  cases h with
  | entered =>
    rw [hr] at hl
    cases hl
  | reentered => exact .leaving

/-- The thread that finds the flag unset runs the definitions, and is the first to. -/
theorem Stage.begin (hr : r.loaded = false)
    (hdefs : (r.registerAll validators r.definitions).outcome = .ok ())
    (h : Stage validators r (some .rechecking) current runs returned)
    (hl : ¬current.loaded = true) :
    Stage validators r (some (.registering current.definitions)) current (runs + 1)
      returned := by
  cases h with
  | entered => exact .registering hr rfl
  | reentered =>
    rw [Registry.load_of_registerAll hr hdefs] at hl
    exact absurd rfl hl

theorem Stage.register (hdefs : (r.registerAll validators r.definitions).outcome = .ok ())
    {spec : Operator.Spec} {rest : List Operator.Spec}
    (h : Stage validators r (some (.registering (spec :: rest))) current runs returned) :
    ∃ op next, current.register validators spec = .ok (op, next) ∧
      Stage validators r (some (.registering rest)) next runs returned := by
  cases h with
  | registering unset ahead =>
    rw [← ahead] at hdefs
    obtain ⟨op, next, hreg⟩ := Registry.exists_register_of_registerAll hdefs
    rw [Registry.registerAll_cons_of_ok hreg] at ahead
    have hunset := (Registry.changesOperators_register hreg).loaded.trans unset
    exact ⟨op, next, hreg, .registering hunset ahead⟩

theorem Stage.registered (h : Stage validators r (some (.registering [])) current runs returned) :
    Stage validators r (some .linking) current runs returned := by
  cases h with
  | registering unset ahead =>
    have hcurrent : current = (r.registerAll validators r.definitions).state := by
      rw [← ahead]
      rfl
    rw [hcurrent]
    exact .linking

theorem Stage.link (h : Stage validators r (some .linking) current runs returned) :
    Stage validators r (some .flagging) current.linkAll runs returned := by
  cases h
  exact .flagging

theorem Stage.flag (hr : r.loaded = false)
    (hdefs : (r.registerAll validators r.definitions).outcome = .ok ())
    (h : Stage validators r (some .flagging) current runs returned) :
    Stage validators r (some (.releasing false)) { current with loaded := true } runs
      returned := by
  cases h
  have hleaving : Stage validators r (some (.releasing false)) (r.load validators).state 1 0 :=
    .leaving
  rw [Registry.load_of_registerAll hr hdefs] at hleaving
  exact hleaving

/-- A call that leaves the lock returns. -/
theorem Stage.release {failed : Bool}
    (h : Stage validators r (some (.releasing failed)) current runs returned) :
    Stage validators r none current runs (if failed then returned else returned + 1) := by
  cases h
  exact .loaded

end Steps

/-! ### Every move keeps the order -/

/-- **A move of any thread keeps the order.** -/
theorem Orderly.move (hr : r.loaded = false)
    (hdefs : (r.registerAll validators r.definitions).outcome = .ok ())
    (h : Orderly validators r s) (hmove : move? validators s thread = some t) :
    Orderly validators r t := by
  obtain ⟨p, hp, hstep⟩ := Option.bind_eq_some_iff.mp hmove
  -- up to the lock a thread leaves the table as it is, so the stage stays; from there on it
  -- is the holder, and the stage moves with it
  cases p with
  | outside =>
    cases hstep
    exact h.stay (q := .checking) hp rfl rfl rfl rfl h.stage
  | checking =>
    rw [State.step?] at hstep
    split at hstep
    · rename_i hl
      cases hstep
      exact h.stay (q := .outside) hp rfl rfl rfl rfl (h.stage.return hr hl)
    · cases hstep
      exact h.stay (q := .waiting) hp rfl rfl rfl rfl h.stage
  | waiting =>
    rw [State.step?] at hstep
    split at hstep
    · rename_i hfree
      cases hstep
      have hnobody : s.inside? = none := by rw [State.inside?, hfree]; rfl
      refine ⟨h.excludes.set (p := .rechecking) rfl (fun _ => rfl) fun other _ hother => ?_, ?_⟩
      · rw [hfree] at hother
        cases hother
      · rw [State.inside?_of_holder (p := .rechecking) hp rfl rfl]
        exact (hnobody ▸ h.stage).acquire
    · cases hstep
  | rechecking =>
    rw [State.step?] at hstep
    split at hstep
    · rename_i hl
      cases hstep
      exact h.advance (q := .releasing false) hp rfl rfl rfl (.recheck hr · hl)
    · rename_i hl
      cases hstep
      exact h.advance (q := .registering s.registry.definitions) hp rfl rfl rfl
        (.begin hr hdefs · hl)
  | registering rest =>
    cases rest with
    | nil =>
      cases hstep
      exact h.advance (q := .linking) hp rfl rfl rfl Stage.registered
    | cons spec rest =>
      have hstage := Stage.register hdefs (h.stage_of_isInside hp rfl)
      obtain ⟨op, next, hreg, hnext⟩ := hstage
      rw [State.step?, hreg] at hstep
      cases hstep
      exact h.advance (q := .registering rest) hp rfl rfl rfl fun _ => hnext
  | linking =>
    cases hstep
    exact h.advance (q := .flagging) hp rfl rfl rfl Stage.link
  | flagging =>
    cases hstep
    exact h.advance (q := .releasing false) hp rfl rfl rfl (Stage.flag hr hdefs)
  | releasing failed =>
    cases hstep
    have hholder := h.excludes thread _ hp rfl
    refine ⟨h.excludes.set (p := .outside) rfl (fun hinside => (by cases hinside))
      fun other hother hholds => ?_, (h.stage_of_isInside hp rfl).release⟩
    rw [hholder] at hholds
    cases hholds
    exact absurd rfl hother

/-- **Every interleaving is orderly.** -/
theorem orderly_of_moves (hr : r.loaded = false)
    (hdefs : (r.registerAll validators r.definitions).outcome = .ok ()) {threads : Nat}
    (h : Relation.ReflTransGen (Moves validators) (start r threads) s) :
    Orderly validators r s := by
  induction h with
  | refl =>
    refine ⟨fun thread p hp hinside => ?_, .untouched⟩
    rw [start, List.getElem?_replicate] at hp
    split at hp <;> cases hp
    cases hinside
  | tail _ hmove ih =>
    obtain ⟨thread, hmove⟩ := hmove
    exact ih.move hr hdefs hmove

theorem moves_run (validators : Validators) : ∀ (order : List Nat) (s : State),
    Relation.ReflTransGen (Moves validators) s (run validators s order)
  | [], s => .refl
  | thread :: order, s => by
    rcases hmove : move? validators s thread with _ | t
    · rw [run, hmove]
      exact moves_run validators order s
    · rw [run, hmove]
      exact .head ⟨thread, hmove⟩ (moves_run validators order t)

/-! ### What a call that has returned leaves -/

/-- The table as a finished load leaves it: the flag is set, the definitions' names are
there, and of the operators that give a registered name none is unlinked. -/
structure IsFinished (r : Registry) (definitions : List Operator.Spec) : Prop where
  loaded : r.loaded = true
  names : ∀ spec ∈ definitions, ∃ name ∈ r.names, spec.name.plain = .ok name
  linked : ∀ op ∈ r.operators, ∀ name ∈ r.names, op.delegateName = some name →
    ∃ target, op.linked = .ok target

theorem isFinished_load (hr : r.loaded = false)
    (hdefs : (r.registerAll validators r.definitions).outcome = .ok ()) :
    IsFinished (r.load validators).state r.definitions := by
  rw [Registry.load_of_registerAll hr hdefs]
  have hnames : ∀ r' : Registry, ({ r'.linkAll with loaded := true } : Registry).names = r'.names :=
    Registry.names_linkAll
  refine ⟨rfl, fun spec hspec => ?_, fun op hop name hname hn => ?_⟩
  · obtain ⟨name, hname, hplain⟩ := Registry.mem_names_of_registerAll hdefs spec hspec
    exact ⟨name, by rwa [Attempt.done, hnames], hplain⟩
  · rw [Attempt.done, hnames] at hname
    obtain ⟨target, hd⟩ := Registry.exists_delegate_linkAll hop hname hn
    exact ⟨target, by rw [Operator.linked, hd]⟩

theorem Stage.finished {inside : Option Position} {current : Registry} {runs returned : Nat}
    (h : Stage validators r inside current runs returned) :
    runs ≤ 1 ∧ (0 < returned → current = (r.load validators).state) := by
  cases h <;> simp

/-- **First loads from several threads register once, and no call returns with an
unfinished table.** Whatever the threads do, the definitions are run at most once; once a
call has returned, the table is the one that a single load makes, and it is finished. -/
theorem loads_once (hr : r.loaded = false)
    (hdefs : (r.registerAll validators r.definitions).outcome = .ok ()) (threads : Nat)
    (h : Relation.ReflTransGen (Moves validators) (start r threads) s) :
    s.runs ≤ 1 ∧ (0 < s.returned →
      s.registry = (r.load validators).state ∧ IsFinished s.registry r.definitions) := by
  obtain ⟨hruns, hreturned⟩ := (orderly_of_moves hr hdefs h).stage.finished
  refine ⟨hruns, fun hpos => ⟨hreturned hpos, ?_⟩⟩
  rw [hreturned hpos]
  exact isFinished_load hr hdefs

/-- One call has returned, and two threads that came while it was registering are at the
lock and behind it. -/
theorem loads_once_overlapping :
    let first : Operator.Spec := { name := .text "first", delegateName := some "second" }
    let second : Operator.Spec := { name := .text "second", delegateName := some "first" }
    let r := Registry.ofDefinitions [first, second]
    let s := run .initial (start r 3) ((overlapping 2 2).take 17)
    (r.loaded = false ∧ (r.registerAll .initial r.definitions).outcome = .ok () ∧
      s.threads = [.outside, .rechecking, .waiting] ∧ 0 < s.returned) ∧
    s.runs ≤ 1 ∧ s.registry = (r.load .initial).state ∧ IsFinished s.registry r.definitions := by
  intro first second r s
  have hr : r.loaded = false := rfl
  have hdefs : (r.registerAll .initial r.definitions).outcome = .ok () :=
    Attempt.failure?_eq_none_iff.mp (by decide +kernel)
  have hthreads : s.threads = [.outside, .rechecking, .waiting] := by decide +kernel
  have hpos : 0 < s.returned := by decide +kernel
  obtain ⟨hruns, hreturned⟩ := loads_once hr hdefs 3 (moves_run .initial _ _ :
    Relation.ReflTransGen (Moves .initial) (start r 3) s)
  exact ⟨⟨hr, hdefs, hthreads, hpos⟩, hruns, hreturned hpos⟩

end Loading
end ReportFilter
