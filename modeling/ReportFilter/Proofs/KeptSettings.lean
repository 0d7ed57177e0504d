/-
# Kept settings

Settings in the course of a program: the environment changes, the settings are read,
overridden and forgotten, in any order. A call that fails does not end the history.

The settings in use are told by the history alone. They are those of the environment at
the first read since the last reset (`SettingsHistory.source`), with the overrides that
have been accepted since then (`SettingsHistory.overrides`), of which the last one of a
name counts. The store keeps them from the first read on, event by event
(`SettingsStore.Remembers`): what happens to the environment behind that read does not
come up before the next reset.

Key definitions: `SettingsEvent`, `Engine.meet`, `Engine.afterEvents`,
`SettingsHistory.source`, `SettingsHistory.overrides`, `Settings.overridden`,
`SettingsStore.Remembers`.
Key theorems: `Settings.setAll?_eq`, `Engine.remembers_meet`,
`Engine.remembers_afterEvents`, `Engine.settings_follow_history`.
-/
import Mathlib.Data.Int.ModEq
import Mathlib.Data.List.DropRight
import ReportFilter.Engine

namespace ReportFilter

/-! ### What happens to the settings -/

/-- What happens to the settings. -/
inductive SettingsEvent where
  /-- The environment changes. -/
  | environment (e : Environment)
  /-- The kept settings are forgotten. -/
  | reset
  /-- The settings are asked for. -/
  | get
  /-- Single settings are overridden. -/
  | configure (overrides : List (String × Value))
  /-- The first day of the week is asked for. -/
  | weekStart
  /-- A query is made in the dialect of the settings. -/
  | query (parameterized : Bool)
  deriving DecidableEq, Repr

namespace Engine

/-- What an event does. -/
def meet (e : Engine) : SettingsEvent → Attempt Engine
  | .environment v => .done { e with settings := e.settings.setEnvironment v }
  | .reset => .done { e with settings := e.settings.reset }
  | .get => .done e.readSettings
  | .configure overrides => e.configure overrides
  | .weekStart => ⟨e.readSettings, e.weekStart.map fun _ => ()⟩
  | .query parameterized =>
    ⟨(e.newQuery none parameterized).2, (e.newQuery none parameterized).1.map fun _ => ()⟩

/-- The engine after several events, of which some may fail. -/
def afterEvents (e : Engine) (h : List SettingsEvent) : Engine :=
  h.foldl (fun e x => (e.meet x).state) e

theorem afterEvents_append (e : Engine) (h later : List SettingsEvent) :
    e.afterEvents (h ++ later) = (e.afterEvents h).afterEvents later :=
  List.foldl_append

end Engine

/-! ### What a history tells -/

namespace Settings

/-- The names of the settings. -/
def names : List String := ["first_day_of_week", "dialect"]

/-- Whether all overrides are of settings that there are. -/
def knows (os : List (String × Value)) : Bool := os.all fun o => names.contains o.1

/-- The values that overrides give to a name. -/
def valuesOf (name : String) (os : List (String × Value)) : List Value :=
  (os.filter fun o => o.1 == name).map (·.2)

/-- The settings with overrides in their places. The last one of a name counts. -/
def overridden (s : Settings) (os : List (String × Value)) : Settings where
  firstDay := (valuesOf "first_day_of_week" os).getLastD s.firstDay
  dialect := (valuesOf "dialect" os).getLastD s.dialect

end Settings

namespace SettingsEvent

/-- Whether the settings are read. -/
def isRead : SettingsEvent → Bool
  | environment _ | reset => false
  | get | configure _ | weekStart | query _ => true

/-- Whether the kept settings are forgotten. -/
def isReset : SettingsEvent → Bool
  | reset => true
  | environment _ | get | configure _ | weekStart | query _ => false

theorem isReset_of_isRead {x : SettingsEvent} (h : x.isRead = true) : x.isReset = false := by
  cases x with
  | environment | reset => cases h
  | get | configure | weekStart | query => rfl

/-- The environment that an event changes to. -/
def environment? : SettingsEvent → Option Environment
  | environment e => some e
  | reset | get | configure _ | weekStart | query _ => none

theorem environment?_of_isRead {x : SettingsEvent} (h : x.isRead = true) :
    x.environment? = none := by
  cases x with
  | environment | reset => cases h
  | get | configure | weekStart | query => rfl

/-- The overrides that an event makes: all of a call or none. -/
def overrides : SettingsEvent → List (String × Value)
  | configure os => if Settings.knows os then os else []
  | environment _ | reset | get | weekStart | query _ => []

end SettingsEvent

namespace SettingsHistory

/-- The environment after a history. -/
def environment (start : Environment) (h : List SettingsEvent) : Environment :=
  (h.filterMap SettingsEvent.environment?).getLastD start

/-- What has happened since the last reset. -/
def sinceReset (h : List SettingsEvent) : List SettingsEvent := h.rtakeWhile (!·.isReset)

/-- What had happened up to the last reset. -/
def untilReset (h : List SettingsEvent) : List SettingsEvent := h.rdropWhile (!·.isReset)

/-- Whether the settings have been read since the last reset. -/
def hasRead (h : List SettingsEvent) : Bool := (sinceReset h).any (·.isRead)

/-- The environment at the first read since the last reset; that of now, if there has been
none. -/
def source (start : Environment) (h : List SettingsEvent) : Environment :=
  environment start (untilReset h ++ (sinceReset h).takeWhile (!·.isRead))

/-- The overrides since the last reset, in order. -/
def overrides (h : List SettingsEvent) : List (String × Value) :=
  (sinceReset h).flatMap SettingsEvent.overrides

/-- The settings that a history leaves in use. -/
def inUse (start : Environment) (h : List SettingsEvent) : Settings :=
  (Settings.ofEnvironment (source start h)).1.overridden (overrides h)

theorem environment_concat (start : Environment) (h : List SettingsEvent) (x : SettingsEvent) :
    environment start (h ++ [x]) = x.environment?.getD (environment start h) := by
  unfold environment
  rw [List.filterMap_append]
  cases hx : x.environment? <;> simp [hx]

/-! A reset starts anew; every other event comes behind what has happened since. -/

theorem sinceReset_reset (h : List SettingsEvent) : sinceReset (h ++ [.reset]) = [] :=
  List.rtakeWhile_concat_neg _ _ _ (by decide)

section

variable (h : List SettingsEvent) {later : List SettingsEvent}

theorem sinceReset_append (hl : ∀ x ∈ later, x.isReset = false) :
    sinceReset (h ++ later) = sinceReset h ++ later := by
  unfold sinceReset List.rtakeWhile
  rw [List.reverse_append, List.takeWhile_append_of_pos fun x hx => ?_, List.reverse_append,
    List.reverse_reverse]
  rw [hl x (List.mem_reverse.mp hx)]
  rfl

theorem untilReset_append (hl : ∀ x ∈ later, x.isReset = false) :
    untilReset (h ++ later) = untilReset h := by
  unfold untilReset List.rdropWhile
  rw [List.reverse_append, List.dropWhile_append_of_pos fun x hx => ?_]
  rw [hl x (List.mem_reverse.mp hx)]
  rfl

theorem overrides_append (hl : ∀ x ∈ later, x.isReset = false) :
    overrides (h ++ later) = overrides h ++ later.flatMap SettingsEvent.overrides := by
  rw [overrides, sinceReset_append h hl, List.flatMap_append]
  rfl

theorem hasRead_append (hl : ∀ x ∈ later, x.isReset = false) :
    hasRead (h ++ later) = (hasRead h || later.any (·.isRead)) := by
  rw [hasRead, sinceReset_append h hl, List.any_append]
  rfl

/-- What comes behind the first read does not change where the settings are from. -/
theorem source_append (start : Environment) (hl : ∀ x ∈ later, x.isReset = false)
    (hr : hasRead h = true) : source start (h ++ later) = source start h := by
  have hread : ¬ ∀ x ∈ sinceReset h, (!x.isRead) = true := by
    obtain ⟨x, hx, hxr⟩ := List.any_eq_true.mp hr
    intro hall
    have := hall x hx
    rw [hxr] at this
    cases this
  have hshort : ((sinceReset h).takeWhile (!·.isRead)).length ≠ (sinceReset h).length := by
    intro hlen
    exact hread (List.takeWhile_eq_self_iff.mp
      ((List.takeWhile_prefix _).eq_of_length hlen))
  rw [source, sinceReset_append h hl, untilReset_append h hl, List.takeWhile_append,
    if_neg hshort]
  rfl

end

theorem isRead_eq_false_of_unread {h : List SettingsEvent} (hr : hasRead h = false) :
    ∀ x ∈ sinceReset h, (!x.isRead) = true := by
  intro x hx
  rw [Bool.eq_false_iff.mpr (List.any_eq_false.mp hr x hx)]
  rfl

/-- Before the first read the settings are those of the environment of now. -/
theorem source_of_unread (start : Environment) {h : List SettingsEvent} (hr : hasRead h = false) :
    source start h = environment start h := by
  rw [source, List.takeWhile_eq_self_iff.mpr (isRead_eq_false_of_unread hr), untilReset, sinceReset,
    List.rdropWhile_append_rtakeWhile]

/-- Before the first read nothing is overridden. -/
theorem overrides_of_unread {h : List SettingsEvent} (hr : hasRead h = false) :
    overrides h = [] := by
  rw [overrides, List.flatMap_eq_nil_iff]
  intro x hx
  have hxr := List.any_eq_false.mp hr x hx
  cases x with
  | environment | reset => rfl
  | get | configure | weekStart | query => exact absurd rfl hxr

/-- A read takes up the environment of now, if it is the first. -/
theorem source_concat_of_read (start : Environment) (h : List SettingsEvent) {x : SettingsEvent}
    (hx : x.isRead = true) : source start (h ++ [x]) = source start h := by
  have hreset : ∀ y ∈ [x], y.isReset = false :=
    List.forall_mem_singleton.mpr (SettingsEvent.isReset_of_isRead hx)
  by_cases hr : hasRead h = true
  · exact source_append h start hreset hr
  · have hunread := isRead_eq_false_of_unread (Bool.eq_false_iff.mpr hr)
    have hstop : [x].takeWhile (!·.isRead) = [] := by simp [hx]
    rw [source, source, sinceReset_append h hreset, untilReset_append h hreset,
      List.takeWhile_append_of_pos hunread, hstop, List.append_nil,
      List.takeWhile_eq_self_iff.mpr hunread]

end SettingsHistory

/-! ### Overrides -/

namespace Settings

theorem overridden_nil (s : Settings) : s.overridden [] = s := rfl

theorem overridden_append (s : Settings) (os later : List (String × Value)) :
    s.overridden (os ++ later) = (s.overridden os).overridden later := by
  have hlast : ∀ (name : String) (v : Value), (valuesOf name (os ++ later)).getLastD v =
      (valuesOf name later).getLastD ((valuesOf name os).getLastD v) := by
    intro name v
    simp only [valuesOf, List.filter_append, List.map_append, List.getLastD_eq_getLast?,
      List.getLast?_append]
    cases ((later.filter fun o => o.1 == name).map (·.2)).getLast? <;> rfl
  simp only [overridden, hlast]

/-- One override is made if there is such a setting. -/
theorem set?_eq (s : Settings) (o : String × Value) :
    s.set? o = if names.contains o.1 then some (s.overridden [o]) else none := by
  obtain ⟨name, v⟩ := o
  by_cases hday : name = "first_day_of_week"
  · subst hday
    rfl
  · by_cases hdialect : name = "dialect"
    · subst hdialect
      rfl
    · have hnone : s.set? (name, v) = none := by
        unfold set?
        split <;> simp_all
      rw [hnone, if_neg (by simp [names, hday, hdialect])]

/-- **Overrides are made all or none**: all of them if there is a setting for each. -/
theorem setAll?_eq (s : Settings) (os : List (String × Value)) :
    s.setAll? os = if knows os then some (s.overridden os) else none := by
  induction os generalizing s with
  | nil => rfl
  | cons o os ih =>
    have hcons : s.setAll? (o :: os) = (s.set? o).bind fun s => s.setAll? os := rfl
    rw [hcons, set?_eq, knows, List.all_cons]
    by_cases ho : names.contains o.1 = true
    · rw [if_pos ho, Option.bind_some, ih, ho, Bool.true_and, ← overridden_append]
      rfl
    · rw [if_neg ho, Option.bind_none, Bool.eq_false_iff.mpr ho, Bool.false_and]
      rfl

end Settings

/-! ### What a store remembers -/

namespace SettingsStore

open SettingsHistory

/-- **The store is what a history tells**: the environment of now, and the settings in use if
they have been read since the last reset. -/
structure Remembers (start : Environment) (h : List SettingsEvent) (s : SettingsStore) : Prop where
  environment : s.environment = SettingsHistory.environment start h
  kept : s.kept = if hasRead h then some (inUse start h) else none

variable {start : Environment} {h : List SettingsEvent} {s : SettingsStore}

theorem remembers_fresh (start : Environment) : Remembers start [] (.fresh start) := ⟨rfl, rfl⟩

/-- A read finds the settings that the history tells. -/
theorem Remembers.current (hs : Remembers start h s) : s.current = inUse start h := by
  have hkept := hs.kept
  unfold SettingsStore.current SettingsStore.read
  by_cases hr : hasRead h = true
  · rw [hkept, if_pos hr]
  · have hunread := Bool.eq_false_iff.mpr hr
    rw [hkept, if_neg hr, inUse, source_of_unread start hunread, overrides_of_unread hunread,
      ← hs.environment]
    rfl

theorem environment_afterRead (s : SettingsStore) : s.afterRead.environment = s.environment := by
  obtain ⟨e, kept, w⟩ := s
  cases kept <;> rfl

theorem kept_afterRead (s : SettingsStore) : s.afterRead.kept = some s.current := by
  obtain ⟨e, kept, w⟩ := s
  cases kept <;> rfl

/-- A read with overrides takes them into the settings in use. -/
theorem remembers_of_read (hs : Remembers start h s) {x : SettingsEvent} (hx : x.isRead = true)
    {s' : SettingsStore} (henv : s'.environment = s.environment)
    (hkept : s'.kept = some (s.current.overridden x.overrides)) :
    Remembers start (h ++ [x]) s' := by
  have hreset : ∀ y ∈ [x], y.isReset = false :=
    List.forall_mem_singleton.mpr (SettingsEvent.isReset_of_isRead hx)
  refine ⟨?_, ?_⟩
  · rw [henv, hs.environment, environment_concat, SettingsEvent.environment?_of_isRead hx]
    rfl
  · have hread : hasRead (h ++ [x]) = true := by
      rw [hasRead_append h hreset, List.any_cons, hx, Bool.true_or, Bool.or_true]
    rw [hkept, hs.current, if_pos hread, inUse, inUse, source_concat_of_read start h hx,
      overrides_append h hreset, Settings.overridden_append]
    simp

/-- A change of the environment stays outside what is kept. -/
theorem Remembers.setEnvironment (hs : Remembers start h s) (v : Environment) :
    Remembers start (h ++ [.environment v]) (s.setEnvironment v) := by
  have hreset : ∀ y ∈ [SettingsEvent.environment v], y.isReset = false :=
    List.forall_mem_singleton.mpr rfl
  refine ⟨by rw [environment_concat]; rfl, ?_⟩
  have hread : hasRead (h ++ [.environment v]) = hasRead h := by
    rw [hasRead_append h hreset]
    exact Bool.or_false _
  rw [hread, SettingsStore.setEnvironment, hs.kept]
  by_cases hr : hasRead h = true
  · rw [if_pos hr, if_pos hr, inUse, inUse, source_append h start hreset hr,
      overrides_append h hreset]
    simp [SettingsEvent.overrides]
  · rw [if_neg hr, if_neg hr]

theorem Remembers.reset (hs : Remembers start h s) : Remembers start (h ++ [.reset]) s.reset := by
  refine ⟨by rw [environment_concat]; exact hs.environment, ?_⟩
  rw [hasRead, sinceReset_reset]
  rfl

/-- Overrides are taken if all of them are settings; the settings are read in any case. -/
theorem configure_eq (s : SettingsStore) (os : List (String × Value)) :
    s.configure os = if Settings.knows os then
      .done { s.afterRead with kept := some (s.current.overridden os) }
    else .fail s.afterRead .unknownOption := by
  have hread : s.read = (s.current, s.afterRead) := rfl
  simp only [configure, hread, Settings.setAll?_eq]
  by_cases hos : Settings.knows os = true
  · simp only [if_pos hos]
  · simp only [if_neg hos]

theorem Remembers.configure (hs : Remembers start h s) (os : List (String × Value)) :
    Remembers start (h ++ [.configure os]) (s.configure os).state := by
  rw [configure_eq]
  by_cases hos : Settings.knows os = true
  · rw [if_pos hos]
    refine remembers_of_read hs rfl (environment_afterRead s) ?_
    rw [SettingsEvent.overrides, if_pos hos]
    rfl
  · rw [if_neg hos]
    refine remembers_of_read hs rfl (environment_afterRead s) ?_
    rw [SettingsEvent.overrides, if_neg hos, Settings.overridden_nil]
    exact kept_afterRead s

end SettingsStore

namespace Engine

open SettingsHistory

variable {start : Environment} {h : List SettingsEvent} {e : Engine}

theorem failure?_configure (e : Engine) (os : List (String × Value)) :
    (e.configure os).failure? = if Settings.knows os then none else some .unknownOption := by
  rw [configure, SettingsStore.configure_eq]
  by_cases hos : Settings.knows os = true
  · rw [if_pos hos, if_pos hos]
    rfl
  · rw [if_neg hos, if_neg hos]
    rfl

/-- A read that overrides nothing keeps the settings in use. -/
theorem remembers_readSettings (hs : e.settings.Remembers start h) {x : SettingsEvent}
    (hx : x.isRead = true) (ho : x.overrides = []) :
    e.readSettings.settings.Remembers start (h ++ [x]) := by
  refine SettingsStore.remembers_of_read hs hx (SettingsStore.environment_afterRead _) ?_
  rw [ho, Settings.overridden_nil]
  exact SettingsStore.kept_afterRead _

/-- **Every event leaves the store as its history tells.** -/
theorem remembers_meet (hs : e.settings.Remembers start h) (x : SettingsEvent) :
    (e.meet x).state.settings.Remembers start (h ++ [x]) := by
  cases x with
  | environment v => exact hs.setEnvironment v
  | reset => exact hs.reset
  | configure os => exact hs.configure os
  | get => exact remembers_readSettings hs rfl rfl
  | weekStart => exact remembers_readSettings hs rfl rfl
  | query parameterized => exact remembers_readSettings hs rfl rfl

/-- **So does every history**, from a store that nothing has been read into. -/
theorem remembers_afterEvents (e : Engine) (start : Environment) (h : List SettingsEvent) :
    (({ e with settings := .fresh start } : Engine).afterEvents h).settings.Remembers start h := by
  induction h using List.reverseRecOn with
  | nil => exact SettingsStore.remembers_fresh start
  | append_singleton h x ih =>
    rw [afterEvents_append]
    exact remembers_meet ih x

end Engine

/-! ### Changes of the environment -/

namespace SettingsHistory

/-- Once the settings have been read, changes of the environment can be left out up to the
next reset. -/
theorem inUse_filter (start : Environment) {h later : List SettingsEvent}
    (hr : hasRead h = true) (hl : ∀ x ∈ later, x.isReset = false) :
    inUse start (h ++ later) =
      inUse start (h ++ later.filter fun x => x.environment?.isNone) := by
  have hfilter : ∀ x ∈ later.filter fun x => x.environment?.isNone, x.isReset = false :=
    fun x hx => hl x (List.mem_of_mem_filter hx)
  have hflat : ∀ xs : List SettingsEvent,
      (xs.filter fun x => x.environment?.isNone).flatMap SettingsEvent.overrides =
        xs.flatMap SettingsEvent.overrides := by
    intro xs
    induction xs with
    | nil => rfl
    | cons x xs ih =>
      cases x with
      | environment v => exact ih
      | reset | get | configure | weekStart | query =>
        exact congrArg (SettingsEvent.overrides _ ++ ·) ih
  rw [inUse, inUse, source_append h start hl hr, source_append h start hfilter hr,
    overrides_append h hl, overrides_append h hfilter, hflat]

end SettingsHistory

/-! ### The first day of the week -/

namespace Settings

/-- The environment gives a first day from 0 to 6, whatever its text is. -/
theorem firstDay_ofEnvironment (e : Environment) :
    ∃ n, (ofEnvironment e).1.firstDay = .int n ∧ 0 ≤ n ∧ n ≤ 6 :=
  ⟨(firstDayOf e.firstDay).1 % 7, rfl, by omega, by omega⟩

/-- An integer, or a truth value, counts by seven. -/
theorem weekStart_of_toInt? {s : Settings} {n : Int} (h : s.firstDay.toInt? = some n) :
    s.weekStart = .ok (.int (n % 7)) := by
  unfold weekStart
  cases hv : s.firstDay with
  | int m =>
    rw [hv] at h
    cases h
    rfl
  | bool b =>
    rw [hv] at h
    cases h
    cases b <;> rfl
  | none | float | decimal | text | date | timestamp =>
    rw [hv] at h
    cases h

/-- Overrides that are integers leave an integer. -/
theorem exists_toInt?_overridden {s : Settings} {os : List (String × Value)} {n : Int}
    (hs : s.firstDay = .int n)
    (ho : ∀ v ∈ valuesOf "first_day_of_week" os, ∃ m, v.toInt? = some m) :
    ∃ m, (s.overridden os).firstDay.toInt? = some m := by
  show ∃ m, ((valuesOf "first_day_of_week" os).getLastD s.firstDay).toInt? = some m
  rcases List.eq_nil_or_concat' (valuesOf "first_day_of_week" os) with hnil | ⟨vs, v, hvs⟩
  · rw [hnil]
    exact ⟨n, congrArg Value.toInt? hs⟩
  · rw [hvs] at ho ⊢
    rw [List.getLastD_concat]
    exact ho v (by simp)

end Settings

namespace Engine

open SettingsHistory

/-- **The settings in use follow their history.** They are those of the environment at the
first read since the last reset, with the accepted overrides since then in order; overrides
are refused for an unknown name and only then. Behind the first read, changes of the
environment make no difference before the next reset. The environment gives a first day of
the week from 0 to 6; as long as it is overridden by integers only, the one in use is from
0 to 6 and counts the stored one by seven. -/
theorem settings_follow_history (e : Engine) (start : Environment) (h : List SettingsEvent) :
    let now := ({ e with settings := .fresh start } : Engine).afterEvents h
    now.settings.current = inUse start h ∧
    (∀ os, (now.configure os).failure? =
      if Settings.knows os then none else some .unknownOption) ∧
    (hasRead h = true → ∀ later, (∀ x ∈ later, x.isReset = false) →
      (now.afterEvents later).settings.current =
        (now.afterEvents (later.filter fun x => x.environment?.isNone)).settings.current) ∧
    (∀ v : Environment, ∃ n,
      (Settings.ofEnvironment v).1.firstDay = .int n ∧ 0 ≤ n ∧ n ≤ 6) ∧
    ((∀ v ∈ Settings.valuesOf "first_day_of_week" (overrides h), ∃ m, v.toInt? = some m) →
      ∃ n k, now.settings.current.firstDay.toInt? = some n ∧ now.weekStart = .ok (.int k) ∧
        0 ≤ k ∧ k ≤ 6 ∧ k ≡ n [ZMOD 7]) := by
  intro now
  have hnow : ∀ later, (now.afterEvents later).settings.current = inUse start (h ++ later) := by
    intro later
    rw [← afterEvents_append]
    exact (remembers_afterEvents e start (h ++ later)).current
  have hcurrent : now.settings.current = inUse start h :=
    (remembers_afterEvents e start h).current
  refine ⟨hcurrent, failure?_configure now, fun hr later hl => ?_,
    Settings.firstDay_ofEnvironment, fun hints => ?_⟩
  · rw [hnow, hnow, inUse_filter start hr hl]
  · obtain ⟨m, hm, -⟩ := Settings.firstDay_ofEnvironment (source start h)
    obtain ⟨n, hn⟩ := Settings.exists_toInt?_overridden hm hints
    change (inUse start h).firstDay.toInt? = some n at hn
    rw [← hcurrent] at hn
    exact ⟨n, n % 7, hn, Settings.weekStart_of_toInt? hn, Int.emod_nonneg n (by decide),
      by omega, Int.mod_modEq n 7⟩

/-- The first day is read before the environment changes. Of three calls with overrides one
has an unknown name, and the last one sets a day above six. -/
theorem settings_follow_history_refused :
    let e := Engine.standard ⟨none, none⟩ ⟨2024, 1, 17, by decide, by decide, by decide, by decide⟩
    let h : List SettingsEvent := [.get, .reset, .environment ⟨some "10", none⟩, .weekStart,
      .environment ⟨some "4", some "mysql"⟩, .configure [("dialect", .text "sqlite")],
      .configure [("first_day_of_week", .int 2), ("colour", .none)],
      .configure [("first_day_of_week", .int 13)]]
    let later : List SettingsEvent := [.environment ⟨none, none⟩, .query false]
    let now := ({ e with settings := .fresh ⟨some "9", none⟩ } : Engine).afterEvents h
    hasRead h = true ∧ (∀ x ∈ later, x.isReset = false) ∧
      (∀ v ∈ Settings.valuesOf "first_day_of_week" (overrides h), ∃ m, v.toInt? = some m) ∧
      source ⟨some "9", none⟩ h = ⟨some "10", none⟩ ∧
      now.settings.current = ⟨.int 13, .text "sqlite"⟩ ∧
      (now.configure [("colour", .none)]).failure? = some .unknownOption ∧
      (now.afterEvents later).settings.current = (now.afterEvents [.query false]).settings.current ∧
      ∃ k, now.weekStart = .ok (.int k) ∧ 0 ≤ k ∧ k ≤ 6 ∧ k ≡ 13 [ZMOD 7] := by
  intro e h later now
  have hread : hasRead h = true := by decide
  have hlater : ∀ x ∈ later, x.isReset = false := by decide
  have hints : ∀ v ∈ Settings.valuesOf "first_day_of_week" (overrides h),
      ∃ m, v.toInt? = some m := by
    intro v hv
    have hall : Settings.valuesOf "first_day_of_week" (overrides h) = [.int 13] := by decide
    rw [hall, List.mem_singleton] at hv
    exact ⟨13, by rw [hv]; rfl⟩
  obtain ⟨hcurrent, hrefused, hignored, -, hweek⟩ :=
    settings_follow_history e ⟨some "9", none⟩ h
  have hinUse : inUse ⟨some "9", none⟩ h = ⟨.int 13, .text "sqlite"⟩ := by decide
  obtain ⟨n, k, hn, hk, hlo, hhi, hmod⟩ := hweek hints
  rw [hcurrent, hinUse] at hn
  cases hn
  exact ⟨hread, hlater, hints, by decide, hcurrent.trans hinUse, hrefused _,
    hignored hread later hlater, k, hk, hlo, hhi, hmod⟩

end Engine

end ReportFilter
