/-
# Settings

Two settings: the first day of the week, numbered from Sunday as 0, and the
dialect of queries that name none. They come from two variables of the
environment. The first read keeps them; later changes of the environment count
only after a reset. Overrides replace single settings of the kept ones.

A first day that is no integer stands for Monday, with a warning. An override
may put any value in its place, of which the remainder by seven is used.

Key definitions: `Settings`, `Settings.ofEnvironment`, `Settings.weekStart`,
`SettingsStore`, `SettingsStore.read`, `SettingsStore.configure`.
-/
import ReportFilter.Attempt
import ReportFilter.Text.Grouped
import ReportFilter.WeekStart

namespace ReportFilter

/-- The variables of the environment that the settings come from. -/
structure Environment where
  firstDay : Option String
  dialect : Option String
  deriving DecidableEq, Repr

/-- The settings. Overrides may put any value in. -/
structure Settings where
  firstDay : Value
  dialect : Value
  deriving DecidableEq, Repr

namespace Settings

/-! ### Settings from the environment -/

/-- The first day of the week when the environment has none: Monday. -/
def defaultFirstDay : Int := 1

/-- The dialect when the environment has none. -/
def defaultDialect : String := "postgresql"

/-- What is logged about a first day that is no integer. -/
def firstDayWarning (raw : String) : String :=
  "PYREPORTOPS_FIRST_DAY_OF_WEEK=" ++ shownText raw ++ " is not an integer, assuming Monday"

/-- The first day of the week that a variable gives, and warnings. -/
def firstDayOf : Option String → Int × List String
  | none => (defaultFirstDay, [])
  | some raw =>
    match Text.integer? raw.toList with
    | some n => (n, [])
    | none => (defaultFirstDay, [firstDayWarning raw])

/-- The settings that an environment gives, and warnings. -/
def ofEnvironment (e : Environment) : Settings × List String :=
  let (firstDay, warnings) := firstDayOf e.firstDay
  (⟨.int (firstDay % 7), .text (e.dialect.getD defaultDialect)⟩, warnings)

/-- The first day of the week in use. -/
def weekStart (s : Settings) : Except Failure Value := s.firstDay.bySeven

/-- The settings with one replaced; there are two names. -/
def set? (s : Settings) : String × Value → Option Settings
  | ("first_day_of_week", v) => some { s with firstDay := v }
  | ("dialect", v) => some { s with dialect := v }
  | _ => none

/-- The settings with several replaced, if there is one for every name. -/
def setAll? (s : Settings) (overrides : List (String × Value)) : Option Settings :=
  overrides.foldlM set? s

end Settings

/-! ### The settings in use -/

/-- The environment, the settings that have been read from it or put in their
place, and the warnings that have been logged. -/
structure SettingsStore where
  environment : Environment
  kept : Option Settings
  warnings : List String
  deriving DecidableEq, Repr

namespace SettingsStore

/-- Nothing read yet. -/
def fresh (e : Environment) : SettingsStore := ⟨e, none, []⟩

/-- The settings of the environment, whatever is kept. -/
def fromEnvironment (s : SettingsStore) : Settings × SettingsStore :=
  let (settings, warnings) := Settings.ofEnvironment s.environment
  (settings, { s with warnings := s.warnings ++ warnings })

/-- The settings in use, which are kept from then on. -/
def read (s : SettingsStore) : Settings × SettingsStore :=
  match s.kept with
  | some settings => (settings, s)
  | none =>
    let (settings, s) := s.fromEnvironment
    (settings, { s with kept := some settings })

/-- The settings in use. -/
def current (s : SettingsStore) : Settings := s.read.1

/-- The store after a read. -/
def afterRead (s : SettingsStore) : SettingsStore := s.read.2

/-- Overrides take the place of settings in use, all of them or none. The
settings are read in any case. -/
def configure (s : SettingsStore) (overrides : List (String × Value)) : Attempt SettingsStore :=
  let (settings, s) := s.read
  match settings.setAll? overrides with
  | some settings => .done { s with kept := some settings }
  | none => .fail s .unknownOption

/-- The kept settings are forgotten. -/
def reset (s : SettingsStore) : SettingsStore := { s with kept := none }

/-- The environment changes; kept settings stay. -/
def setEnvironment (s : SettingsStore) (e : Environment) : SettingsStore :=
  { s with environment := e }

end SettingsStore
end ReportFilter
