/-
# Filters on dates

The filters that compare a field with dates read the same values twice: the validator
reads all of them before anything is appended, and the behavior reads them again. The
two agree. A value that is there and is no date fails the filter in front of the
behavior, whatever the other values are, so that a blank value cannot hide it; values
that the validator accepts never fail the behavior for what they write; and without
blank ones they become one predicate, whether the operator states it itself or hands
the date to another (`Work.apply_dates`).

Key definitions: `Value.isMalformed`, `DateFilter`, `DateFilter.frame`, `Query.States`.
Key theorems: `Validator.checkDates_eq`, `Work.modifyWithin_of_blank`,
`Work.modify_of_moments`, `Work.apply_dates`.
-/
import ReportFilter.Proofs.Sentences

namespace ReportFilter

/-! ### Values read as dates -/

namespace Value

/-- Whether a value is there but does not read as a date. -/
def isMalformed (v : Value) : Bool :=
  match v.isBlank, DateInput.read v with
  | .ok false, .error _ => true
  | _, _ => false

theorem exists_plain {v : Value} (h : v.IsShort) : ∃ s, v.plain = .ok s := by
  cases v with
  | int n => exact ⟨_, if_neg (Nat.not_lt.mpr (h n rfl))⟩
  | none | bool _ | float _ | decimal _ | text _ | date _ | timestamp _ => exact ⟨_, rfl⟩

theorem exists_isBlank {v : Value} (h : v.IsShort) : ∃ b, v.isBlank = .ok b := by
  obtain ⟨s, hs⟩ := exists_plain h
  have hplain : (v.plain.map fun s => s.toList.all Text.isBlank) =
      .ok (s.toList.all Text.isBlank) := by
    rw [hs]
    rfl
  cases v with
  | none => exact ⟨true, rfl⟩
  | int _ | bool _ | float _ | decimal _ | text _ | date _ | timestamp _ => exact ⟨_, hplain⟩

end Value

namespace DateInput

/-- A value that is no date itself is read from its text. -/
theorem read_of_plain {v : Value} {s : String} (hv : Moment.ofValue? v = none)
    (hs : v.plain = .ok s) :
    read v = (readText? s.toList).elim (.error (.invalidDate v)) .ok := by
  cases h : readText? s.toList <;> simp only [read, hv, hs, bind, Except.bind, h, Option.elim]

/-- A value that has a text is a date, or reading it fails for no other reason than that
it is none. -/
theorem read_cases {v : Value} (h : v.IsShort) :
    (∃ m, read v = .ok m) ∨ read v = .error (.invalidDate v) := by
  obtain ⟨s, hs⟩ := Value.exists_plain h
  rcases hm : Moment.ofValue? v with _ | m
  · rw [read_of_plain hm hs]
    rcases readText? s.toList with _ | m
    · exact .inr rfl
    · exact .inl ⟨m, rfl⟩
  · refine .inl ⟨m, ?_⟩
    rw [read, hm]

end DateInput

theorem Value.isMalformed_of_blank {v : Value} (h : v.isBlank = .ok true) :
    v.isMalformed = false := by
  unfold isMalformed
  rw [h]

/-- A value that is there is malformed unless it reads as a date. -/
theorem Value.isMalformed_iff {v : Value} (h : v.IsShort) (hb : v.isBlank = .ok false) :
    (v.isMalformed = true ↔ DateInput.read v = .error (.invalidDate v)) ∧
      (v.isMalformed = false ↔ ∃ m, DateInput.read v = .ok m) := by
  unfold isMalformed
  rw [hb]
  rcases DateInput.read_cases h with ⟨m, hm⟩ | he
  · rw [hm]
    simp
  · rw [he]
    simp

/-- **The validator fails with the first malformed value**, and not otherwise. -/
theorem Validator.checkDates_eq : ∀ values : List Value, (∀ v ∈ values, v.IsShort) →
    checkDates values =
      match values.find? Value.isMalformed with
      | some v => .error (.invalidDate v)
      | none => .ok ()
  | [], _ => rfl
  | v :: values, h => by
    have hv := h v List.mem_cons_self
    have ih := checkDates_eq values fun u hu => h u (List.mem_cons_of_mem _ hu)
    obtain ⟨blank, hb⟩ := Value.exists_isBlank hv
    unfold checkDates
    rw [hb, ih]
    cases blank with
    | true =>
      rw [List.find?_cons_of_neg (by rw [Value.isMalformed_of_blank hb]; decide)]
      rfl
    | false =>
      obtain ⟨hbad, hgood⟩ := Value.isMalformed_iff hv hb
      rcases DateInput.read_cases hv with ⟨m, hm⟩ | he
      · rw [hm, List.find?_cons_of_neg (by rw [hgood.mpr ⟨m, hm⟩]; decide)]
        rfl
      · rw [he, List.find?_cons_of_pos (hbad.mpr he)]
        rfl

/-! ### The filters -/

/-- The built-in filters that compare a field with dates. -/
inductive DateFilter where
  | upTo
  | onOrAfter
  | on
  | between
  deriving DecidableEq, Repr

namespace DateFilter

/-- The name of a filter's operator. -/
def operator : DateFilter → String
  | upTo => "<d"
  | onOrAfter => ">d"
  | on => "=d"
  | between => "<>d"

/-- What a predicate says in front of the dates. -/
def head : DateFilter → String
  | upTo => " <= "
  | onOrAfter => " >= "
  | on => " IN ("
  | between => " BETWEEN "

/-- What a predicate says behind each of the dates. -/
def closers : DateFilter → List String
  | upTo | onOrAfter => [""]
  | on => [")"]
  | between => [" AND ", ""]

/-- How many dates a filter compares with. -/
def count (f : DateFilter) : Nat := f.closers.length

/-- What a filter says about a field and dates. -/
def frame (f : DateFilter) (field : String) (moments : List Moment) : Frame :=
  ⟨field ++ f.head, (moments.map Moment.toValue).zip f.closers⟩

/-- The values of what it says are the dates, in order. -/
theorem values_frame (f : DateFilter) (field : String) {moments : List Moment}
    (h : moments.length = f.count) :
    (f.frame field moments).values = moments.map Moment.toValue := by
  rw [frame, Frame.values, List.map_fst_zip]
  rw [List.length_map, h]
  exact Nat.le_refl _

/-- The behavior of a filter's operator. -/
def behavior : DateFilter → Behavior
  | between => .between
  | upTo | onOrAfter | on => .onDate

/-- The operator that a filter hands its date to. -/
def delegate : DateFilter → Option String
  | upTo => some "<="
  | onOrAfter => some ">="
  | on => some "="
  | between => none

theorem of_get? {f : DateFilter} {op : Operator}
    (h : Registry.standard.get? f.operator = some op) :
    op.validators = ["dates"] ∧ op.behavior = f.behavior ∧ op.delegate = f.delegate := by
  have hall : (Registry.standard.get? f.operator).all
      (fun op => op.validators = ["dates"] ∧ op.behavior = f.behavior ∧
        op.delegate = f.delegate) = true := by
    cases f <;> decide
  rw [h] at hall
  exact of_decide_eq_true hall

theorem readsSettings_of_delegate {f : DateFilter} {name : String} {next : Operator}
    (hf : f.delegate = some name) (hget : Registry.standard.get? name = some next) :
    next.behavior.readsSettings = false := by
  have hall : (f.delegate.bind Registry.standard.get?).all
      (fun next => next.behavior.readsSettings = false) = true := by
    cases f <;> decide
  rw [hf, Option.bind_some, hget] at hall
  exact of_decide_eq_true hall

theorem accepts_iff (f : DateFilter) (n : Nat) :
    f.behavior.accepts n = true ↔ n = f.count := by
  rw [Behavior.accepts_iff]
  cases f <;> simp [behavior, Behavior.counts, count, closers] <;> omega

end DateFilter

/-- A query with one more predicate that says what a frame says: inline with the values
as literals, otherwise with bind parameters for them, which are kept. -/
def Query.States (q : Query) (f : Frame) (q' : Query) : Prop :=
  if q.parameterized then
    q' = { q with
      predicates := q.predicates ++ [f.numbered q.dialect q.parameters.length]
      parameters := q.parameters ++ f.values }
  else ∃ predicate, f.inline q.dialect = .ok predicate ∧
    q' = { q with predicates := q.predicates ++ [predicate] }

/-- A frame of values that have literals is stated. -/
theorem Query.exists_states (q : Query) {f : Frame} (h : ∀ v ∈ f.values, v.IsShort) :
    ∃ q', q.States f q' ∧ q.append f.clause = .done q' := by
  obtain ⟨predicate, hin⟩ := Frame.exists_inline q.dialect h
  unfold States
  rw [append_clause, hin]
  by_cases hp : q.parameterized = true
  · rw [if_pos hp]
    exact ⟨_, (if_pos hp).mpr rfl, rfl⟩
  · rw [if_neg hp]
    exact ⟨q.push predicate, (if_neg hp).mpr ⟨predicate, rfl, rfl⟩, rfl⟩

/-! ### What a filter does with values that the validator accepts -/

namespace Situation

theorem decideOnDate_of_blank {s : Situation} {value : Value} (h : value.isBlank = .ok true) :
    s.decideOnDate value = .ok .skip := by
  rw [decideOnDate, h]
  rfl

theorem decideBetween_of_blank {a b : Value} (ha : a.IsShort)
    (h : a.isBlank = .ok true ∨ b.isBlank = .ok true) : decideBetween a b = .ok .skip := by
  obtain ⟨blank, hblank⟩ := Value.exists_isBlank ha
  rw [decideBetween, hblank]
  cases blank with
  | true => rfl
  | false =>
    have hb : b.isBlank = .ok true := h.resolve_left (by rw [hblank]; simp)
    rw [hb]
    rfl

theorem decideOnDate_of_moment {s : Situation} {value : Value} {target : String} {m : Moment}
    (hb : value.isBlank = .ok false) (hl : s.operator.linked = .ok target)
    (hm : DateInput.read value = .ok m) :
    s.decideOnDate value = .ok (.handOver false [m.toValue]) := by
  rw [decideOnDate, hb, hl, hm]
  rfl

theorem decideBetween_of_moments {a b : Value} {first last : Moment}
    (ha : a.isBlank = .ok false) (hb : b.isBlank = .ok false)
    (hfirst : DateInput.read a = .ok first) (hlast : DateInput.read b = .ok last) :
    decideBetween a b = .ok (.append (.between first last)) := by
  rw [decideBetween, ha, hb, hfirst, hlast]
  rfl

end Situation

namespace DateFilter

/-- **The delegate states what the filter says** about the date that it is handed. -/
theorem decide_delegate {f : DateFilter} {name : String} {next : Operator}
    (hf : f.delegate = some name) (hget : Registry.standard.get? name = some next)
    {s : Situation} (hs : s.operator = next) (d : Dialect) (field : String) (m : Moment) :
    ∃ c : Condition, next.behavior.decide s field [m.toValue] = .append c ∧
      c.clause d field = (f.frame field [m]).clause := by
  have hstates : ∀ sentence, Catalogue.sentences.lookup name = some sentence →
      next.states sentence = true := by
    intro sentence hsentence
    obtain ⟨sentence', hlookup, hstates, -⟩ := Registry.states_of_get? hget
    rwa [Option.some.inj (hsentence.symm.trans hlookup)]
  have hcompare : ∀ sign, Catalogue.sentences.lookup name = some (.comparison sign) →
      ∃ c : Condition, next.behavior.decide s field [m.toValue] = .append c ∧
        c.clause d field = (Frame.compared field (" " ++ sign ++ " ") m.toValue).clause := by
    intro sign hsentence
    obtain ⟨hb, ht, hc, hplain⟩ := of_decide_eq_true (hstates _ hsentence)
    subst hs
    refine ⟨.stated ⟨Fragment.escape field ++ (" " ++ sign ++ " ") ++ "%s", [m.toValue]⟩, ?_,
      (Frame.clause_compared (by simpa using hplain) field _).symm⟩
    rw [hb, Behavior.decide, Behavior.accepts_of_rest rfl]
    show Decision.ofExcept (s.decideTemplate field [m.toValue]) = _
    rw [Situation.decideTemplate_comparing _ field _ ht, hc]
    rfl
  cases f with
  | between => cases hf
  | upTo =>
    cases hf
    exact hcompare "<=" (by decide)
  | onOrAfter =>
    cases hf
    exact hcompare ">=" (by decide)
  | on =>
    cases hf
    have hb : next.behavior = .equals := of_decide_eq_true (hstates .among (by decide))
    refine ⟨.oneOf [m.toValue], ?_, Condition.clause_oneOf d field (by simp)⟩
    rw [hb, Behavior.decide, Behavior.accepts_of_rest rfl]
    cases m <;> rfl

end DateFilter

namespace Work

variable {w : Work} {f : DateFilter} {op : Operator} {field : String} {values : List Value}

theorem ready_of_dates (h : op.behavior = f.behavior) (values : List Value) :
    w.ready op values = w :=
  w.ready_of_no_settings (by rw [h]; cases f <;> rfl) values

theorem modifyWithin_of_skip
    (h : op.behavior.decide (w.engine.situation op) field values = .skip) (steps : Nat) :
    modifyWithin (steps + 1) op field values w = .done (w.ready op values) := by
  rw [modifyWithin_succ, h, append_of_no_conditions _ field rfl, Attempt.andThen_done]
  rfl

/-- **A blank value among as many as the filter takes asks for nothing.** -/
theorem modifyWithin_of_blank (hget : Registry.standard.get? f.operator = some op)
    (hlen : values.length = f.count) (hshort : ∀ v ∈ values, v.IsShort)
    (hblank : ∃ v ∈ values, v.isBlank = .ok true) (steps : Nat) :
    modifyWithin (steps + 1) op field values w = .done w := by
  obtain ⟨-, hb, -⟩ := DateFilter.of_get? hget
  have hskip : op.behavior.decide (w.engine.situation op) field values = .skip := by
    rw [hb]
    obtain ⟨v, hv, hblank⟩ := hblank
    cases f with
    | upTo | onOrAfter | on =>
      obtain ⟨value, rfl⟩ := List.length_eq_one_iff.mp hlen
      cases List.mem_singleton.mp hv
      exact congrArg Decision.ofExcept (Situation.decideOnDate_of_blank hblank)
    | between =>
      obtain ⟨a, b, rfl⟩ := List.length_eq_two.mp hlen
      have hor : a.isBlank = .ok true ∨ b.isBlank = .ok true := by
        rcases List.mem_pair.mp hv with rfl | rfl
        · exact .inl hblank
        · exact .inr hblank
      exact congrArg Decision.ofExcept
        (Situation.decideBetween_of_blank (hshort a List.mem_cons_self) hor)
  rw [modifyWithin_of_skip hskip, ready_of_dates hb]

/-- **Dates become one predicate** that says what the filter says, through the delegate
where there is one. -/
theorem modifyWithin_of_moments (hr : w.engine.registry = .standard)
    (hget : Registry.standard.get? f.operator = some op) (hlen : values.length = f.count)
    (hthere : ∀ v ∈ values, v.isBlank = .ok false) {moments : List Moment}
    (hread : values.mapM DateInput.read = .ok moments) (steps : Nat) :
    modifyWithin (steps + 2) op field values w =
      w.withQuery (w.query.append (f.frame field moments).clause) := by
  obtain ⟨-, hb, hdelegate⟩ := DateFilter.of_get? hget
  have hready := ready_of_dates (w := w) hb values
  cases f with
  | between =>
    obtain ⟨a, b, rfl⟩ := List.length_eq_two.mp hlen
    rw [List.mapM_cons, List.mapM_cons, List.mapM_nil] at hread
    obtain ⟨first, hfirst, h⟩ := exists_of_bind_eq_ok hread
    obtain ⟨rest, hrest, h⟩ := exists_of_bind_eq_ok h
    obtain ⟨last, hlast, hnil⟩ := exists_of_bind_eq_ok hrest
    cases hnil
    cases h
    have hd : op.behavior.decide (w.engine.situation op) field [a, b] =
        .append (.between first last) := by
      rw [hb]
      exact congrArg Decision.ofExcept (Situation.decideBetween_of_moments
        (hthere a (by simp)) (hthere b (by simp)) hfirst hlast)
    rw [modifyWithin_of_append hd, hready, Condition.clause_between]
    rfl
  | upTo | onOrAfter | on =>
    obtain ⟨value, rfl⟩ := List.length_eq_one_iff.mp hlen
    rw [List.mapM_cons, List.mapM_nil] at hread
    obtain ⟨m, hm, h⟩ := exists_of_bind_eq_ok hread
    cases h
    -- the delegate is a built-in operator, to which the operator has been linked
    obtain ⟨next, hnext⟩ : ∃ next, op.delegate.bind Registry.standard.get? = some next := by
      rw [hdelegate]
      exact Option.isSome_iff_exists.mp (by decide)
    obtain ⟨target, hlinked⟩ := linked_of_delegate hnext
    obtain ⟨name, hname, hget'⟩ := Option.bind_eq_some_iff.mp hnext
    rw [hdelegate] at hname
    have hd : op.behavior.decide (w.engine.situation op) field [value] =
        .handOver false [m.toValue] := by
      rw [hb]
      exact congrArg Decision.ofExcept
        (Situation.decideOnDate_of_moment (hthere value (by simp)) hlinked hm)
    have ht : (w.ready op [value]).target op = .ok next := by
      rw [hready]
      exact target_of_delegate hr hnext
    obtain ⟨c, hdecide, hclause⟩ := DateFilter.decide_delegate hname hget' rfl w.query.dialect
      field m (s := w.engine.situation next)
    rw [modifyWithin_of_handOver hd ht, hready, modifyWithin_of_append hdecide, hclause,
      w.ready_of_no_settings (DateFilter.readsSettings_of_delegate hname hget')]

theorem validate_dates (hdates : w.engine.validators.get "dates" = .ok .dates)
    (hop : op.validators = ["dates"]) (values : List Value) :
    w.validate op values = ⟨w, Validator.checkDates values⟩ := by
  rw [validate, Engine.validate, hop, Validators.run, hdates]
  simp only [Validator.run, Attempt.andThen]
  rcases Validator.checkDates values with e | u <;> rfl

/-- Values that are there and of which none is malformed are dates. -/
theorem exists_moments (hshort : ∀ v ∈ values, v.IsShort)
    (hgood : values.find? Value.isMalformed = none) (hthere : ∀ v ∈ values, v.isBlank = .ok false) :
    ∃ moments, values.mapM DateInput.read = .ok moments := by
  induction values with
  | nil => exact ⟨[], rfl⟩
  | cons v values ih =>
    have hv := List.mem_cons_self (a := v) (l := values)
    obtain ⟨moments, hmoments⟩ := ih (fun u hu => hshort u (List.mem_cons_of_mem _ hu))
      (List.find?_eq_none.mpr fun u hu =>
        List.find?_eq_none.mp hgood u (List.mem_cons_of_mem _ hu))
      fun u hu => hthere u (List.mem_cons_of_mem _ hu)
    have hread := (Value.isMalformed_iff (hshort v hv) (hthere v hv)).2
    obtain ⟨m, hm⟩ := hread.mp (Bool.eq_false_iff.mpr (List.find?_eq_none.mp hgood v hv))
    refine ⟨m :: moments, ?_⟩
    rw [List.mapM_cons, hm, hmoments]
    rfl

/-- Dates are stated as one predicate. -/
theorem exists_modifyWithin_of_moments (hr : w.engine.registry = .standard)
    (hget : Registry.standard.get? f.operator = some op) (field : String)
    (hlen : values.length = f.count) (hthere : ∀ v ∈ values, v.isBlank = .ok false)
    {moments : List Moment} (hread : values.mapM DateInput.read = .ok moments) (steps : Nat) :
    ∃ q, w.query.States (f.frame field moments) q ∧
      modifyWithin (steps + 2) op field values w = .done { w with query := q } := by
  have hshort : ∀ v ∈ (f.frame field moments).values, v.IsShort := by
    rw [f.values_frame field ((length_of_mapM hread).trans hlen)]
    intro v hv n hn
    obtain ⟨m, -, rfl⟩ := List.mem_map.mp hv
    cases m <;> cases hn
  obtain ⟨q, hstates, happend⟩ := w.query.exists_states hshort
  refine ⟨q, hstates, ?_⟩
  rw [modifyWithin_of_moments hr hget hlen hthere hread, happend, withQuery_done]

theorem modify_of_moments (hr : w.engine.registry = .standard)
    (hget : Registry.standard.get? f.operator = some op) (field : String)
    (hlen : values.length = f.count)
    (hthere : ∀ v ∈ values, v.isBlank = .ok false) {moments : List Moment}
    (hread : values.mapM DateInput.read = .ok moments) :
    (f.frame field moments).values = moments.map Moment.toValue ∧
      ∃ q, w.query.States (f.frame field moments) q ∧
        w.modify op field values = .done { w with query := q } := by
  have hlimit : w.chainLimit = 77 + 2 := by
    rw [chainLimit, hr]
    decide
  refine ⟨f.values_frame field ((length_of_mapM hread).trans hlen), ?_⟩
  rw [modify, hlimit]
  exact exists_modifyWithin_of_moments hr hget field hlen hthere hread 77

/-- Another number of values than a filter takes fails it. -/
theorem modify_of_count (hr : w.engine.registry = .standard)
    (hget : Registry.standard.get? f.operator = some op) (field : String)
    (hlen : values.length ≠ f.count) :
    w.modify op field values = .fail w .valueCount := by
  obtain ⟨-, hb, -⟩ := DateFilter.of_get? hget
  obtain ⟨steps, hsteps⟩ := exists_chainLimit hr
  have haccepts : op.behavior.accepts values.length = false := by
    rw [hb, Bool.eq_false_iff]
    exact mt (f.accepts_iff values.length).mp hlen
  rw [modify, hsteps,
    modifyWithin_of_fail (Behavior.decide_of_not_accepts haccepts _ field), ready_of_dates hb]

/-- **A filter on dates keeps blank, malformed and valid values apart.** The first
malformed value fails it, whatever the others are. Otherwise another number of values
than it takes fails it, a blank value makes it ask for nothing, and dates become one
predicate with these dates, in order, for values; and what comes behind the validator
does not find a malformed value. A filter that fails leaves all as it was. -/
theorem apply_dates (hr : w.engine.registry = .standard)
    (hdates : w.engine.validators.get "dates" = .ok .dates)
    (hget : Registry.standard.get? f.operator = some op) (field : String)
    (hshort : ∀ v ∈ values, v.IsShort) :
    (∀ v, values.find? Value.isMalformed = some v →
      w.apply op field values = .fail w (.invalidDate v)) ∧
    (values.find? Value.isMalformed = none →
      (values.length ≠ f.count → w.apply op field values = .fail w .valueCount) ∧
      (values.length = f.count → (∃ v ∈ values, v.isBlank = .ok true) →
        w.apply op field values = .done w) ∧
      (values.length = f.count → (∀ v ∈ values, v.isBlank ≠ .ok true) →
        ∃ moments : List Moment, values.mapM DateInput.read = .ok moments ∧
          (f.frame field moments).values = moments.map Moment.toValue ∧
          ∃ q, w.query.States (f.frame field moments) q ∧
            w.apply op field values = .done { w with query := q }) ∧
      ∀ e, (w.modify op field values).outcome = .error e → e.kind ≠ .invalidDate) := by
  obtain ⟨hop, -, -⟩ := DateFilter.of_get? hget
  have hvalidate := validate_dates hdates hop values
  rw [Validator.checkDates_eq values hshort] at hvalidate
  refine ⟨fun v hv => ?_, fun hgood => ?_⟩
  · rw [apply, hvalidate, hv]
    rfl
  have happly : w.apply op field values = w.modify op field values := by
    rw [apply, hvalidate, hgood]
    rfl
  have hcount : values.length ≠ f.count → w.modify op field values = .fail w .valueCount :=
    modify_of_count hr hget field
  have hblank : values.length = f.count → (∃ v ∈ values, v.isBlank = .ok true) →
      w.modify op field values = .done w := by
    intro hlen hv
    obtain ⟨steps, hsteps⟩ := exists_chainLimit hr
    rw [modify, hsteps, modifyWithin_of_blank hget hlen hshort hv]
  have hthere : (∀ v ∈ values, v.isBlank ≠ .ok true) → ∀ v ∈ values, v.isBlank = .ok false := by
    intro hv v hmem
    obtain ⟨blank, hblank⟩ := Value.exists_isBlank (hshort v hmem)
    cases blank with
    | true => exact absurd hblank (hv v hmem)
    | false => exact hblank
  rw [happly]
  refine ⟨hcount, hblank, fun hlen hv => ?_, fun e he => ?_⟩
  · obtain ⟨moments, hread⟩ := exists_moments hshort hgood (hthere hv)
    exact ⟨moments, hread, modify_of_moments hr hget field hlen (hthere hv) hread⟩
  · by_cases hlen : values.length = f.count
    · by_cases hv : ∃ v ∈ values, v.isBlank = .ok true
      · rw [hblank hlen hv] at he
        cases he
      · have hv' : ∀ v ∈ values, v.isBlank ≠ .ok true := fun v hmem h => hv ⟨v, hmem, h⟩
        obtain ⟨moments, hread⟩ := exists_moments hshort hgood (hthere hv')
        obtain ⟨-, q, -, hdone⟩ := modify_of_moments hr hget field hlen (hthere hv') hread
        rw [hdone] at he
        cases he
    · rw [hcount hlen] at he
      cases he
      decide

/-- A malformed date that stands behind a blank one. -/
theorem apply_dates_behindBlank :
    let w : Work := ⟨.standard ⟨none, none⟩
      ⟨2024, 1, 17, by decide, by decide, by decide, by decide⟩, .empty .postgresql false⟩
    let values := [Value.text " ", .text "2024-02-30"]
    ∃ op : Operator, w.engine.registry = .standard ∧
      w.engine.validators.get "dates" = .ok .dates ∧
      Registry.standard.get? DateFilter.between.operator = some op ∧
      (∀ v ∈ values, v.IsShort) ∧
      values.find? Value.isMalformed = some (.text "2024-02-30") ∧
      w.apply op "created" values = .fail w (.invalidDate (.text "2024-02-30")) := by
  intro w values
  obtain ⟨op, hget⟩ := Option.isSome_iff_exists.mp
    (show (Registry.standard.get? DateFilter.between.operator).isSome = true by decide)
  have hshort : ∀ v ∈ values, v.IsShort := by decide
  have hfind : values.find? Value.isMalformed = some (.text "2024-02-30") := by decide
  have hr : w.engine.registry = .standard := rfl
  exact ⟨op, hr, rfl, hget, hshort, hfind,
    (apply_dates hr rfl hget "created" hshort).1 _ hfind⟩

end Work
end ReportFilter
