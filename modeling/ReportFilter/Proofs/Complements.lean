/-
# A filter and its complement

The filter `=` asks whether a field is one of the given values, and `!` whether it is
none of them. On a row whose field is NULL a comparison is neither true nor false, so
the negation of the one predicate would not hold there either; `!` therefore asks for
NULL as well. A value that is NULL itself would make `NOT IN` hold on no row at all
(`FieldTest.truth_notIn_of_null`), and both filters leave it out.

The predicates are trees of tests on one field, which are written down
(`FieldTest.frame`) and are true, false or unknown on a row (`FieldTest.truth`). How
the database reads the values and which of them it takes for equal is left open.

Key definitions: `Truth`, `Reading`, `FieldTest`, `FieldTest.frame`, `FieldTest.truth`.
Key theorems: `FieldTest.truth_complement`, `FieldTest.truth_notIn_of_null`,
`Dialect.literal_ne_null`, `Work.applyFilter_among`, `Work.applyFilter_notAmong`,
`Work.applyFilter_complement`.
-/
import ReportFilter.Proofs.DateFilters

namespace ReportFilter

/-! ### Three-valued logic -/

/-- A truth value of SQL. -/
inductive Truth where
  | no
  | unknown
  | yes
  deriving DecidableEq, Repr

namespace Truth

/-- The negation, which leaves unknown what is unknown. -/
def not : Truth → Truth
  | no => yes
  | unknown => unknown
  | yes => no

/-- The disjunction: the truer one of two. -/
def or : Truth → Truth → Truth
  | yes, _ | _, yes => yes
  | unknown, _ | _, unknown => unknown
  | no, no => no

@[simp] theorem not_eq_yes_iff {a : Truth} : a.not = yes ↔ a = no := by
  cases a <;> decide

@[simp] theorem or_eq_yes_iff {a b : Truth} : a.or b = yes ↔ a = yes ∨ b = yes := by
  cases a <;> cases b <;> decide

@[simp] theorem or_eq_no_iff {a b : Truth} : a.or b = no ↔ a = no ∧ b = no := by
  cases a <;> cases b <;> decide

end Truth

/-- Whether a value is a number that is not equal to itself. -/
def Value.isNaN : Value → Bool
  | float .nan | decimal (.nan ..) => true
  | _ => false

/-- How a database reads values and compares them. The missing value is NULL, and other
values are not, except perhaps those that are no number. -/
structure Reading (α : Type) where
  read : Value → Option α
  same : α → α → Bool
  read_none : read .none = none
  exists_read : ∀ v, v ≠ .none → v.isNaN = false → ∃ a, read v = some a

namespace Reading

variable {α : Type} (r : Reading α) (x : Option α)

/-- Whether a field equals a value: unknown if one of them is NULL. -/
def equal (v : Value) : Truth :=
  match x, r.read v with
  | some a, some b => if r.same a b then .yes else .no
  | _, _ => .unknown

/-- Whether a field equals one of several values. -/
def among : List Value → Truth
  | [] => .no
  | v :: vs => (r.equal x v).or (among vs)

/-- A database that compares values by their texts. -/
def ofTexts : Reading String where
  read
    | .none => none
    | v => some (v.plain.toOption.getD "")
  same a b := a == b
  read_none := rfl
  exists_read v hv _ := by
    cases v with
    | none => exact absurd rfl hv
    | bool | int | float | decimal | text | date | timestamp => exact ⟨_, rfl⟩

theorem equal_null (v : Value) : r.equal none v = .unknown := rfl

theorem equal_of_read_null {v : Value} (h : r.read v = none) : r.equal x v = .unknown := by
  unfold equal
  rw [h]
  cases x <;> rfl

theorem equal_ne_unknown {a b : α} {v : Value} (h : r.read v = some b) :
    r.equal (some a) v ≠ .unknown := by
  have hequal : r.equal (some a) v = if r.same a b then .yes else .no := by
    unfold equal
    rw [h]
  rw [hequal]
  split <;> decide

theorem among_eq_yes_iff : ∀ vs : List Value,
    r.among x vs = .yes ↔ ∃ v ∈ vs, r.equal x v = .yes
  | [] => by simp [among]
  | v :: vs => by
    rw [among, Truth.or_eq_yes_iff, among_eq_yes_iff vs, List.exists_mem_cons_iff]

theorem among_eq_no_iff : ∀ vs : List Value,
    r.among x vs = .no ↔ ∀ v ∈ vs, r.equal x v = .no
  | [] => by simp [among]
  | v :: vs => by
    rw [among, Truth.or_eq_no_iff, among_eq_no_iff vs, List.forall_mem_cons]

/-- A field that is not NULL equals one of values that are not, or none of them. -/
theorem among_eq_no_iff_ne_yes {vs : List Value} (hvs : ∀ v ∈ vs, ∃ b, r.read v = some b) (a : α) :
    r.among (some a) vs = .no ↔ r.among (some a) vs ≠ .yes := by
  rw [among_eq_no_iff, Ne, among_eq_yes_iff]
  constructor
  · rintro hno ⟨v, hv, hyes⟩
    rw [hno v hv] at hyes
    cases hyes
  · intro hyes v hv
    obtain ⟨b, hb⟩ := hvs v hv
    have hknown := r.equal_ne_unknown (a := a) hb
    cases h : r.equal (some a) v with
    | no => rfl
    | unknown => exact absurd h hknown
    | yes => exact absurd ⟨v, hv, h⟩ hyes

end Reading

/-! ### Tests on a field -/

/-- A test on a field, as SQL has it. -/
inductive FieldTest where
  | never
  | isNull
  | isIn (values : List Value)
  | notIn (values : List Value)
  | either (a b : FieldTest)
  deriving DecidableEq, Repr

namespace FieldTest

/-- The truth of a test on a row with the field `x`, which may be NULL. -/
def truth {α : Type} (r : Reading α) (x : Option α) : FieldTest → Truth
  | never => .no
  | isNull => if x.isNone then .yes else .no
  | isIn vs => r.among x vs
  | notIn vs => (r.among x vs).not
  | either a b => (a.truth r x).or (b.truth r x)

/-- The values in the lists of a test. -/
def listed : FieldTest → List Value
  | never | isNull => []
  | isIn vs | notIn vs => vs
  | either a b => a.listed ++ b.listed

variable {α : Type} (r : Reading α) (x : Option α)

/-- **To be NULL or not in a list is the complement of being in it**, unless there is a
NULL in the list. -/
theorem truth_complement {vs : List Value} (hvs : ∀ v ∈ vs, ∃ b, r.read v = some b) :
    (either isNull (notIn vs)).truth r x = .yes ↔ (isIn vs).truth r x ≠ .yes := by
  simp only [truth, Truth.or_eq_yes_iff, Truth.not_eq_yes_iff]
  cases x with
  | none =>
    have hnull : r.among none vs ≠ .yes := by
      rw [Ne, Reading.among_eq_yes_iff]
      rintro ⟨v, -, hv⟩
      rw [r.equal_null] at hv
      cases hv
    simp [hnull]
  | some a =>
    rw [r.among_eq_no_iff_ne_yes hvs]
    simp

/-- A NULL in the list of `NOT IN` leaves no row. -/
theorem truth_notIn_of_null {vs : List Value} (h : Value.none ∈ vs) :
    (notIn vs).truth r x ≠ .yes := by
  rw [truth, Ne, Truth.not_eq_yes_iff, Reading.among_eq_no_iff]
  intro hno
  have hnull := hno _ h
  rw [r.equal_of_read_null x r.read_none] at hnull
  cases hnull

end FieldTest

/-! ### Tests in writing -/

namespace Frame

/-- A text and slots with a frame behind them. -/
def before (head : String) : List (Value × String) → Frame → Frame
  | [], g => ⟨head ++ g.head, g.slots⟩
  | (v, t) :: slots, g =>
    let rest := before t slots g
    ⟨head, (v, rest.head) :: rest.slots⟩

/-- A frame with another one behind it. -/
def append (f g : Frame) : Frame := before f.head f.slots g

theorem values_before : ∀ (slots : List (Value × String)) (head : String) (g : Frame),
    (before head slots g).values = slots.map (·.1) ++ g.values
  | [], _, _ => rfl
  | (v, t) :: slots, head, g => by
    have ih := values_before slots t g
    unfold values at ih ⊢
    rw [before, List.map_cons, ih]
    rfl

theorem append_text (head : String) (g : Frame) :
    (Frame.mk head []).append g = ⟨head ++ g.head, g.slots⟩ := rfl

/-- What stands behind a row stands behind its last value. -/
theorem append_listed (close text : String) : ∀ (vs : List Value) (head : String), vs ≠ [] →
    (listed head close vs).append ⟨text, []⟩ = listed head (close ++ text) vs
  | [], _, h => absurd rfl h
  | [_], _, _ => rfl
  | v :: u :: vs, head, _ => by
    have ih := append_listed close text (u :: vs) ", " (by simp)
    unfold append listed at ih ⊢
    rw [row, before, ih]
    rfl

end Frame

namespace FieldTest

/-- A test in writing. -/
def frame (field : String) : FieldTest → Frame
  | never => ⟨"1=0", []⟩
  | isNull => ⟨field ++ " IS NULL", []⟩
  | isIn vs => .listed (field ++ " IN (") ")" vs
  | notIn vs => .listed (field ++ " NOT IN (") ")" vs
  | either a b =>
    (Frame.mk "(" []).append ((a.frame field).append
      ((Frame.mk " OR " []).append ((b.frame field).append ⟨")", []⟩)))

/-- The values in writing are those in the lists. -/
theorem values_frame (field : String) : ∀ t : FieldTest, (t.frame field).values = t.listed
  | never | isNull => rfl
  | isIn vs | notIn vs => Frame.values_listed _ _ vs
  | either a b => by
    have ha := values_frame field a
    have hb := values_frame field b
    unfold Frame.values at ha hb
    simp only [frame, Frame.append, Frame.values_before, listed, ← ha, ← hb]
    simp [Frame.values]

/-- What a condition says that leaves values out. -/
theorem clause_noneOf (d : Dialect) (field : String) {vs : List Value} (hv : vs ≠ []) :
    (Condition.noneOf vs).clause d field = ((either isNull (notIn vs)).frame field).clause := by
  rw [Condition.clause_noneOf d field hv]
  simp only [frame]
  rw [Frame.append_listed _ _ _ _ hv]
  simp only [Frame.append_text, Frame.listed, String.append_assoc]
  rfl

/-- What `=` asks, given the values that it lists. -/
def equals (vs : List Value) : FieldTest := if vs = [] then never else isIn vs

/-- What `!` asks, given the values that it lists. -/
def notEquals (vs : List Value) : FieldTest :=
  if vs = [] then isNull else either isNull (notIn vs)

theorem listed_equals (vs : List Value) : (equals vs).listed = vs := by
  unfold equals
  split
  · rename_i h
    rw [h]
    rfl
  · rfl

theorem listed_notEquals (vs : List Value) : (notEquals vs).listed = vs := by
  unfold notEquals
  split
  · rename_i h
    rw [h]
    rfl
  · rfl

theorem clause_equals (d : Dialect) (field : String) (vs : List Value) :
    (if vs = [] then Condition.never else .oneOf vs).clause d field =
      ((equals vs).frame field).clause := by
  unfold equals
  by_cases hv : vs = []
  · rw [if_pos hv, if_pos hv]
    rfl
  · rw [if_neg hv, if_neg hv, Condition.clause_oneOf d field hv]
    rfl

theorem clause_notEquals (d : Dialect) (field : String) (vs : List Value) :
    (if vs = [] then Condition.missing else .noneOf vs).clause d field =
      ((notEquals vs).frame field).clause := by
  unfold notEquals
  by_cases hv : vs = []
  · rw [if_pos hv, if_pos hv]
    rfl
  · rw [if_neg hv, if_neg hv, clause_noneOf d field hv]

end FieldTest

/-! ### Values that are there -/

namespace Value

theorem ne_none_of_isBlank {v : Value} (h : v.isBlank = .ok false) : v ≠ .none := by
  rintro rfl
  cases h

/-- A value of which it is known whether it is blank has a text. -/
theorem isShort_of_isBlank {v : Value} {blank : Bool} (h : v.isBlank = .ok blank) : v.IsShort := by
  rintro n rfl
  by_contra hlong
  have hplain : (int n).plain = .error .tooManyDigits := if_pos (Nat.not_le.mp hlong)
  rw [isBlank, hplain] at h
  · cases h
  · intro h
    cases h

end Value

theorem compact_of_there : ∀ {vs : List Value}, (∀ v ∈ vs, v.isBlank = .ok false) →
    compact vs = .ok vs
  | [], _ => rfl
  | v :: vs, h => by
    have ih := compact_of_there fun u hu => h u (List.mem_cons_of_mem v hu)
    rw [compact, h v List.mem_cons_self, ih]
    rfl

/-! ### Literals -/

namespace Text

theorem not_mem_numeral {c : Char} (hc : c.isDigit = false) (n : Nat) : c ∉ numeral n := by
  intro h
  rw [Nat.isDigit_of_mem_toDigits (by decide) (by decide) h] at hc
  cases hc

end Text

namespace Decimal

theorem not_mem_positional {digits : List Char} (h : 'U' ∉ digits) (places : Nat) :
    'U' ∉ positional digits places := by
  have htake : ∀ k, 'U' ∉ digits.take k := fun k hk => h (List.mem_of_mem_take hk)
  have hdrop : ∀ k, 'U' ∉ digits.drop k := fun k hk => h (List.mem_of_mem_drop hk)
  unfold positional
  split
  · exact h
  · split <;> simp [htake, hdrop, h]

theorem not_mem_pointed {digits : List Char} (h : 'U' ∉ digits) :
    'U' ∉ digits.take 1 ++ (if digits.length ≤ 1 then [] else '.' :: digits.drop 1) := by
  have htake : 'U' ∉ digits.take 1 := fun hk => h (List.mem_of_mem_take hk)
  have hdrop : 'U' ∉ digits.drop 1 := fun hk => h (List.mem_of_mem_drop hk)
  refine List.not_mem_append htake ?_
  split
  · simp
  · exact List.not_mem_cons_of_ne_of_not_mem (by decide) hdrop

theorem not_mem_sign (negative : Bool) : 'U' ∉ sign negative := by
  cases negative <;> decide

/-- No number in writing spells a `U`. -/
theorem not_mem_print (x : Decimal) : 'U' ∉ x.print := by
  have hnumeral : ∀ n, 'U' ∉ Text.numeral n := Text.not_mem_numeral (by decide)
  cases x with
  | finite negative coefficient exponent =>
    unfold print
    refine List.not_mem_append (not_mem_sign negative) ?_
    split
    · exact not_mem_positional (hnumeral coefficient) _
    · refine List.not_mem_append (not_mem_pointed (hnumeral coefficient)) ?_
      split <;> simp [hnumeral]
  | infinity negative =>
    exact List.not_mem_append (not_mem_sign negative) (by decide)
  | nan negative signaling payload =>
    refine List.not_mem_append (List.not_mem_append (not_mem_sign negative) ?_) ?_
    · cases signaling <;> decide
    · split
      · simp
      · exact hnumeral payload

end Decimal

namespace Binary64

theorem not_mem_printDigits (c : Nat) (place : Int) : 'U' ∉ printDigits c place := by
  have hnumeral : ∀ n, 'U' ∉ Text.numeral n := Text.not_mem_numeral (by decide)
  unfold printDigits
  dsimp only
  split
  · split
    · simp [hnumeral]
    · exact Decimal.not_mem_positional (hnumeral c) _
  · refine List.not_mem_append (Decimal.not_mem_pointed (hnumeral c)) ?_
    split <;> simp [Text.padded, hnumeral]

theorem not_mem_print (x : Binary64) : 'U' ∉ x.print := by
  unfold print
  split
  · exact List.not_mem_append (Decimal.not_mem_sign _) (by decide)
  · exact List.not_mem_append (Decimal.not_mem_sign _) (not_mem_printDigits _ _)
  · exact List.not_mem_append (Decimal.not_mem_sign _) (by decide)
  · decide

end Binary64

namespace Dialect

/-- **Only the missing value is written as NULL.** A text stands between quotes, and no
number in writing has all the letters. -/
theorem literal_ne_null (d : Dialect) {v : Value} {l : String} (hv : v ≠ .none)
    (h : d.literal v = .ok l) : l ≠ "NULL" := by
  have hquote : ∀ s : String, d.textLiteral s ≠ "NULL" := by
    intro s hs
    have hhead := congrArg String.toList hs
    rw [toList_textLiteral] at hhead
    cases hhead
  have hletter : ∀ s : List Char, 'U' ∉ s → String.ofList s ≠ "NULL" := by
    rintro s hs hnull
    have hlist : s = "NULL".toList := by rw [← hnull, String.toList_ofList]
    rw [hlist] at hs
    exact hs (by decide)
  cases v with
  | none => exact absurd rfl hv
  | bool b =>
    cases h
    cases b <;> decide
  | date day =>
    cases h
    exact hquote _
  | timestamp t =>
    cases h
    exact hquote _
  | text s =>
    cases h
    exact hquote s
  | int n =>
    simp only [literal, Value.plain] at h
    split at h
    · cases h
    · cases h
      rw [← Decimal.print_ofInt]
      exact hletter _ (Decimal.not_mem_print _)
  | float x =>
    cases h
    exact hletter _ x.not_mem_print
  | decimal x =>
    cases h
    exact hletter _ x.not_mem_print

end Dialect

/-! ### The filters -/

/-- A frame is stated, or nothing is done for want of a literal. -/
theorem Query.states_or_fails (q : Query) (f : Frame) :
    (∃ q', q.States f q' ∧ q.append f.clause = .done q') ∨ ∃ e, q.append f.clause = .fail q e := by
  unfold States
  rw [append_clause]
  by_cases hp : q.parameterized = true
  · rw [if_pos hp]
    exact .inl ⟨_, (if_pos hp).mpr rfl, rfl⟩
  · rw [if_neg hp]
    rcases hin : f.inline q.dialect with e | predicate
    · exact .inr ⟨e, rfl⟩
    · exact .inl ⟨q.push predicate, (if_neg hp).mpr ⟨predicate, rfl, rfl⟩, rfl⟩

namespace Work

variable {w : Work} {values : List Value}

/-- The work with a test appended to its query. -/
def withTest (w : Work) (field : String) (t : FieldTest) : Attempt Work :=
  w.withQuery (w.query.append (t.frame field).clause)

/-- A test of values that are not missing is stated without a NULL in its lists, unless it
fails. -/
theorem withTest_cases (w : Work) (field : String) {t : FieldTest}
    (h : ∀ v ∈ t.listed, v ≠ .none) :
    (∃ e, w.withTest field t = .fail w e) ∨
      ∃ q, w.query.States (t.frame field) q ∧ w.withTest field t = .done { w with query := q } ∧
        ∀ v ∈ t.listed, v ≠ .none ∧ ∀ l, w.query.dialect.literal v = .ok l → l ≠ "NULL" := by
  unfold withTest
  rcases w.query.states_or_fails (t.frame field) with ⟨q, hstates, happend⟩ | ⟨e, happend⟩
  · exact .inr ⟨q, hstates, by rw [happend, withQuery_done],
      fun v hv => ⟨h v hv, fun _ hl => w.query.dialect.literal_ne_null (h v hv) hl⟩⟩
  · exact .inl ⟨e, by rw [happend]; rfl⟩

/-- A test of values with literals is stated. -/
theorem exists_withTest (w : Work) (field : String) {t : FieldTest}
    (h : ∀ v ∈ t.listed, v.IsShort) :
    ∃ q, w.query.States (t.frame field) q ∧ w.withTest field t = .done { w with query := q } := by
  rw [← t.values_frame field] at h
  obtain ⟨q, hstates, happend⟩ := w.query.exists_states h
  exact ⟨q, hstates, by rw [withTest, happend, withQuery_done]⟩

/-- **The filter `=` lists the values other than the missing one.** -/
theorem applyFilter_among (hr : w.engine.registry = .standard) (field : String)
    (values : List Value) :
    w.applyFilter field (.text "=") values =
      w.withTest field (.equals (values.filter (· ≠ .none))) := by
  obtain ⟨op, steps, hb, hready, happly⟩ :=
    applyFilter_of_behavior hr "=" (b := .equals) (by decide) rfl field values
  have hd : op.behavior.decide (w.engine.situation op) field values =
      .append (if values.filter (· ≠ .none) = [] then .never
        else .oneOf (values.filter (· ≠ .none))) := by
    rw [hb, Behavior.decide, Behavior.accepts_of_rest rfl]
    rfl
  rw [happly, modifyWithin_of_append hd, hready, FieldTest.clause_equals, withTest]

/-- **The filter `!` lists the values that are not blank.** It fails if that cannot be
known of one of them. -/
theorem applyFilter_notAmong (hr : w.engine.registry = .standard) (field : String)
    (values : List Value) :
    w.applyFilter field (.text "!") values =
      match compact values with
      | .ok rest => w.withTest field (.notEquals rest)
      | .error e => .fail w e := by
  obtain ⟨op, steps, hb, hready, happly⟩ :=
    applyFilter_of_behavior hr "!" (b := .notEquals) (by decide) rfl field values
  have hd : op.behavior.decide (w.engine.situation op) field values =
      .ofExcept ((compact values).map fun rest =>
        .append (if rest = [] then .missing else .noneOf rest)) := by
    rw [hb, Behavior.decide, Behavior.accepts_of_rest rfl]
    show Decision.ofExcept (Situation.decideNotEquals values) = _
    unfold Situation.decideNotEquals
    cases compact values <;> rfl
  rcases hcompact : compact values with e | rest
  · rw [hcompact] at hd
    rw [happly, modifyWithin_of_fail hd, hready]
  · rw [hcompact] at hd
    rw [happly, modifyWithin_of_append hd, hready, FieldTest.clause_notEquals]
    rfl

/-- **The filter `!` is the complement of `=`, NULL included.** Given values that are
there, both state their predicate, and on every row, for every way to read and to compare
the values, that of `!` is true exactly when that of `=` is not. And whatever the values
are, there is no NULL in the lists of what the two append. -/
theorem applyFilter_complement (hr : w.engine.registry = .standard) (field : String)
    (values : List Value) :
    (values ≠ [] → (∀ v ∈ values, v.isBlank = .ok false ∧ v.isNaN = false) →
      (∃ q, w.query.States ((FieldTest.isIn values).frame field) q ∧
        w.applyFilter field (.text "=") values = .done { w with query := q }) ∧
      (∃ q, w.query.States ((FieldTest.either .isNull (.notIn values)).frame field) q ∧
        w.applyFilter field (.text "!") values = .done { w with query := q }) ∧
      ∀ (α : Type) (r : Reading α) (x : Option α),
        (FieldTest.either .isNull (.notIn values)).truth r x = .yes ↔
          (FieldTest.isIn values).truth r x ≠ .yes) ∧
    ∀ operator ∈ ["=", "!"],
      (∃ e, w.applyFilter field (.text operator) values = .fail w e) ∨
        ∃ (t : FieldTest) (q : Query), w.query.States (t.frame field) q ∧
          w.applyFilter field (.text operator) values = .done { w with query := q } ∧
          ∀ v ∈ t.listed, v ≠ .none ∧ ∀ l, w.query.dialect.literal v = .ok l → l ≠ "NULL" := by
  refine ⟨fun hne hthere => ?_, fun operator hoperator => ?_⟩
  · have hshort : ∀ v ∈ values, v.IsShort := fun v hv =>
      Value.isShort_of_isBlank (hthere v hv).1
    have hfilter : values.filter (· ≠ .none) = values := List.filter_eq_self.mpr fun v hv =>
      decide_eq_true (Value.ne_none_of_isBlank (hthere v hv).1)
    have hcompact : compact values = .ok values := compact_of_there fun v hv => (hthere v hv).1
    refine ⟨?_, ?_, fun α r x => ?_⟩
    · rw [applyFilter_among hr, hfilter, FieldTest.equals, if_neg hne]
      exact w.exists_withTest field hshort
    · rw [applyFilter_notAmong hr, hcompact]
      show ∃ q, _ ∧ w.withTest field (.notEquals values) = _
      rw [FieldTest.notEquals, if_neg hne]
      exact w.exists_withTest field (by simpa [FieldTest.listed] using hshort)
    · refine FieldTest.truth_complement r x fun v hv => ?_
      obtain ⟨hblank, hnan⟩ := hthere v hv
      exact r.exists_read v (Value.ne_none_of_isBlank hblank) hnan
  · rcases List.mem_pair.mp hoperator with rfl | rfl
    · rw [applyFilter_among hr]
      refine (w.withTest_cases field fun v hv => ?_).imp_right fun h => ⟨_, h⟩
      rw [FieldTest.listed_equals] at hv
      exact of_decide_eq_true (List.mem_filter.mp hv).2
    · rw [applyFilter_notAmong hr]
      rcases hcompact : compact values with e | rest
      · exact .inl ⟨e, rfl⟩
      · refine (w.withTest_cases field fun v hv => ?_).imp_right fun h => ⟨_, h⟩
        rw [FieldTest.listed_notEquals] at hv
        exact Value.ne_none_of_isBlank (of_mem_compact hcompact v hv).2

/-- Two values of different kinds, on rows that are compared as texts. -/
theorem applyFilter_complement_texts :
    let w : Work := ⟨.standard ⟨none, none⟩
      ⟨2024, 1, 17, by decide, by decide, by decide, by decide⟩, .empty .sqlite false⟩
    let values : List Value := [.text "open", .int 3]
    w.engine.registry = .standard ∧ values ≠ [] ∧
      (∀ v ∈ values, v.isBlank = .ok false ∧ v.isNaN = false) ∧
      (∃ q, w.query.States ((FieldTest.either .isNull (.notIn values)).frame "status") q ∧
        w.applyFilter "status" (.text "!") values = .done { w with query := q }) ∧
      ∀ x : Option String,
        (FieldTest.either .isNull (.notIn values)).truth .ofTexts x = .yes ↔
          (FieldTest.isIn values).truth .ofTexts x ≠ .yes := by
  intro w values
  have hne : values ≠ [] := by decide
  have hthere : ∀ v ∈ values, v.isBlank = .ok false ∧ v.isNaN = false := by decide
  obtain ⟨hboth, -⟩ := applyFilter_complement (w := w) rfl "status" values
  obtain ⟨-, hnot, htruth⟩ := hboth hne hthere
  exact ⟨rfl, hne, hthere, hnot, htruth String .ofTexts⟩

end Work
end ReportFilter
