/-
# What the built-in operators say

Each built-in operator says one sentence about a field: a text in which the field
and the literals of values stand where they stand, put together by concatenation
alone (`Sentence.write`). A search writes its pattern out as well, with a backslash
before what would be special in it. What an operator appends goes through templates,
escaped fragments, slots and delegates; the predicates that come out are those of its
sentence, for every field and all values (`Work.follows_sentence`).

A sentence that has no text for its values has a failure instead, and then the
operator fails for the same reason.

Key definitions: `Sentence`, `Sentence.literally`, `Sentence.write`,
`Catalogue.sentences`, `Operator.states`.
Key theorems: `Sentence.containing_eq`, `Registry.states_of_get?`,
`Work.follows_of_states`, `Work.follows_sentence`.
-/
import ReportFilter.Proofs.DayWindows
import ReportFilter.Proofs.Search

namespace ReportFilter

/-! ### Sentences -/

/-- What an operator says about a field and values. -/
inductive Sentence where
  /-- The field is one of the values. -/
  | among
  /-- The field is null or none of the values. -/
  | notAmong
  /-- The field compares with the first value. -/
  | comparison (sign : String)
  /-- The lower case of the value occurs in the field, or does not. -/
  | search (f : SearchFilter)
  /-- The field is an amount. -/
  | amount
  /-- Something about the field alone. -/
  | fixed (rest : String)
  /-- Another sentence about a date, which the value is read as. -/
  | dated (s : Sentence)
  /-- The field lies between two dates. -/
  | between
  /-- The field lies between the two ends of a week. -/
  | week
  /-- The field lies in a range of days. -/
  | days (f : DayFilter)
  deriving DecidableEq, Repr

namespace Sentence

/-- A text as a pattern that matches it alone: a backslash stands before each backslash,
percent sign and underscore. -/
def literally : List Char → List Char
  | [] => []
  | '\\' :: s => '\\' :: '\\' :: literally s
  | '%' :: s => '\\' :: '%' :: literally s
  | '_' :: s => '\\' :: '_' :: literally s
  | c :: s => c :: literally s

/-- The text that says a field lies between two values. -/
def writeBetween (d : Dialect) (field : String) (a b : Value) : Except Failure (List String) := do
  let first ← d.literal a
  let last ← d.literal b
  .ok [field ++ " BETWEEN " ++ first ++ " AND " ++ last]

/-- The texts that a sentence has for a field and values. There are none where it
asks for nothing, and two where it bounds the field from both sides. -/
def write (d : Dialect) (today : Date) (weekStart : Except Failure Value) (field : String) :
    Sentence → List Value → Except Failure (List String)
  | among, values => do
    let literals ← (values.filter (· ≠ .none)).mapM d.literal
    .ok [if literals = [] then "1=0" else field ++ " IN (" ++ ", ".intercalate literals ++ ")"]
  | notAmong, values => do
    let literals ← (← compact values).mapM d.literal
    .ok [if literals = [] then field ++ " IS NULL"
      else "(" ++ field ++ " IS NULL OR " ++ field ++ " NOT IN (" ++
        ", ".intercalate literals ++ "))"]
  | comparison sign, values => do
    let literal ← d.literal (values.headD (.text ""))
    .ok [field ++ " " ++ sign ++ " " ++ literal]
  | search f, values => do
    let text ← Value.sought values
    let pattern := "%" ++ String.ofList (literally (Text.lower text.toList)) ++ "%"
    let literal ← d.literal (.text pattern)
    .ok ["LOWER(" ++ field ++ ") " ++ f.keyword ++ " " ++ literal ++ d.likeEscape]
  | amount, [value] => do
    let literal ← d.literal (.decimal (← Amount.ofValue value))
    .ok [field ++ " = " ++ literal]
  | fixed rest, _ => .ok [field ++ " " ++ rest]
  | dated s, [value] => do
    if ← value.isBlank then .ok []
    else s.write d today weekStart field [(← DateInput.read value).toValue]
  | between, [a, b] => do
    if ← a.isBlank then .ok []
    else if ← b.isBlank then .ok []
    else
      let first ← DateInput.read a
      let last ← DateInput.read b
      writeBetween d field first.toValue last.toValue
  | week, values => do
    if 1 < values.length then .error .valueCount
    else
      let first ← today.weekBeginning (← weekStart)
      let start ← first.plusDays (-(← LeadingInteger.ofValue (values.headD .none)))
      let stop ← start.plusDays 7
      writeBetween d field (.timestamp (.beginningOfDay start)) (.timestamp (.beginningOfDay stop))
  | days f, values => do
    if f.behavior.accepts values.length then
      let n ← LeadingInteger.ofValue (values.headD .none)
      let bounds ← DateRange.bounds today (f.range n).1 (f.range n).2
      bounds.mapM fun b => do
        let literal ← d.literal (.timestamp b.time)
        .ok (field ++ b.comparison ++ literal)
    else .error .valueCount
  | amount, _ | dated _, _ | between, _ => .error .valueCount

/-- How many operators are at work on a sentence. -/
def operators : Sentence → Nat
  | dated s => s.operators + 1
  | week => 2
  | _ => 1

end Sentence

/-- What each of the built-in operators says. -/
def Catalogue.sentences : List (String × Sentence) := [
  ("=", .among),
  ("!", .notAmong),
  ("<", .comparison "<"),
  (">", .comparison ">"),
  ("<=", .comparison "<="),
  (">=", .comparison ">="),
  ("~", .search .contains),
  ("!~", .search .lacks),
  ("=n", .amount),
  ("*", .fixed "IS NOT NULL"),
  ("y", .fixed "IS NOT NULL"),
  ("!*", .fixed "IS NULL"),
  ("n", .fixed "IS NULL"),
  ("0", .fixed "= 0"),
  ("<d", .dated (.comparison "<=")),
  (">d", .dated (.comparison ">=")),
  ("=d", .dated .among),
  ("<>d", .between),
  ("w", .week),
  ("t", .days .today),
  ("t-", .days .ago),
  ("t+", .days .inDays),
  ("<t-", .days .moreThanAgo),
  (">t-", .days .lessThanAgo),
  ("<t+", .days .inLessThan),
  (">t+", .days .inMoreThan)]

/-! ### Operators that say sentences -/

/-- Whether an operator is made to say a sentence. -/
def Operator.states (op : Operator) : Sentence → Bool
  | .among => op.behavior = .equals
  | .notAmong => op.behavior = .notEquals
  | .comparison sign =>
    op.behavior = .template ∧ op.template = some defaultTemplate ∧ op.comparison = sign ∧
      '%' ∉ sign.toList
  | .search f => op.behavior = f.behavior
  | .amount => op.behavior = .numericEquals
  | .fixed rest =>
    op.behavior = .template ∧ rest ∈ fixedEnds ∧ op.template = Catalogue.fieldTemplate rest
  | .dated s =>
    op.behavior = .onDate && (op.delegate.bind Registry.standard.get?).any (·.states s)
  | .between => op.behavior = .between
  | .week =>
    op.behavior = .thisWeek &&
      (op.delegate.bind Registry.standard.get?).any (·.behavior = .between)
  | .days f => op.behavior = f.behavior

/-- **Each built-in operator is made to say its sentence.** -/
theorem Registry.states_of_get? {name : String} {op : Operator}
    (h : standard.get? name = some op) :
    ∃ s, Catalogue.sentences.lookup name = some s ∧ op.states s = true ∧ s.operators ≤ 2 := by
  have hall : ∀ e ∈ standard.entries, (Catalogue.sentences.lookup e.1).any
      (fun s => e.2.states s && decide (s.operators ≤ 2)) = true := by
    decide
  obtain ⟨s, hs, hop⟩ := (Option.any_eq_true _ _).mp (hall _ (mem_of_get? h))
  rw [Bool.and_eq_true, decide_eq_true_eq] at hop
  exact ⟨s, hs, hop⟩

/-! ### Sentences as frames -/

namespace Sentence

variable (d : Dialect) (today : Date) (weekStart : Except Failure Value) (field : String)

/-- The predicate that a frame is. -/
def ofFrame (f : Frame) : Except Failure (List String) :=
  (f.inline d).map fun predicate => [predicate]

/-- Literals between commas are a row of values; another text stands where there
are none. -/
theorem ofFrame_listed (other head close : String) (values : List Value) :
    (do
      let literals ← values.mapM d.literal
      Except.ok [if literals = [] then other else head ++ ", ".intercalate literals ++ close]) =
      ofFrame d (if values = [] then ⟨other, []⟩ else .listed head close values) := by
  unfold ofFrame
  by_cases hv : values = []
  · rw [if_pos hv, hv, Frame.inline_text]
    rfl
  · rw [if_neg hv, Frame.inline_listed d head close hv]
    rcases hl : values.mapM d.literal with e | literals
    · rfl
    · have hliterals : literals ≠ [] := by
        intro h
        rw [h] at hl
        exact hv (List.length_eq_zero_iff.mp (length_of_mapM hl).symm)
      simp only [bind, Except.bind, Except.map, if_neg hliterals, String.append_assoc]

theorem write_among (values : List Value) :
    among.write d today weekStart field values =
      ofFrame d (if values.filter (· ≠ .none) = [] then ⟨"1=0", []⟩
        else .listed (field ++ " IN (") ")" (values.filter (· ≠ .none))) :=
  ofFrame_listed d "1=0" (field ++ " IN (") ")" _

theorem write_notAmong (values : List Value) :
    notAmong.write d today weekStart field values =
      (compact values).bind fun rest => ofFrame d (if rest = [] then ⟨field ++ " IS NULL", []⟩
        else .listed ("(" ++ field ++ " IS NULL OR " ++ field ++ " NOT IN (") "))" rest) := by
  unfold write
  rcases compact values with e | rest
  · rfl
  · exact ofFrame_listed d (field ++ " IS NULL")
      ("(" ++ field ++ " IS NULL OR " ++ field ++ " NOT IN (") "))" rest

theorem write_comparison (sign : String) (values : List Value) :
    (comparison sign).write d today weekStart field values =
      ofFrame d (.compared field (" " ++ sign ++ " ") (values.headD (.text ""))) := by
  unfold write ofFrame
  rw [Frame.inline_compared]
  rcases d.literal (values.headD (.text "")) with e | l
  · rfl
  · simp [bind, Except.bind, Except.map, String.append_assoc]

theorem write_amount (value : Value) :
    amount.write d today weekStart field [value] =
      (Amount.ofValue value).bind fun x => ofFrame d (.compared field " = " (.decimal x)) := by
  unfold write
  rcases Amount.ofValue value with e | x
  · rfl
  · show _ = ofFrame d (.compared field " = " (.decimal x))
    unfold ofFrame
    rw [Frame.inline_compared]
    rfl

theorem flatMap_escapeChar (s : List Char) : s.flatMap Like.escapeChar = literally s := by
  induction s using literally.induct with
  | case1 => rfl
  | case2 s ih => rw [List.flatMap_cons, ih]; rfl
  | case3 s ih => rw [List.flatMap_cons, ih]; rfl
  | case4 s ih => rw [List.flatMap_cons, ih]; rfl
  | case5 c s hbackslash hpercent hunderscore ih =>
    have hplain : ¬ (c = '\\' ∨ c = '%' ∨ c = '_') := by
      rintro (h | h | h)
      · exact hbackslash h
      · exact hpercent h
      · exact hunderscore h
    rw [List.flatMap_cons, ih, literally, Like.escapeChar, if_neg hplain]
    · rfl
    all_goals assumption

/-- The pattern that a search looks for is the one of its sentence. -/
theorem containing_eq (s : List Char) :
    Like.containing (String.ofList s) = "%" ++ String.ofList (literally s) ++ "%" := by
  rw [Like.containing, Like.escape, String.toList_ofList, flatMap_escapeChar]

theorem write_search (f : SearchFilter) (values : List Value) :
    (search f).write d today weekStart field values =
      (Value.sought values).map fun text => ["LOWER(" ++ field ++ ") " ++ f.keyword ++ " " ++
        (d.textLiteral (Like.containing (String.ofList (Text.lower text.toList))) ++
          d.likeEscape)] := by
  unfold write
  rcases Value.sought values with e | text
  · rfl
  · simp [bind, Except.bind, Except.map, Dialect.literal, containing_eq, String.append_assoc]

theorem writeBetween_eq (a b : Value) :
    writeBetween d field a b =
      ofFrame d ⟨field ++ " BETWEEN ", [(a, " AND "), (b, "")]⟩ := by
  unfold writeBetween ofFrame
  rw [Frame.inline_pair]
  rcases d.literal a with e | first
  · rfl
  · rcases d.literal b with e | last
    · rfl
    · simp [bind, Except.bind, Except.map]

/-- A bound as a text. -/
def writeBound (b : Bound) : String :=
  field ++ b.comparison ++ d.textLiteral (String.ofList b.time.literalText)

theorem mapM_bounds : ∀ bs : List Bound,
    (bs.mapM fun b => do
      let literal ← d.literal (.timestamp b.time)
      Except.ok (field ++ b.comparison ++ literal)) =
      (Except.ok (bs.map (writeBound d field)) : Except Failure (List String))
  | [] => rfl
  | b :: bs => by
    rw [List.mapM_cons, mapM_bounds bs]
    rfl

theorem write_days (f : DayFilter) {values : List Value}
    (ha : f.behavior.accepts values.length = true) :
    (days f).write d today weekStart field values =
      (LeadingInteger.ofValue (values.headD .none)).bind fun n =>
        (DateRange.bounds today (f.range n).1 (f.range n).2).map
          (List.map (writeBound d field)) := by
  unfold write
  rw [if_pos ha]
  rcases LeadingInteger.ofValue (values.headD .none) with e | n
  · rfl
  · show (DateRange.bounds today (f.range n).1 (f.range n).2 >>= _) = _
    rcases hb : DateRange.bounds today (f.range n).1 (f.range n).2 with e | bs
    · simp only [Except.bind, hb]
      rfl
    · simp only [Except.bind, hb]
      exact mapM_bounds d field bs

end Sentence

namespace Query

/-- Bounds on a field appended inline. -/
theorem appendAll_bounds_inline (field : String) : ∀ (bs : List Bound) (q : Query),
    q.parameterized = false →
      q.appendAll (bs.map fun b => b.condition.clause q.dialect field) =
        .done { q with predicates :=
          q.predicates ++ bs.map (Sentence.writeBound q.dialect field) }
  | [], q, _ => by simp [appendAll]
  | b :: bs, q, hi => by
    have happend : q.append (b.condition.clause q.dialect field) =
        .done (q.push (Sentence.writeBound q.dialect field b)) := by
      rw [Bound.clause_condition, append_clause, Frame.inline_compared, hi]
      rfl
    have ih := appendAll_bounds_inline field bs
      (q.push (Sentence.writeBound q.dialect field b)) hi
    rw [List.map_cons, appendAll, happend, Attempt.andThen_done]
    refine ih.trans ?_
    simp [push]

end Query

/-! ### Operators follow their sentences -/

namespace Work

variable {w : Work} {op : Operator} {field : String} {values : List Value}

theorem follows_of_fail {e : Failure}
    (hd : op.behavior.decide (w.engine.situation op) field values = .fail e) (steps : Nat) :
    w.Follows (modifyWithin (steps + 1) op field values w) (.error e) := by
  rw [modifyWithin_of_fail hd]
  exact .error rfl

theorem follows_of_too_many {n : Nat} (hn : n ∈ op.behavior.counts.2) (h : n < values.length)
    (steps : Nat) :
    w.Follows (modifyWithin (steps + 1) op field values w) (.error .valueCount) :=
  follows_of_fail (Behavior.decide_of_not_accepts (Behavior.not_accepts_of_lt hn h) _ field) steps

/-- A decision and a text that start with one step follow each other if they do behind
it. -/
theorem follows_of_bind {α : Type} {x : Except Failure α} {decide : α → Except Failure Decision}
    {texts : α → Except Failure (List String)}
    (hd : op.behavior.decide (w.engine.situation op) field values = .ofExcept (x >>= decide))
    (steps : Nat)
    (h : ∀ a, op.behavior.decide (w.engine.situation op) field values = .ofExcept (decide a) →
      w.Follows (modifyWithin (steps + 1) op field values w) (texts a)) :
    w.Follows (modifyWithin (steps + 1) op field values w) (x >>= texts) := by
  cases x with
  | error e => exact follows_of_fail hd steps
  | ok a => exact h a hd

/-- An operator that asks for nothing appends nothing. -/
theorem follows_of_skip
    (hd : op.behavior.decide (w.engine.situation op) field values = .skip) (steps : Nat) :
    w.Follows (modifyWithin (steps + 1) op field values w) (.ok []) := by
  rw [modifyWithin_succ, hd, append_of_no_conditions _ field rfl, Attempt.andThen_done]
  refine .ok ⟨rfl, ?_⟩
  show (w.ready op values).query = _
  rw [query_ready, List.append_nil]

/-- An operator that hands values on does what its delegate does with them. -/
theorem modifyWithin_of_handOver {values' : List Value} {next : Operator}
    (hd : op.behavior.decide (w.engine.situation op) field values = .handOver false values')
    (ht : (w.ready op values).target op = .ok next) (steps : Nat) :
    modifyWithin (steps + 1) op field values w =
      modifyWithin steps next field values' (w.ready op values) := by
  rw [modifyWithin_succ, hd, append_of_no_conditions _ field rfl, Attempt.andThen_done]
  simp only [Decision.handOver, conclude, ht, Bool.false_eq_true, if_false]

theorem follows_among (hi : w.query.parameterized = false) (hop : op.behavior = .equals)
    (steps : Nat) (today : Date) (weekStart : Except Failure Value) :
    w.Follows (modifyWithin (steps + 1) op field values w)
      (Sentence.among.write w.query.dialect today weekStart field values) := by
  have hd : op.behavior.decide (w.engine.situation op) field values =
      .append (if values.filter (· ≠ .none) = [] then .never
        else .oneOf (values.filter (· ≠ .none))) := by
    rw [hop, Behavior.decide, Behavior.accepts_of_rest rfl]
    rfl
  rw [Sentence.write_among]
  refine follows_of_append hi hd ?_ steps
  by_cases hv : values.filter (· ≠ .none) = []
  · rw [if_pos hv, if_pos hv]
    rfl
  · rw [if_neg hv, if_neg hv]
    exact Condition.clause_oneOf _ field hv

theorem follows_notAmong (hi : w.query.parameterized = false) (hop : op.behavior = .notEquals)
    (steps : Nat) (today : Date) (weekStart : Except Failure Value) :
    w.Follows (modifyWithin (steps + 1) op field values w)
      (Sentence.notAmong.write w.query.dialect today weekStart field values) := by
  have hd : op.behavior.decide (w.engine.situation op) field values =
      .ofExcept ((compact values).map fun rest =>
        .append (if rest = [] then .missing else .noneOf rest)) := by
    rw [hop, Behavior.decide, Behavior.accepts_of_rest rfl]
    show Decision.ofExcept (Situation.decideNotEquals values) = _
    unfold Situation.decideNotEquals
    cases compact values <;> rfl
  rw [Sentence.write_notAmong]
  refine follows_of_ofExcept hi hd (fun rest => ?_) steps
  by_cases hv : rest = []
  · rw [if_pos hv, if_pos hv]
    rfl
  · rw [if_neg hv, if_neg hv]
    exact Condition.clause_noneOf _ field hv

theorem follows_comparison (hi : w.query.parameterized = false) (hop : op.behavior = .template)
    (ht : op.template = some defaultTemplate) (hc : '%' ∉ op.comparison.toList) (steps : Nat)
    (today : Date) (weekStart : Except Failure Value) :
    w.Follows (modifyWithin (steps + 1) op field values w)
      ((Sentence.comparison op.comparison).write w.query.dialect today weekStart field
        values) := by
  have hd : op.behavior.decide (w.engine.situation op) field values = .append (.stated
      ⟨Fragment.escape field ++ (" " ++ op.comparison ++ " ") ++ "%s",
        [values.headD (.text "")]⟩) := by
    rw [hop, Behavior.decide, Behavior.accepts_of_rest rfl]
    show Decision.ofExcept ((w.engine.situation op).decideTemplate field values) = _
    rw [Situation.decideTemplate_comparing _ field values ht]
    rfl
  have hplain : '%' ∉ (" " ++ op.comparison ++ " ").toList := by simpa using hc
  rw [Sentence.write_comparison]
  exact follows_of_append hi hd (Frame.clause_compared hplain field _).symm steps

theorem follows_fixed (hi : w.query.parameterized = false) (hop : op.behavior = .template)
    {rest : String} (hr : rest ∈ fixedEnds) (ht : op.template = Catalogue.fieldTemplate rest)
    (steps : Nat) (today : Date) (weekStart : Except Failure Value) :
    w.Follows (modifyWithin (steps + 1) op field values w)
      ((Sentence.fixed rest).write w.query.dialect today weekStart field values) := by
  have hd : op.behavior.decide (w.engine.situation op) field values =
      .append (.stated ⟨field ++ " " ++ rest, []⟩) := by
    rw [hop, Behavior.decide, Behavior.accepts_of_rest rfl]
    show Decision.ofExcept ((w.engine.situation op).decideTemplate field values) = _
    rw [Situation.decideTemplate_fixed _ field values hr ht]
    rfl
  have hfollows := follows_of_append hi hd (f := ⟨field ++ " " ++ rest, []⟩) rfl steps
  rw [Frame.inline_text] at hfollows
  exact hfollows

theorem follows_amount (hi : w.query.parameterized = false) (hop : op.behavior = .numericEquals)
    (steps : Nat) (today : Date) (weekStart : Except Failure Value) :
    w.Follows (modifyWithin (steps + 1) op field values w)
      (Sentence.amount.write w.query.dialect today weekStart field values) := by
  match values with
  | [] => exact follows_of_fail (by rw [hop]; rfl) steps
  | _ :: _ :: _ => exact follows_of_too_many (n := 1) (by rw [hop]; rfl) (by simp) steps
  | [value] =>
    have hd : op.behavior.decide (w.engine.situation op) field [value] =
        .ofExcept ((Amount.ofValue value).map fun x => .append (.amount x)) := by
      rw [hop]
      rfl
    rw [Sentence.write_amount]
    exact follows_of_ofExcept hi hd (fun x => Condition.clause_amount _ field x) steps

theorem follows_between (hi : w.query.parameterized = false) (hop : op.behavior = .between)
    (steps : Nat) (today : Date) (weekStart : Except Failure Value) :
    w.Follows (modifyWithin (steps + 1) op field values w)
      (Sentence.between.write w.query.dialect today weekStart field values) := by
  match values with
  | [] => exact follows_of_fail (by rw [hop]; rfl) steps
  | [_] => exact follows_of_fail (by rw [hop]; rfl) steps
  | _ :: _ :: _ :: _ => exact follows_of_too_many (n := 2) (by rw [hop]; rfl) (by simp) steps
  | [a, b] =>
    have hd : op.behavior.decide (w.engine.situation op) field [a, b] =
        .ofExcept (Situation.decideBetween a b) := by
      rw [hop]
      rfl
    refine follows_of_bind hd steps fun blank hd => ?_
    cases blank with
    | true => exact follows_of_skip hd steps
    | false =>
      refine follows_of_bind hd steps fun blank hd => ?_
      cases blank with
      | true => exact follows_of_skip hd steps
      | false =>
        refine follows_of_bind hd steps fun first hd => follows_of_bind hd steps fun last hd => ?_
        rw [Sentence.writeBetween_eq]
        exact follows_of_append hi hd (Condition.clause_between _ field first last) steps

end Work

theorem Moment.isBlank_toValue (m : Moment) : m.toValue.isBlank = .ok false := by
  have hdate : ∀ d : Date, '-' ∈ d.iso := fun d => by simp [Date.iso]
  have hblank : ∀ l : List Char, '-' ∈ l → (String.ofList l).toList.all Text.isBlank = false := by
    intro l hl
    rw [String.toList_ofList, List.all_eq_false]
    exact ⟨'-', hl, by decide⟩
  cases m with
  | date d => exact congrArg Except.ok (hblank d.iso (hdate d))
  | timestamp t =>
    refine congrArg Except.ok (hblank (t.iso ' ') ?_)
    rw [Timestamp.iso]
    exact List.mem_append_left _ (List.mem_append_left _ (hdate t.date))

/-- Dates and timestamps that are there lie between two ends as they are. -/
theorem Sentence.write_between_toValue (d : Dialect) (today : Date)
    (weekStart : Except Failure Value) (field : String) (a b : Moment) :
    between.write d today weekStart field [a.toValue, b.toValue] =
      writeBetween d field a.toValue b.toValue := by
  simp only [write, Moment.isBlank_toValue, DateInput.read_toValue]
  rfl

namespace Work

theorem Follows.trans {w v : Work} (hv : v.query = w.query) {a : Attempt Work}
    {x : Except Failure (List String)} (h : v.Follows a x) : w.Follows a x := by
  cases h with
  | ok h => exact .ok ⟨h.1, h.2.trans (by rw [hv])⟩
  | error h => exact .error h

theorem target_of_delegate {w : Work} (hr : w.engine.registry = .standard) {op next : Operator}
    (h : op.delegate.bind Registry.standard.get? = some next) : w.target op = .ok next := by
  rw [target, hr, h]

theorem linked_of_delegate {op next : Operator}
    (h : op.delegate.bind Registry.standard.get? = some next) :
    ∃ target, op.linked = .ok target := by
  obtain ⟨target, ht, -⟩ := Option.bind_eq_some_iff.mp h
  exact ⟨target, by rw [Operator.linked, ht]⟩

variable {w : Work} {op : Operator} {field : String} {values : List Value}

/-- **A date is handed to the delegate**, which follows its own sentence. -/
theorem follows_dated (hr : w.engine.registry = .standard) (hop : op.behavior = .onDate)
    {next : Operator} (hnext : op.delegate.bind Registry.standard.get? = some next)
    {s : Sentence} {steps : Nat}
    (ih : ∀ values, w.Follows (modifyWithin steps next field values w)
      (s.write w.query.dialect w.engine.today w.engine.weekStart field values)) :
    w.Follows (modifyWithin (steps + 1) op field values w)
      ((Sentence.dated s).write w.query.dialect w.engine.today w.engine.weekStart field
        values) := by
  match values with
  | [] => exact follows_of_fail (by rw [hop]; rfl) steps
  | _ :: _ :: _ => exact follows_of_too_many (n := 1) (by rw [hop]; rfl) (by simp) steps
  | [value] =>
    have hd : op.behavior.decide (w.engine.situation op) field [value] =
        .ofExcept ((w.engine.situation op).decideOnDate value) := by
      rw [hop]
      rfl
    obtain ⟨target, hlinked⟩ := linked_of_delegate hnext
    refine follows_of_bind hd steps fun blank hd => ?_
    cases blank with
    | true => exact follows_of_skip hd steps
    | false =>
      change _ = Decision.ofExcept (op.linked >>= _) at hd
      rw [hlinked] at hd
      change _ = Decision.ofExcept (DateInput.read value >>= _) at hd
      refine follows_of_bind hd steps fun m hd => ?_
      have hready : w.ready op [value] = w := by
        rw [ready, hop]
        rfl
      have ht : (w.ready op [value]).target op = .ok next := by
        rw [hready]
        exact target_of_delegate hr hnext
      rw [modifyWithin_of_handOver hd ht, hready]
      exact ih [m.toValue]

/-- **A week is handed to the delegate** as its two ends. -/
theorem follows_week (hr : w.engine.registry = .standard) (hi : w.query.parameterized = false)
    (hop : op.behavior = .thisWeek) {next : Operator}
    (hnext : op.delegate.bind Registry.standard.get? = some next)
    (hbetween : next.behavior = .between) (steps : Nat) :
    w.Follows (modifyWithin (steps + 2) op field values w)
      (Sentence.week.write w.query.dialect w.engine.today w.engine.weekStart field values) := by
  unfold Sentence.write
  by_cases hmany : 1 < values.length
  · rw [if_pos hmany]
    exact follows_of_too_many (n := 1) (by rw [hop]; rfl) hmany (steps + 1)
  · have ha : Behavior.thisWeek.accepts values.length = true := by
      rw [Behavior.accepts_iff]
      exact ⟨Nat.zero_le _, fun n hn => by cases hn; omega⟩
    have hd : op.behavior.decide (w.engine.situation op) field values =
        .ofExcept ((w.engine.situation op).decideThisWeek values) := by
      rw [hop, Behavior.decide, ha]
      rfl
    obtain ⟨target, hlinked⟩ := linked_of_delegate hnext
    rw [if_neg hmany]
    unfold Situation.decideThisWeek at hd
    refine follows_of_bind hd (steps + 1) fun weekStart hd => ?_
    refine follows_of_bind hd (steps + 1) fun first hd => ?_
    refine follows_of_bind hd (steps + 1) fun offset hd => ?_
    refine follows_of_bind hd (steps + 1) fun start hd => ?_
    change _ = Decision.ofExcept (op.linked >>= _) at hd
    rw [hlinked] at hd
    change _ = Decision.ofExcept (start.plusDays 7 >>= _) at hd
    refine follows_of_bind hd (steps + 1) fun stop hd => ?_
    have ht : (w.ready op values).target op = .ok next :=
      target_of_delegate ((registry_ready w op values).trans hr) hnext
    rw [modifyWithin_of_handOver hd ht]
    refine Follows.trans (query_ready w op values) ?_
    show (w.ready op values).Follows _ (Sentence.writeBetween w.query.dialect field
      (Moment.timestamp (.beginningOfDay start)).toValue
      (Moment.timestamp (.beginningOfDay stop)).toValue)
    rw [← Sentence.write_between_toValue _ w.engine.today w.engine.weekStart,
      ← query_ready w op values]
    exact follows_between (by rw [query_ready, hi]) hbetween steps _ _

/-- A range between two days appends its bounds, or fails as they do. -/
theorem follows_bounds (hi : w.query.parameterized = false)
    {range : Int → Option Int × Option Int} (hdays : op.behavior.days = some range)
    {first last : Option Int}
    (hd : op.behavior.decide (w.engine.situation op) field values =
      DateRange.decide w.engine.today first last) (steps : Nat) :
    w.Follows (modifyWithin (steps + 1) op field values w)
      ((DateRange.bounds w.engine.today first last).map
        (List.map (Sentence.writeBound w.query.dialect field))) := by
  rcases hb : DateRange.bounds w.engine.today first last with e | bs
  · -- the first bound may be on the query by then
    obtain ⟨v, -, -, hend⟩ := modifyWithin_days hdays steps field values w hd
    rw [DateRange.ending_of_bounds hb] at hend
    obtain ⟨-, hend⟩ | ⟨e', hfail, hend⟩ := hend
    · cases hend
    · cases hend
      rw [hfail]
      exact .error rfl
  · rw [DateRange.decide_of_bounds hb] at hd
    have hready : (w.ready op values).query.parameterized = false := by rw [query_ready, hi]
    have happend := Query.appendAll_bounds_inline field bs (w.ready op values).query hready
    rw [modifyWithin_succ, hd, append, List.map_map, Function.comp_def, happend, query_ready]
    exact .ok ⟨rfl, rfl⟩

/-- **A range of days is bounded as far as it is asked for.** -/
theorem follows_days (hi : w.query.parameterized = false) (f : DayFilter)
    (hop : op.behavior = f.behavior) (steps : Nat) (weekStart : Except Failure Value) :
    w.Follows (modifyWithin (steps + 1) op field values w)
      ((Sentence.days f).write w.query.dialect w.engine.today weekStart field values) := by
  have hdays : op.behavior.days = some f.range := by rw [hop, f.days_behavior]
  by_cases ha : f.behavior.accepts values.length = true
  · have hd := Behavior.decide_days hdays (w.engine.situation op) field values
    rw [hop, if_pos ha, ← hop] at hd
    rw [Sentence.write_days _ _ _ _ f ha]
    rcases hn : LeadingInteger.ofValue (values.headD .none) with e | n
    · rw [hn] at hd
      exact follows_of_fail hd steps
    · rw [hn] at hd
      exact follows_bounds hi hdays hd steps
  · have hfail := Behavior.decide_of_not_accepts (Bool.eq_false_iff.mpr ha)
      (w.engine.situation op) field
    rw [← hop] at hfail
    unfold Sentence.write
    rw [if_neg ha]
    exact follows_of_fail hfail steps

/-- An operator that searches follows its sentence. -/
theorem follows_searching (hi : w.query.parameterized = false) (f : SearchFilter)
    (hop : op.behavior = f.behavior) (steps : Nat) (today : Date)
    (weekStart : Except Failure Value) :
    w.Follows (modifyWithin (steps + 1) op field values w)
      ((Sentence.search f).write w.query.dialect today weekStart field values) := by
  rw [Sentence.write_search]
  exact follows_search hi f hop field values steps

/-- **An operator that is made to say a sentence follows it**, in a chain that is long
enough. -/
theorem follows_of_states (hr : w.engine.registry = .standard)
    (hi : w.query.parameterized = false) {s : Sentence} (h : op.states s = true) (steps : Nat) :
    w.Follows (modifyWithin (steps + s.operators) op field values w)
      (s.write w.query.dialect w.engine.today w.engine.weekStart field values) := by
  induction s generalizing op values with
  | among => exact follows_among hi (of_decide_eq_true h) steps _ _
  | notAmong => exact follows_notAmong hi (of_decide_eq_true h) steps _ _
  | comparison sign =>
    obtain ⟨hop, ht, rfl, hc⟩ := of_decide_eq_true h
    exact follows_comparison hi hop ht hc steps _ _
  | search f => exact follows_searching hi f (of_decide_eq_true h) steps _ _
  | amount => exact follows_amount hi (of_decide_eq_true h) steps _ _
  | fixed rest =>
    obtain ⟨hop, hrest, ht⟩ := of_decide_eq_true h
    exact follows_fixed hi hop hrest ht steps _ _
  | dated s ih =>
    obtain ⟨hop, hany⟩ := (Bool.and_eq_true _ _).mp h
    obtain ⟨next, hnext, hstates⟩ := (Option.any_eq_true _ _).mp hany
    exact follows_dated hr (of_decide_eq_true hop) hnext fun values => ih hstates
  | between => exact follows_between hi (of_decide_eq_true h) steps _ _
  | week =>
    obtain ⟨hop, hany⟩ := (Bool.and_eq_true _ _).mp h
    obtain ⟨next, hnext, hbetween⟩ := (Option.any_eq_true _ _).mp hany
    exact follows_week hr hi (of_decide_eq_true hop) hnext (of_decide_eq_true hbetween) steps
  | days f => exact follows_days hi f (of_decide_eq_true h) steps _

/-- **Every built-in operator says its sentence.** On an inline query it appends the
texts that its sentence has for the field and the values, and changes nothing else
of the query; where the sentence has a failure, the operator fails with it. -/
theorem follows_sentence {w : Work} (hr : w.engine.registry = .standard)
    (hi : w.query.parameterized = false) {name : String} {op : Operator}
    (hget : Registry.standard.get? name = some op) (field : String) (values : List Value) :
    ∃ s, Catalogue.sentences.lookup name = some s ∧
      w.Follows (w.modify op field values)
        (s.write w.query.dialect w.engine.today w.engine.weekStart field values) := by
  obtain ⟨s, hs, hstates, htwo⟩ := Registry.states_of_get? hget
  have hlimit : w.chainLimit = 79 - s.operators + s.operators := by
    have hlimit : w.chainLimit = 79 := by
      rw [chainLimit, hr]
      decide
    omega
  refine ⟨s, hs, ?_⟩
  rw [modify, hlimit]
  exact follows_of_states hr hi hstates _

/-- A field with a slot, a doubled percent sign, braces and a quote. -/
theorem follows_sentence_slot :
    let w : Work := ⟨.standard ⟨none, none⟩
      ⟨2024, 1, 17, by decide, by decide, by decide, by decide⟩, .empty .postgresql false⟩
    let field := "a%s%%\x7bvalue\x7d'"
    let values := [Value.text "2024-02-29"]
    ∃ (op : Operator) (s : Sentence), w.engine.registry = .standard ∧
      w.query.parameterized = false ∧ Registry.standard.get? "=d" = some op ∧
      Catalogue.sentences.lookup "=d" = some s ∧
      w.Follows (w.modify op field values)
        (s.write w.query.dialect w.engine.today w.engine.weekStart field values) ∧
      s.write w.query.dialect w.engine.today w.engine.weekStart field values =
        .ok ["a%s%%\x7bvalue\x7d' IN ('2024-02-29')"] := by
  intro w field values
  obtain ⟨op, hget⟩ := Option.isSome_iff_exists.mp
    (show (Registry.standard.get? "=d").isSome = true by decide)
  obtain ⟨s, hs, hfollows⟩ := follows_sentence (w := w) rfl rfl hget field values
  have hdated : s = .dated .among := Option.some.inj (hs.symm.trans (by decide))
  refine ⟨op, s, rfl, rfl, hget, hs, hfollows, ?_⟩
  rw [hdated]
  rfl

end Work

end ReportFilter
