/-
# Values do not change the SQL around them

Two runs of filters on the same fields, with the same operators and as many
values, give SQL texts of one outline, whatever texts the values are.

Frames with the same texts around values give texts that are scanned alike
(`Frame.Alike.inline`): every literal opens behind a character of no word, so it
is read by the dialect's own rule, leaves only its quotes behind, and is closed
by what follows. Texts that are scanned alike stay so when they are joined
(`Dialect.Alike.intercalate`). What the operators on texts decide on has the same
texts around its values in both runs (`Behavior.decide_textual`).

Key definitions: `Dialect.Alike`, `Frame.Alike`, `TextFilter.SameShape`.
Key theorems: `Dialect.Alike.intercalate`, `Behavior.decide_textual`,
`Work.outline_eq_of_sameShape`.
-/
import Mathlib.Data.List.Forall2
import ReportFilter.Proofs.Outline
import ReportFilter.Proofs.Runs

namespace ReportFilter

/-! ### Texts that are scanned alike -/

namespace Dialect

/-- Two texts that are scanned alike and leave no literal open. -/
structure Alike (d : Dialect) (s t : String) : Prop where
  scan_eq : d.scan (.outside .none) s.toList = d.scan (.outside .none) t.toList
  closed : (d.scan (.outside .none) s.toList).1.IsClosed

variable {d : Dialect}

theorem alike_of_no_quote {s : String} (h : '\'' ∉ s.toList) : d.Alike s s := by
  refine ⟨rfl, ?_⟩
  rw [scan_of_no_quote d _ _ h]
  exact trivial

/-- Texts that are scanned alike have one outline. -/
theorem Alike.exists_outline {s t : String} (h : d.Alike s t) :
    ∃ text, d.outline s = some text ∧ d.outline t = some text := by
  obtain ⟨rest, hrest⟩ := h.closed.exists_close
  refine ⟨(d.scan (.outside .none) s.toList).2 ++ rest, ?_, ?_⟩
  · rw [outline, hrest]
    rfl
  · rw [outline, ← h.scan_eq, hrest]
    rfl

/-- What joins predicates closes the last literal and ends the last word. -/
theorem scan_and {p : SqlPlace} (h : p.IsClosed) :
    (d.scan p " AND ".toList).1 = .outside .none := by
  cases p with
  | outside w => cases w <;> rfl
  | literal r p =>
    have hp : p = .quote := h
    subst hp
    obtain ⟨doubled, escaped⟩ := r
    cases doubled <;> rfl

theorem Alike.and {s t s' t' : String} (h : d.Alike s t) (h' : d.Alike s' t') :
    d.Alike (s ++ " AND " ++ s') (t ++ " AND " ++ t') := by
  have hand : (d.scan (d.scan (.outside .none) s.toList).1 " AND ".toList).1 = .outside .none :=
    scan_and h.closed
  constructor
  · simp only [String.toList_append, scan_append, ← h.scan_eq, hand, h'.scan_eq]
  · simp only [String.toList_append, scan_append, hand]
    exact h'.closed

/-- **Joined predicates are scanned alike if the single ones are.** -/
theorem Alike.intercalate {ss ts : List String} (h : List.Forall₂ d.Alike ss ts) :
    d.Alike (" AND ".intercalate ss) (" AND ".intercalate ts) := by
  induction h with
  | nil => exact alike_of_no_quote (by decide)
  | cons hst hrest ih =>
    cases hrest with
    | nil => simpa using hst
    | cons hst' hrest =>
      rw [String.intercalate_cons_cons, String.intercalate_cons_cons]
      exact hst.and ih

end Dialect

/-! ### Frames with the same texts around their values -/

namespace Dialect

/-- Texts behind literals after each of which the next literal can follow, and
the last of which leaves no literal open. -/
def Separates (d : Dialect) : List String → Prop
  | [] => True
  | [t] => (d.scan d.behindLiteral t.toList).1.IsClosed
  | t :: u :: ts => (d.scan d.behindLiteral t.toList).1 = .outside .none ∧ d.Separates (u :: ts)

variable {d : Dialect}

/-- Of a literal and what stands behind it, only the latter matters. -/
theorem scan_weave_cons (s t : String) (ts arguments : List String) :
    d.scan (.outside .none) (Frame.weave (t :: ts) (d.textLiteral s :: arguments)).toList =
      ((d.scan (d.scan d.behindLiteral t.toList).1 (Frame.weave ts arguments).toList).1,
        '\'' :: ((d.scan d.behindLiteral t.toList).2 ++
          (d.scan (d.scan d.behindLiteral t.toList).1 (Frame.weave ts arguments).toList).2)) := by
  rw [Frame.weave, String.toList_append, String.toList_append, List.append_assoc, scan_append,
    scan_textLiteral, scan_append]
  rfl

/-- **Literals in the same places are scanned alike.** -/
theorem Separates.alike_weave : ∀ {ts : List String}, d.Separates ts → ∀ {ss ss' : List String},
    ss.length = ts.length → ss'.length = ts.length →
      d.Alike (Frame.weave ts (ss.map d.textLiteral)) (Frame.weave ts (ss'.map d.textLiteral))
  | [], _, [], [], _, _ => alike_of_no_quote (s := "") (by decide)
  | [t], hd, [s], [s'], _, _ => by
    constructor
    · rw [List.map_cons, List.map_cons, scan_weave_cons, scan_weave_cons]
    · rw [List.map_cons, scan_weave_cons]
      exact hd
  | t :: u :: ts, hd, s :: ss, s' :: ss', h, h' => by
    obtain ⟨ht, hts⟩ := hd
    have ih := hts.alike_weave (Nat.succ.inj h) (Nat.succ.inj h')
    constructor
    · rw [List.map_cons, List.map_cons, scan_weave_cons, scan_weave_cons, ht, ih.scan_eq]
    · rw [List.map_cons, scan_weave_cons, ht]
      exact ih.closed

end Dialect

/-- The literals of texts. -/
theorem Dialect.literals_texts (d : Dialect) : ∀ ss : List String,
    (ss.map Value.text).mapM d.literal = .ok (ss.map d.textLiteral)
  | [] => rfl
  | s :: ss => by
    have hs : d.literal (.text s) = .ok (d.textLiteral s) := rfl
    rw [List.map_cons, List.mapM_cons, hs, d.literals_texts ss]
    rfl

/-- Two frames around texts that differ in nothing else. Their first literal
opens outside words, and all are closed. -/
structure Frame.Alike (d : Dialect) (f g : Frame) : Prop where
  head : f.head = g.head
  texts : f.texts = g.texts
  values : (∃ ss : List String, f.values = ss.map .text) ∧
    ∃ ss : List String, g.values = ss.map .text
  opens : f.texts = [] ∧ '\'' ∉ f.head.toList ∨
    (d.scan (.outside .none) f.head.toList).1 = .outside .none
  separates : d.Separates f.texts

/-- **Such frames have literals for all values and are scanned alike.** -/
theorem Frame.Alike.inline {d : Dialect} {f g : Frame} (h : Frame.Alike d f g) :
    ∃ s t, f.inline d = .ok s ∧ g.inline d = .ok t ∧ d.Alike s t := by
  obtain ⟨⟨ss, hf⟩, ss', hg⟩ := h.values
  have hlen : ss.length = f.texts.length := by rw [length_texts, hf, List.length_map]
  have hlen' : ss'.length = f.texts.length := by
    rw [h.texts, length_texts, hg, List.length_map]
  have halike := h.separates.alike_weave hlen hlen'
  refine ⟨f.fill (ss.map d.textLiteral), g.fill (ss'.map d.textLiteral), ?_, ?_, ?_⟩
  · rw [Frame.inline, hf, d.literals_texts]
    rfl
  · rw [Frame.inline, hg, d.literals_texts]
    rfl
  · rw [fill, fill, ← h.head, ← h.texts]
    rcases h.opens with ⟨hnil, hq⟩ | hopen
    · have hweave : ∀ l, weave [] l = "" := fun _ => rfl
      rw [hnil, hweave, hweave, String.append_empty]
      exact Dialect.alike_of_no_quote hq
    · constructor
      · simp only [String.toList_append, Dialect.scan_append, hopen, halike.scan_eq]
      · simp only [String.toList_append, Dialect.scan_append, hopen]
        exact halike.closed

/-! ### Conditions on texts -/

namespace Frame

variable {d : Dialect} {head close : String}

theorem alike_fixed (head : String) (h : '\'' ∉ head.toList) :
    Frame.Alike d ⟨head, []⟩ ⟨head, []⟩ :=
  ⟨rfl, rfl, ⟨⟨[], rfl⟩, [], rfl⟩, .inl ⟨rfl, h⟩, trivial⟩

theorem texts_row : ∀ {vs ws : List Value}, vs.length = ws.length →
    (row close vs).map (·.2) = (row close ws).map (·.2)
  | [], [], _ => rfl
  | [_], [_], _ => rfl
  | _ :: v :: vs, _ :: w :: ws, h => by
    have ih : (row close (v :: vs)).map (·.2) = (row close (w :: ws)).map (·.2) :=
      texts_row (Nat.succ.inj h)
    rw [row, row, List.map_cons, List.map_cons, ih]

/-- Commas between literals and a text behind the last one. -/
theorem separates_row (hclose : (d.scan d.behindLiteral close.toList).1.IsClosed) :
    ∀ vs : List Value, d.Separates ((row close vs).map (·.2))
  | [] => trivial
  | [_] => hclose
  | _ :: w :: vs => by
    have hcomma : (d.scan d.behindLiteral ", ".toList).1 = .outside .none := by cases d <;> rfl
    have ih := separates_row hclose (w :: vs)
    cases vs with
    | nil => exact ⟨hcomma, ih⟩
    | cons u vs => exact ⟨hcomma, ih⟩

theorem alike_listed (hhead : (d.scan (.outside .none) head.toList).1 = .outside .none)
    (hclose : (d.scan d.behindLiteral close.toList).1.IsClosed) {ss ss' : List String}
    (hlen : ss.length = ss'.length) :
    Frame.Alike d (listed head close (ss.map .text)) (listed head close (ss'.map .text)) :=
  ⟨rfl, texts_row (by simpa using hlen), ⟨⟨ss, values_listed _ _ _⟩, ss', values_listed _ _ _⟩,
    .inr hhead, separates_row hclose _⟩

theorem alike_single (hhead : (d.scan (.outside .none) head.toList).1 = .outside .none)
    (hclose : (d.scan d.behindLiteral close.toList).1.IsClosed) (s s' : String) :
    Frame.Alike d (single head (.text s) close) (single head (.text s') close) :=
  ⟨rfl, rfl, ⟨⟨[s], rfl⟩, [s'], rfl⟩, .inr hhead, hclose⟩

end Frame

/-- Two conditions that state such frames. -/
def Condition.Alike (d : Dialect) (field : String) (c c' : Condition) : Prop :=
  ∃ f g : Frame, c.clause d field = f.clause ∧ c'.clause d field = g.clause ∧ Frame.Alike d f g

namespace Condition

variable {d : Dialect} {field : String}

/-- Behind a text without quotes that ends in a character of no word, the first
literal opens. -/
theorem opens_of_last {head s : String} {c : Char} (h : head.toList = s.toList ++ [c])
    (hs : '\'' ∉ s.toList) (hc : isWordChar c = false ∧ c ≠ '\'') :
    (d.scan (.outside .none) head.toList).1 = .outside .none := by
  rw [h, d.scan_plain .none hs hc.1 hc.2]

theorem alike_never : Alike d field never never :=
  ⟨_, _, rfl, rfl, Frame.alike_fixed "1=0" (by decide)⟩

theorem alike_missing (hf : '\'' ∉ field.toList) : Alike d field missing missing :=
  ⟨_, _, rfl, rfl, Frame.alike_fixed (field ++ " IS NULL") (by simpa using hf)⟩

theorem alike_oneOf (hf : '\'' ∉ field.toList) {ss ss' : List String} (hss : ss ≠ [])
    (hlen : ss.length = ss'.length) :
    Alike d field (oneOf (ss.map .text)) (oneOf (ss'.map .text)) := by
  have hss' : ss' ≠ [] := List.ne_nil_of_length_pos (hlen ▸ List.length_pos_of_ne_nil hss)
  have hhead : (d.scan (.outside .none) (field ++ " IN (").toList).1 = .outside .none :=
    opens_of_last (s := field ++ " IN ") (c := '(') (by simp) (by simpa using hf) (by decide)
  exact ⟨_, _, clause_oneOf d field (by simpa using hss),
    clause_oneOf d field (by simpa using hss'),
    Frame.alike_listed hhead (by cases d <;> decide) hlen⟩

theorem alike_noneOf (hf : '\'' ∉ field.toList) {ss ss' : List String} (hss : ss ≠ [])
    (hlen : ss.length = ss'.length) :
    Alike d field (noneOf (ss.map .text)) (noneOf (ss'.map .text)) := by
  have hss' : ss' ≠ [] := List.ne_nil_of_length_pos (hlen ▸ List.length_pos_of_ne_nil hss)
  have hhead : (d.scan (.outside .none)
      ("(" ++ field ++ " IS NULL OR " ++ field ++ " NOT IN (").toList).1 = .outside .none :=
    opens_of_last (s := "(" ++ field ++ " IS NULL OR " ++ field ++ " NOT IN ") (c := '(')
      (by simp) (by simpa using hf) (by decide)
  exact ⟨_, _, clause_noneOf d field (by simpa using hss),
    clause_noneOf d field (by simpa using hss'),
    Frame.alike_listed hhead (by cases d <;> decide) hlen⟩

/-- Two lists of texts of one length, or what is said instead of an empty one. -/
theorem alike_ifEmpty {fixed : Condition} {listed : List Value → Condition}
    (hfixed : Alike d field fixed fixed)
    (hlisted : ∀ ss ss' : List String, ss ≠ [] → ss.length = ss'.length →
      Alike d field (listed (ss.map .text)) (listed (ss'.map .text)))
    {ss ss' : List String} (hlen : ss.length = ss'.length) :
    Alike d field (if ss = [] then fixed else listed (ss.map .text))
      (if ss' = [] then fixed else listed (ss'.map .text)) := by
  by_cases hss : ss = []
  · have hss' : ss' = [] := List.length_eq_zero_iff.mp (by rw [← hlen, hss]; rfl)
    rw [if_pos hss, if_pos hss']
    exact hfixed
  · have hss' : ss' ≠ [] := List.ne_nil_of_length_pos (hlen ▸ List.length_pos_of_ne_nil hss)
    rw [if_neg hss, if_neg hss']
    exact hlisted ss ss' hss hlen

/-- The pattern of a search opens outside words. -/
theorem opens_search {comparison : String} (hf : '\'' ∉ field.toList)
    (hc : '\'' ∉ comparison.toList) :
    (d.scan (.outside .none) ("LOWER(" ++ field ++ ") " ++ comparison ++ " ").toList).1 =
      .outside .none :=
  opens_of_last (s := "LOWER(" ++ field ++ ") " ++ comparison) (c := ' ') (by simp)
    (by simpa using ⟨hf, hc⟩) (by decide)

theorem alike_contains (hf : '\'' ∉ field.toList) (s s' : String) :
    Alike d field (contains s) (contains s') :=
  ⟨_, _, clause_contains d field s, clause_contains d field s',
    Frame.alike_single (opens_search hf (by decide)) (by cases d <;> decide) _ _⟩

theorem alike_lacks (hf : '\'' ∉ field.toList) (s s' : String) :
    Alike d field (lacks s) (lacks s') :=
  ⟨_, _, clause_lacks d field s, clause_lacks d field s',
    Frame.alike_single (opens_search hf (by decide)) (by cases d <;> decide) _ _⟩

/-- What the default template states of two texts. -/
theorem alike_compared {comparison : String} (hf : '\'' ∉ field.toList)
    (hc : '%' ∉ comparison.toList ∧ '\'' ∉ comparison.toList) (s s' : String) :
    Alike d field
      (stated ⟨Fragment.escape field ++ (" " ++ comparison ++ " ") ++ "%s", [.text s]⟩)
      (stated ⟨Fragment.escape field ++ (" " ++ comparison ++ " ") ++ "%s", [.text s']⟩) := by
  have hop : '%' ∉ (" " ++ comparison ++ " ").toList := by simpa using hc.1
  have hhead : (d.scan (.outside .none) (field ++ (" " ++ comparison ++ " ")).toList).1 =
      .outside .none :=
    opens_of_last (s := field ++ (" " ++ comparison)) (c := ' ') (by simp)
      (by simpa using ⟨hf, hc.2⟩) (by decide)
  exact ⟨_, _, (Frame.clause_compared hop field _).symm, (Frame.clause_compared hop field _).symm,
    Frame.alike_single hhead (by cases d <;> decide) s s'⟩

end Condition

/-! ### The operators on texts -/

/-- Whether a text is empty or white space. -/
def Text.blank (s : String) : Bool := s.toList.all Text.isBlank

/-- The operators on texts: they compare, search, or look for values in a list. -/
def Registry.textOperators : List String := ["=", "!", "<", ">", "<=", ">=", "~", "!~"]

/-- An operator that no validator guards and that decides by its values alone. A
template is the default one. -/
def Operator.IsTextual (op : Operator) : Prop :=
  op.validators = [] ∧ op.behavior ∈ [.template, .equals, .notEquals, .contains, .notContains] ∧
    (op.behavior = .template → op.template = some defaultTemplate ∧
      '%' ∉ op.comparison.toList ∧ '\'' ∉ op.comparison.toList)

instance (op : Operator) : Decidable op.IsTextual := by
  unfold Operator.IsTextual
  infer_instance

theorem Registry.exists_textual {name : String} (h : name ∈ textOperators) :
    ∃ op, standard.get? name = some op ∧ op.IsTextual := by
  have hall : ∀ name ∈ textOperators, (standard.get? name).any (·.IsTextual) = true := by decide
  have hname := hall name h
  cases hget : standard.get? name with
  | none =>
    rw [hget] at hname
    cases hname
  | some op =>
    rw [hget] at hname
    exact ⟨op, rfl, of_decide_eq_true hname⟩

/-- An operator on texts takes any number of values. -/
theorem Operator.IsTextual.accepts {op : Operator} (h : op.IsTextual) (count : Nat) :
    op.behavior.accepts count = true := by
  have hall : ∀ b ∈ [Behavior.template, .equals, .notEquals, .contains, .notContains],
      b.counts = (0, none) := by decide
  rw [Behavior.accepts_iff, hall _ h.2.1]
  exact ⟨Nat.zero_le count, fun n hn => (by cases hn)⟩

theorem compact_texts : ∀ ss : List String,
    compact (ss.map .text) = .ok ((ss.filter fun s => !Text.blank s).map .text)
  | [] => rfl
  | s :: ss => by
    have hs : (Value.text s).isBlank = .ok (Text.blank s) := rfl
    rw [List.map_cons, compact, hs, compact_texts ss, List.filter_cons]
    cases Text.blank s <;> rfl

/-- As many texts are not blank if the blank ones stand in the same places. -/
theorem length_filter_blank {ss ts : List String}
    (h : List.Forall₂ (fun s t => Text.blank s = Text.blank t) ss ts) :
    (ss.filter fun s => !Text.blank s).length = (ts.filter fun s => !Text.blank s).length := by
  induction h with
  | nil => rfl
  | @cons s t ss ts hst _ ih =>
    rw [List.filter_cons, List.filter_cons, hst]
    cases Text.blank t with
    | true => exact ih
    | false => exact congrArg Nat.succ ih

namespace Situation

theorem decideEquals_texts (ss : List String) :
    decideEquals (ss.map .text) = .append (if ss = [] then .never else .oneOf (ss.map .text)) := by
  have hfilter : (ss.map Value.text).filter (· ≠ .none) = ss.map .text := by
    rw [List.filter_eq_self]
    simp
  simp only [decideEquals, hfilter, List.map_eq_nil_iff]

theorem decideNotEquals_texts (ss : List String) :
    decideNotEquals (ss.map .text) = .ok (.append
      (if ss.filter (fun s => !Text.blank s) = [] then .missing
        else .noneOf ((ss.filter fun s => !Text.blank s).map .text))) := by
  rw [decideNotEquals, compact_texts]
  simp only [bind, Except.bind, List.map_eq_nil_iff]

theorem exists_searchText (ss : List String) :
    ∃ s, searchText (ss.map .text) = .ok s := by
  cases ss <;> exact ⟨_, rfl⟩

end Situation

/-- **What an operator on texts asks for has the same texts around its values,
whatever texts the values are.** -/
theorem Behavior.decide_textual (s s' : Situation) (hs : s'.operator = s.operator)
    (hop : s.operator.IsTextual) {field : String} (hf : '\'' ∉ field.toList) (d : Dialect)
    {ss ts : List String} (h : List.Forall₂ (fun s t => Text.blank s = Text.blank t) ss ts) :
    ∃ c c', s.operator.behavior.decide s field (ss.map .text) = .append c ∧
      s'.operator.behavior.decide s' field (ts.map .text) = .append c' ∧
      Condition.Alike d field c c' := by
  have ha : ∀ vs : List Value, (!s.operator.behavior.accepts vs.length) = false := fun vs => by
    rw [hop.accepts]
    rfl
  obtain ⟨-, hb, ht⟩ := hop
  simp only [hs, Behavior.decide, ha, Bool.false_eq_true, if_false]
  simp only [List.mem_cons, List.not_mem_nil, or_false] at hb
  -- a comparison, the two lists of values, the two searches
  rcases hb with hb | hb | hb | hb | hb <;> simp only [hb]
  · obtain ⟨htemplate, hc⟩ := ht hb
    have htemplate' : s'.operator.template = some defaultTemplate := hs ▸ htemplate
    rw [Situation.decideTemplate_comparing s field _ htemplate,
      Situation.decideTemplate_comparing s' field _ htemplate', hs]
    have hhead : ∀ ss : List String,
        (ss.map Value.text).headD (.text "") = .text (ss.headD "") := by
      intro ss
      cases ss <;> rfl
    rw [hhead, hhead]
    exact ⟨_, _, rfl, rfl, Condition.alike_compared hf hc _ _⟩
  · refine ⟨_, _, Situation.decideEquals_texts ss, Situation.decideEquals_texts ts, ?_⟩
    exact Condition.alike_ifEmpty Condition.alike_never
      (fun _ _ hne hl => Condition.alike_oneOf hf hne hl) h.length_eq
  · rw [Situation.decideNotEquals_texts, Situation.decideNotEquals_texts]
    refine ⟨_, _, rfl, rfl, ?_⟩
    exact Condition.alike_ifEmpty (Condition.alike_missing hf)
      (fun _ _ hne hl => Condition.alike_noneOf hf hne hl) (length_filter_blank h)
  · obtain ⟨s₁, h₁⟩ := Situation.exists_searchText ss
    obtain ⟨s₂, h₂⟩ := Situation.exists_searchText ts
    rw [h₁, h₂]
    exact ⟨_, _, rfl, rfl, Condition.alike_contains hf s₁ s₂⟩
  · obtain ⟨s₁, h₁⟩ := Situation.exists_searchText ss
    obtain ⟨s₂, h₂⟩ := Situation.exists_searchText ts
    rw [h₁, h₂]
    exact ⟨_, _, rfl, rfl, Condition.alike_lacks hf s₁ s₂⟩

/-! ### Runs of filters on texts -/

/-- A filter whose values are texts. -/
structure TextFilter where
  field : String
  operator : String
  values : List String
  deriving DecidableEq, Repr

namespace TextFilter

/-- The filter as a request. -/
def request (f : TextFilter) : Request := .filter f.field (.text f.operator) (f.values.map .text)

/-- The same field, the same operator, and as many values, with blank ones in the
same places. -/
structure SameShape (f g : TextFilter) : Prop where
  field : g.field = f.field
  operator : g.operator = f.operator
  values : List.Forall₂ (fun s t => Text.blank s = Text.blank t) f.values g.values

end TextFilter

/-- Built-in operators at work on inline queries whose predicates are scanned
alike. -/
structure Work.Isolated (d : Dialect) (w v : Work) : Prop where
  standard : w.engine.registry = .standard ∧ v.engine.registry = .standard
  dialect : w.query.dialect = d ∧ v.query.dialect = d
  inline : w.query.parameterized = false ∧ v.query.parameterized = false
  predicates : List.Forall₂ d.Alike w.query.predicates v.query.predicates

namespace Work

/-- An operator without validators that decides on one condition appends it. -/
theorem query_applyFilter {w : Work} (hr : w.engine.registry = .standard) {name : String}
    {op : Operator} (hget : Registry.standard.get? name = some op) (hop : op.validators = [])
    {field : String} {values : List Value} {c : Condition}
    (hd : op.behavior.decide (w.engine.situation op) field values = .append c) :
    (w.applyFilter field (.text name) values).state.query =
        (w.query.append (c.clause w.query.dialect field)).state ∧
      (w.applyFilter field (.text name) values).state.engine.registry = .standard := by
  obtain ⟨steps, hsteps⟩ := exists_chainLimit hr
  rw [applyFilter_of_no_validators hr hget hop, modify, hsteps, modifyWithin_of_append hd]
  exact ⟨rfl, (registry_ready w op values).trans hr⟩

variable {d : Dialect}

/-- **Filters of one shape append predicates that are scanned alike.** -/
theorem Isolated.serve {w v : Work} (h : Isolated d w v) {f g : TextFilter} (hfg : f.SameShape g)
    (hop : f.operator ∈ Registry.textOperators) (hq : '\'' ∉ f.field.toList) :
    Isolated d (w.serve f.request).state (v.serve g.request).state := by
  obtain ⟨op, hget, htext⟩ := Registry.exists_textual hop
  obtain ⟨c, c', hc, hc', F, G, hF, hG, halike⟩ :=
    Behavior.decide_textual (w.engine.situation op) (v.engine.situation op) rfl htext hq d
      hfg.values
  obtain ⟨s, t, hs, ht, hst⟩ := halike.inline
  obtain ⟨hw, hw'⟩ := query_applyFilter h.standard.1 hget htext.1 hc
  obtain ⟨hv, hv'⟩ := query_applyFilter h.standard.2 hget htext.1 hc'
  have hpush : (w.query.append (c.clause w.query.dialect f.field)).state = w.query.push s := by
    rw [h.dialect.1, hF, Query.append_clause, h.inline.1, h.dialect.1, hs]
    rfl
  have hpush' : (v.query.append (c'.clause v.query.dialect f.field)).state = v.query.push t := by
    rw [h.dialect.2, hG, Query.append_clause, h.inline.2, h.dialect.2, ht]
    rfl
  rw [hpush] at hw
  rw [hpush'] at hv
  -- both queries have got one more predicate, and nothing else of them has changed
  simp only [TextFilter.request, Work.serve, hfg.field, hfg.operator]
  refine ⟨⟨hw', hv'⟩, ?_, ?_, ?_⟩
  · rw [hw, hv]
    exact h.dialect
  · rw [hw, hv]
    exact h.inline
  · rw [hw, hv]
    exact List.rel_append h.predicates (.cons hst .nil)

/-- So do several of them. -/
theorem Isolated.after {fs gs : List TextFilter} (hfg : List.Forall₂ TextFilter.SameShape fs gs) :
    ∀ {w v : Work}, Isolated d w v →
      (∀ f ∈ fs, f.operator ∈ Registry.textOperators ∧ '\'' ∉ f.field.toList) →
        Isolated d (w.after (fs.map TextFilter.request)) (v.after (gs.map TextFilter.request)) := by
  induction hfg with
  | nil => exact fun h _ => h
  | @cons f g fs gs hfg _ ih =>
    intro w v h hfs
    obtain ⟨hop, hq⟩ := hfs f List.mem_cons_self
    exact ih (h.serve hfg hop hq) fun f' hf' => hfs f' (List.mem_cons_of_mem _ hf')

/-- **Values do not change the SQL around them**: two runs of filters on texts,
of one shape but with any values, give SQL texts that leave no literal open and
have the same outline. -/
theorem outline_eq_of_sameShape (d : Dialect) {e₁ e₂ : Engine} (h₁ : e₁.registry = .standard)
    (h₂ : e₂.registry = .standard) {fs gs : List TextFilter}
    (hfg : List.Forall₂ TextFilter.SameShape fs gs)
    (hfs : ∀ f ∈ fs, f.operator ∈ Registry.textOperators ∧ '\'' ∉ f.field.toList) :
    ∃ text,
      d.outline (Work.after ⟨e₁, .empty d false⟩ (fs.map TextFilter.request)).query.sql =
        some text ∧
      d.outline (Work.after ⟨e₂, .empty d false⟩ (gs.map TextFilter.request)).query.sql =
        some text := by
  have hstart : Isolated d ⟨e₁, .empty d false⟩ ⟨e₂, .empty d false⟩ :=
    ⟨⟨h₁, h₂⟩, ⟨rfl, rfl⟩, ⟨rfl, rfl⟩, .nil⟩
  have hend := hstart.after hfg hfs
  exact (Dialect.Alike.intercalate hend.predicates).exists_outline

/-- Quotes, backslashes and percent signs of another run change nothing. -/
theorem outline_eq_of_sameShape_quotes :
    let e := Engine.standard ⟨none, none⟩ ⟨2024, 1, 17, by decide, by decide, by decide, by decide⟩
    let fs : List TextFilter :=
      [⟨"owner", "=", ["ann", "bob"]⟩, ⟨"name", "~", ["50%_"]⟩, ⟨"state", "!", ["x", " "]⟩]
    let gs : List TextFilter :=
      [⟨"owner", "=", ["' OR 1=1 --", "\\"]⟩, ⟨"name", "~", ["\\'%s"]⟩,
        ⟨"state", "!", ["''\\'", ""]⟩]
    List.Forall₂ TextFilter.SameShape fs gs ∧
      (∀ f ∈ fs, f.operator ∈ Registry.textOperators ∧ '\'' ∉ f.field.toList) ∧
      ∃ text,
        Dialect.mysql.outline (Work.after ⟨e, .empty .mysql false⟩
          (fs.map TextFilter.request)).query.sql = some text ∧
        Dialect.mysql.outline (Work.after ⟨e, .empty .mysql false⟩
          (gs.map TextFilter.request)).query.sql = some text := by
  intro e fs gs
  have hfg : List.Forall₂ TextFilter.SameShape fs gs := by
    refine .cons ⟨rfl, rfl, ?_⟩ (.cons ⟨rfl, rfl, ?_⟩ (.cons ⟨rfl, rfl, ?_⟩ .nil))
    · exact .cons (by decide) (.cons (by decide) .nil)
    · exact .cons (by decide) .nil
    · exact .cons (by decide) (.cons (by decide) .nil)
  have hfs : ∀ f ∈ fs, f.operator ∈ Registry.textOperators ∧ '\'' ∉ f.field.toList := by decide
  exact ⟨hfg, hfs, outline_eq_of_sameShape .mysql rfl rfl hfg hfs⟩

end Work
end ReportFilter
