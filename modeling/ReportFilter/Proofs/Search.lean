/-
# Searches

A database takes a pattern for a row of marks: a percent sign stands for any
characters, an underscore for any single one, a character behind the escape
character for itself, and so does any other (`Like.accepts`). It reads the pattern
and the escape character from literals of the predicate, by its own rules for
literals (`Dialect.readSearch`).

What a search appends reads back in every dialect as a pattern that accepts the
texts in which the lower case of the value occurs, and no others.

Key definitions: `Like.accepts`, `Dialect.readSearch`, `Value.sought`.
Key theorems: `Like.accepts_containing_iff`, `Dialect.readSearch_predicate`,
`Work.search_accepts_iff`.
-/
import Mathlib.Data.List.Infix
import ReportFilter.Proofs.Outline
import ReportFilter.Proofs.Runs

namespace ReportFilter

/-! ### Patterns -/

namespace Like

/-- What a character of a pattern stands for. -/
inductive Mark where
  /-- Any characters. -/
  | many
  /-- Any single character. -/
  | one
  /-- A character itself. -/
  | char (c : Char)
  deriving DecidableEq, Repr

/-- What a character stands for that is not escaped. -/
def Mark.ofChar (c : Char) : Mark := if c = '%' then many else if c = '_' then one else char c

/-- The marks of a pattern, which may start behind the escape character. A pattern
must not end there. -/
def marksFrom (escape : Char) : (escaped : Bool) → List Char → Option (List Mark)
  | false, [] => some []
  | true, [] => none
  | true, c :: p => (marksFrom escape false p).map (.char c :: ·)
  | false, c :: p =>
    if c = escape then marksFrom escape true p
    else (marksFrom escape false p).map (.ofChar c :: ·)

/-- Whether marks stand for a text. -/
def stand : List Mark → List Char → Bool
  | [], r => r.isEmpty
  | .many :: ms, r => r.tails.any (stand ms)
  | _ :: _, [] => false
  | .one :: ms, _ :: r => stand ms r
  | .char c :: ms, x :: r => x = c && stand ms r

/-- Whether a pattern with an escape character accepts a text. -/
def accepts (escape : Char) (pattern text : List Char) : Bool :=
  (marksFrom escape false pattern).any (stand · text)

theorem marksFrom_escaped (p : List Char) : ∀ s : List Char,
    marksFrom '\\' false (s.flatMap escapeChar ++ p) =
      (marksFrom '\\' false p).map (s.map .char ++ ·)
  | [] => by simp
  | c :: s => by
    have hc : ∀ q, marksFrom '\\' false (escapeChar c ++ q) =
        (marksFrom '\\' false q).map (.char c :: ·) := by
      intro q
      by_cases hspecial : c = '\\' ∨ c = '%' ∨ c = '_'
      · rw [escapeChar, if_pos hspecial]
        rfl
      · rw [escapeChar, if_neg hspecial]
        simp only [not_or] at hspecial
        obtain ⟨hb, hp, hu⟩ := hspecial
        simp [marksFrom, Mark.ofChar, hb, hp, hu]
    rw [List.flatMap_cons, List.append_assoc, hc, marksFrom_escaped p s, Option.map_map]
    rfl

theorem stand_chars_iff (ms : List Mark) : ∀ s r : List Char,
    stand (s.map .char ++ ms) r = true ↔ ∃ t, r = s ++ t ∧ stand ms t = true
  | [], r => by simp
  | c :: s, [] => by simp [stand]
  | c :: s, x :: r => by
    have ih := stand_chars_iff ms s r
    simp only [List.map_cons, List.cons_append, stand, Bool.and_eq_true, decide_eq_true_eq, ih,
      List.cons.injEq]
    constructor
    · rintro ⟨rfl, t, rfl, ht⟩
      exact ⟨t, ⟨rfl, rfl⟩, ht⟩
    · rintro ⟨t, ⟨rfl, rfl⟩, ht⟩
      exact ⟨rfl, t, rfl, ht⟩

/-- **The pattern of a search accepts the texts that have its text in one piece.** -/
theorem accepts_containing_iff (s : String) (r : List Char) :
    accepts '\\' (containing s).toList r = true ↔ s.toList <:+: r := by
  have hmarks : marksFrom '\\' false (containing s).toList =
      some (.many :: (s.toList.map .char ++ [.many])) := by
    have hpattern : (containing s).toList = '%' :: (s.toList.flatMap escapeChar ++ ['%']) := by
      simp [containing, escape]
    have hend : marksFrom '\\' false ['%'] = some [.many] := by decide
    have hopen : ∀ p, marksFrom '\\' false ('%' :: p) =
        (marksFrom '\\' false p).map (.many :: ·) := fun _ => rfl
    rw [hpattern, hopen, marksFrom_escaped, hend]
    rfl
  have hend : ∀ t : List Char, stand [.many] t = true := by
    intro t
    rw [stand, List.any_eq_true]
    exact ⟨[], (List.mem_tails _ _).mpr List.nil_suffix, rfl⟩
  rw [accepts, hmarks, Option.any_some, stand, List.any_eq_true, List.infix_iff_prefix_suffix]
  constructor
  · rintro ⟨t, ht, h⟩
    obtain ⟨u, rfl, -⟩ := (stand_chars_iff _ _ _).mp h
    exact ⟨s.toList ++ u, List.prefix_append _ _, (List.mem_tails _ _).mp ht⟩
  · rintro ⟨t, ⟨u, rfl⟩, ht⟩
    refine ⟨s.toList ++ u, (List.mem_tails _ _).mpr ht, ?_⟩
    exact (stand_chars_iff _ _ _).mpr ⟨u, rfl, hend u⟩

end Like

/-! ### Predicates read back -/

namespace Dialect

/-- A text literal. One that is marked by an E is PostgreSQL's, and the backslash
escapes in it. -/
def readMarked (d : Dialect) : List Char → Option (List Char × List Char)
  | [] => none
  | c :: s =>
    if c = 'E' ∧ d = postgresql then (d.ruleBehind .mark).read s else d.literalRule.read (c :: s)

/-- The escape character that the end of a predicate declares, in a literal of one
character. Where nothing is declared, BigQuery has the backslash. -/
def readEscape (d : Dialect) (s : List Char) : Option Char :=
  match s.dropPrefix? " ESCAPE ".toList with
  | none => if s = [] ∧ d = bigquery then some '\\' else none
  | some s =>
    match d.readMarked s with
    | some ([c], []) => some c
    | _ => none

/-- The pattern and the escape character of a search in the lower case of a field. -/
def readSearch (d : Dialect) (field keyword predicate : String) : Option (List Char × Char) := do
  let s ← predicate.toList.dropPrefix? ("LOWER(" ++ field ++ ") " ++ keyword ++ " ").toList
  let (pattern, rest) ← d.literalRule.read s
  let escape ← d.readEscape rest
  some (pattern, escape)

theorem readEscape_likeEscape (d : Dialect) : d.readEscape d.likeEscape.toList = some '\\' := by
  cases d <;> decide

/-- **A search reads back as its pattern**, with the backslash for the escape
character. -/
theorem readSearch_predicate (d : Dialect) (field keyword pattern : String) :
    d.readSearch field keyword
      ("LOWER(" ++ field ++ ") " ++ keyword ++ " " ++ (d.textLiteral pattern ++ d.likeEscape)) =
      some (pattern.toList, '\\') := by
  have hdrop : ∀ a b : List Char, (a ++ b).dropPrefix? a = some b := fun a b =>
    List.dropPrefix?_eq_some_iff.mpr ⟨a, rfl, BEq.rfl⟩
  have hend : d.likeEscape.toList.head? ≠ some '\'' := by
    cases d <;> decide
  rw [readSearch, String.toList_append, hdrop]
  show (d.literalRule.read _ >>= _) = _
  rw [String.toList_append, toList_textLiteral, LiteralRule.read_quoted d _ hend]
  show (d.readEscape _ >>= _) = _
  rw [readEscape_likeEscape]
  rfl

end Dialect

/-! ### Searches -/

/-- The text that a search looks for: that of the first value, and no text where
there is none. -/
def Value.sought : List Value → Except Failure String
  | [] | .none :: _ => .ok ""
  | v :: _ => v.plain

namespace Situation

theorem searchText_eq (values : List Value) :
    searchText values = (Value.sought values).map fun s => String.ofList (Text.lower s.toList) := by
  have hall : ∀ x : Except Failure String,
      (x >>= fun s => Except.ok (String.ofList (Text.lower s.toList))) =
        x.map fun s => String.ofList (Text.lower s.toList) := by
    intro x
    cases x <;> rfl
  unfold searchText Value.sought
  rcases values with _ | ⟨v, values⟩
  · rfl
  · cases v <;> exact hall _

end Situation

/-- The two built-in filters that search. -/
inductive SearchFilter where
  | contains
  | lacks
  deriving DecidableEq, Repr

namespace SearchFilter

/-- The name of a filter's operator. -/
def operator : SearchFilter → String
  | contains => "~"
  | lacks => "!~"

/-- How a predicate says the comparison. -/
def keyword : SearchFilter → String
  | contains => "LIKE"
  | lacks => "NOT LIKE"

/-- The behavior of a filter's operator. -/
def behavior : SearchFilter → Behavior
  | contains => .contains
  | lacks => .notContains

/-- The condition that a filter asks for. -/
def condition : SearchFilter → String → Condition
  | contains, s => .contains s
  | lacks, s => .lacks s

theorem exists_operator (f : SearchFilter) :
    ∃ op, Registry.standard.get? f.operator = some op ∧ op.validators = [] ∧
      op.behavior = f.behavior := by
  have hany : (Registry.standard.get? f.operator).any
      (fun op => op.validators = [] ∧ op.behavior = f.behavior) = true := by
    cases f <;> decide
  obtain ⟨op, hget, hop⟩ := (Option.any_eq_true _ _).mp hany
  exact ⟨op, hget, of_decide_eq_true hop⟩

theorem clause_condition (f : SearchFilter) (d : Dialect) (field s : String) :
    (f.condition s).clause d field =
      (Frame.single ("LOWER(" ++ field ++ ") " ++ f.keyword ++ " ") (.text (Like.containing s))
        d.likeEscape).clause := by
  cases f with
  | contains => exact Condition.clause_contains d field s
  | lacks => exact Condition.clause_lacks d field s

theorem decide_behavior (f : SearchFilter) (s : Situation) (field : String)
    (values : List Value) :
    f.behavior.decide s field values = .ofExcept ((Value.sought values).map fun t =>
      .append (f.condition (String.ofList (Text.lower t.toList)))) := by
  have haccepts : f.behavior.accepts values.length = true :=
    Behavior.accepts_of_rest (by cases f <;> rfl) _
  cases f <;>
    · simp only [behavior] at haccepts
      simp only [behavior, condition, Behavior.decide, haccepts, Bool.not_true, Bool.false_eq_true,
        if_false, Situation.searchText_eq]
      cases Value.sought values <;> rfl

end SearchFilter

namespace Work

/-- **A search appends one predicate**: its keyword between the lower case of the
field and the pattern, and what declares the escape character. -/
theorem follows_search {w : Work} (hi : w.query.parameterized = false) {op : Operator}
    (f : SearchFilter) (hop : op.behavior = f.behavior) (field : String) (values : List Value)
    (steps : Nat) :
    w.Follows (modifyWithin (steps + 1) op field values w)
      ((Value.sought values).map fun s => ["LOWER(" ++ field ++ ") " ++ f.keyword ++ " " ++
        (w.query.dialect.textLiteral (Like.containing (String.ofList (Text.lower s.toList))) ++
          w.query.dialect.likeEscape)]) := by
  have hd := f.decide_behavior (w.engine.situation op) field values
  rw [← hop] at hd
  have hfollows := follows_of_ofExcept hi hd
    (fun s => f.clause_condition w.query.dialect field (String.ofList (Text.lower s.toList))) steps
  cases hs : Value.sought values with
  | error e =>
    rw [hs] at hfollows
    exact hfollows
  | ok s =>
    rw [hs] at hfollows
    simp only [Except.bind, Frame.inline_single] at hfollows
    exact hfollows

/-- **A search finds the texts in which the value occurs.** The pattern and the
escape character of its predicate, read back by the rules of the dialect, accept a
text exactly when the lower case of the value's text occurs in it; and the
predicate that negates the search has the same pattern and escape character. -/
theorem search_accepts_iff {w : Work} (hr : w.engine.registry = .standard)
    (hi : w.query.parameterized = false) (field : String) {values : List Value} {s : String}
    (hs : Value.sought values = .ok s) :
    ∃ (p p' : String) (pattern : List Char) (escape : Char),
      w.Appends (w.applyFilter field (.text "~") values) [p] ∧
      w.Appends (w.applyFilter field (.text "!~") values) [p'] ∧
      w.query.dialect.readSearch field "LIKE" p = some (pattern, escape) ∧
      w.query.dialect.readSearch field "NOT LIKE" p' = some (pattern, escape) ∧
      ∀ r : String, Like.accepts escape pattern r.toList = true ↔
        Text.lower s.toList <:+: r.toList := by
  have happends : ∀ f : SearchFilter, w.Appends (w.applyFilter field (.text f.operator) values)
      ["LOWER(" ++ field ++ ") " ++ f.keyword ++ " " ++
        (w.query.dialect.textLiteral (Like.containing (String.ofList (Text.lower s.toList))) ++
          w.query.dialect.likeEscape)] := by
    intro f
    obtain ⟨op, hget, hvalidators, hop⟩ := f.exists_operator
    obtain ⟨steps, hsteps⟩ := exists_chainLimit hr
    have hfollows := follows_search hi f hop field values steps
    rw [hs] at hfollows
    rw [applyFilter_of_no_validators hr hget hvalidators, modify, hsteps]
    exact hfollows.appends
  refine ⟨_, _, _, '\\', happends .contains, happends .lacks,
    w.query.dialect.readSearch_predicate field "LIKE" _,
    w.query.dialect.readSearch_predicate field "NOT LIKE" _, fun r => ?_⟩
  rw [Like.accepts_containing_iff, String.toList_ofList]

/-- Wildcards, a quote and a backslash in the value. -/
theorem search_accepts_iff_wildcards :
    let w : Work := ⟨.standard ⟨none, none⟩
      ⟨2024, 1, 17, by decide, by decide, by decide, by decide⟩, .empty .mysql false⟩
    let values := [Value.text "50%_\\'S"]
    w.engine.registry = .standard ∧ w.query.parameterized = false ∧
      Value.sought values = .ok "50%_\\'S" ∧
      ∃ (p p' : String) (pattern : List Char) (escape : Char),
        w.Appends (w.applyFilter "name" (.text "~") values) [p] ∧
        w.Appends (w.applyFilter "name" (.text "!~") values) [p'] ∧
        w.query.dialect.readSearch "name" "LIKE" p = some (pattern, escape) ∧
        w.query.dialect.readSearch "name" "NOT LIKE" p' = some (pattern, escape) ∧
        ∀ r : String, Like.accepts escape pattern r.toList = true ↔
          Text.lower "50%_\\'S".toList <:+: r.toList := by
  intro w values
  exact ⟨rfl, rfl, rfl, search_accepts_iff rfl rfl "name" rfl⟩

end Work
end ReportFilter
