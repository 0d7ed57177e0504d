/-
# Text literals read back

A database reads a text literal character by character. A quote closes it,
unless the dialect takes two quotes for one and another one follows; where the
backslash escapes, the character behind it stands for itself. The rules are
those of the databases and do not look at how literals are written.

Every dialect quotes a text so that its own rule gives exactly the text back
and stops right behind the literal, whatever follows, as long as that is not
another quote.

A rule is a machine that takes one character at a time, as are the ones that
scan a SQL text and cut it into tokens. What goes through a text that way takes
it piece by piece (`Machine.Follows.append`).

Key definitions: `Machine`, `Machine.Follows`, `LiteralRule`,
`LiteralRule.step`, `LiteralRule.read`, `Dialect.literalRule`.
Key theorems: `Machine.Follows.append`, `Machine.append_of_steps`,
`LiteralRule.read_quoted`, `Dialect.read_textLiteral`,
`Dialect.quoteText_eq_passes`.
-/
import ReportFilter.Dialect

namespace ReportFilter

/-! ### Machines that go through a text -/

/-- A machine takes a text character by character. A character leads to a state and adds to
the output, unless the machine stops before it. -/
abbrev Machine (σ α : Type) := σ → Char → Option (σ × List α)

namespace Machine

variable {σ α β : Type} {m : Machine σ α}

/-- Where a text leads to and what it puts out, if the machine does not stop in it. -/
def run (m : Machine σ α) : σ → List Char → Option (σ × List α)
  | p, [] => some (p, [])
  | p, c :: s => (m p c).bind fun y => (m.run y.1 s).map fun z => (z.1, y.2 ++ z.2)

/-- What a function gives for a text is put together from the outputs of a machine: the
first character's is added to what the rest gives. -/
structure Follows (m : Machine σ α) (add : List α → β → β) (f : σ → List Char → β) : Prop where
  add_nil : ∀ b, add [] b = b
  add_append : ∀ x y b, add (x ++ y) b = add x (add y b)
  cons : ∀ {p c q x}, m p c = some (q, x) → ∀ s, f p (c :: s) = add x (f q s)

/-- **A text is taken piece by piece.** -/
theorem Follows.append {add : List α → β → β} {f : σ → List Char → β} (h : m.Follows add f) :
    ∀ {s : List Char} {p q : σ} {x : List α}, m.run p s = some (q, x) →
      ∀ t, f p (s ++ t) = add x (f q t)
  | [], p, q, x, hrun, t => by
    cases hrun
    exact (h.add_nil _).symm
  | c :: s, p, q, x, hrun, t => by
    obtain ⟨⟨p', x'⟩, hstep, hrest⟩ := Option.bind_eq_some_iff.mp hrun
    obtain ⟨⟨q', y⟩, hs, hxy⟩ := Option.map_eq_some_iff.mp hrest
    cases hxy
    rw [List.cons_append, h.cons hstep, Follows.append h hs, h.add_append]

theorem follows_of_map {add : List α → β → β} {f : σ → List Char → Option β}
    (hnil : ∀ b, add [] b = b) (happend : ∀ x y b, add (x ++ y) b = add x (add y b))
    (hcons : ∀ {p c q x}, m p c = some (q, x) → ∀ s, f p (c :: s) = (f q s).map (add x)) :
    m.Follows (fun x => Option.map (add x)) f := by
  refine ⟨fun b => ?_, fun x y b => ?_, hcons⟩
  · rw [funext hnil, Option.map_id']
  · rw [Option.map_map, funext (happend x y)]
    rfl

theorem follows_run (m : Machine σ α) :
    m.Follows (fun x => Option.map fun y => (y.1, x ++ y.2)) m.run :=
  follows_of_map (fun _ => rfl) (fun _ _ _ => by rw [List.append_assoc])
    fun hc s => by rw [run, hc, Option.bind_some]

/-- A function that goes through a text by steps, of which none stops, takes it piece by
piece. -/
theorem append_of_steps (step : σ → Char → σ × List α) (f : σ → List Char → σ × List α)
    (hnil : ∀ p, f p [] = (p, []))
    (hcons : ∀ p c s, f p (c :: s) =
      ((f (step p c).1 s).1, (step p c).2 ++ (f (step p c).1 s).2)) (s t : List Char) (p : σ) :
    f p (s ++ t) = ((f (f p s).1 t).1, (f p s).2 ++ (f (f p s).1 t).2) := by
  -- the steps are a machine that stops nowhere, and `f` is both its run and what follows it
  let m : Machine σ α := fun p c => some (step p c)
  have hrun : ∀ s p, m.run p s = some (f p s) := by
    intro s
    induction s with
    | nil => exact fun p => congrArg some (hnil p).symm
    | cons c s ih =>
      intro p
      rw [run, Option.bind_some, ih, hcons]
      rfl
  have hfollows : m.Follows (fun x b => (b.1, x ++ b.2)) f := by
    refine ⟨fun b => rfl, fun x y b => by rw [List.append_assoc], fun {p c q x} hc s => ?_⟩
    rw [hcons, Option.some.inj hc]
  exact hfollows.append (hrun s p) t

end Machine

/-! ### Rules for literals -/

/-- What is special between the quotes of a text literal. -/
structure LiteralRule where
  /-- Two quotes stand for one. -/
  doubled : Bool
  /-- A character behind a backslash stands for itself. -/
  escaped : Bool
  deriving DecidableEq, Repr

/-- Where in a literal a character stands. -/
inductive LiteralPlace where
  | inside
  /-- Behind a backslash that escapes. -/
  | escape
  /-- Behind a quote, which closes the literal unless it is the first of two. -/
  | quote
  deriving DecidableEq, Repr

namespace LiteralRule

/-- What a character leads to and which characters it adds to the text, unless
the literal is closed before it. -/
def step (r : LiteralRule) : LiteralPlace → Char → Option (LiteralPlace × List Char)
  | .inside, c =>
    if c = '\\' ∧ r.escaped then some (.escape, [])
    else if c = '\'' then some (.quote, [])
    else some (.inside, [c])
  | .escape, c => some (.inside, [c])
  | .quote, c => if c = '\'' ∧ r.doubled then some (.inside, [c]) else none

/-- The rest of a literal's text, and what stands behind the literal. -/
def readFrom (r : LiteralRule) : LiteralPlace → List Char → Option (List Char × List Char)
  | .quote, [] => some ([], [])
  | .inside, [] | .escape, [] => none
  | p, c :: s =>
    match r.step p c with
    | none => some ([], c :: s)
    | some (q, x) => (r.readFrom q s).map fun y => (x ++ y.1, y.2)

/-- The text of the literal that a text starts with, and what stands behind it. -/
def read (r : LiteralRule) : List Char → Option (List Char × List Char)
  | [] => none
  | c :: s => if c = '\'' then r.readFrom .inside s else none

/-- Where characters of one literal lead to, and the text they add. -/
def run (r : LiteralRule) : LiteralPlace → List Char → Option (LiteralPlace × List Char) :=
  Machine.run r.step

variable {r : LiteralRule} {p q : LiteralPlace} {s x : List Char}

theorem run_append (h : r.run p s = some (q, x)) (t : List Char) :
    r.run p (s ++ t) = (r.run q t).map fun y => (y.1, x ++ y.2) :=
  (Machine.follows_run r.step).append h t

theorem readFrom_append (h : r.run p s = some (q, x)) (t : List Char) :
    r.readFrom p (s ++ t) = (r.readFrom q t).map fun y => (x ++ y.1, y.2) := by
  have hfollows : Machine.Follows r.step (fun x => Option.map fun y => (x ++ y.1, y.2))
      r.readFrom :=
    Machine.follows_of_map (fun _ => rfl) (fun _ _ _ => by rw [List.append_assoc])
      fun {p c q x} hc s => by cases p <;> simp only [readFrom, hc]
  exact hfollows.append h t

theorem readFrom_quote (r : LiteralRule) {t : List Char} (ht : t.head? ≠ some '\'') :
    r.readFrom .quote t = some ([], t) := by
  cases t with
  | nil => rfl
  | cons c t =>
    have hc : c ≠ '\'' := fun h => ht (by simp [h])
    simp [readFrom, step, hc]

end LiteralRule

namespace Dialect

/-- How a dialect reads its text literals. -/
def literalRule : Dialect → LiteralRule
  | postgresql | sqlite | duckdb => ⟨true, false⟩
  | mysql => ⟨true, true⟩
  | bigquery => ⟨false, true⟩

theorem run_quoteChar (d : Dialect) (c : Char) :
    d.literalRule.run .inside (d.quoteChar c) = some (.inside, [c]) := by
  by_cases hq : c = '\''
  · subst hq
    cases d <;> rfl
  · by_cases hb : c = '\\'
    · subst hb
      cases d <;> rfl
    · cases d <;>
        simp [literalRule, quoteChar, LiteralRule.run, Machine.run, LiteralRule.step, hq, hb]

end Dialect

/-- A whole text between the quotes is read as it is, and the literal stays
open. -/
theorem LiteralRule.run_quoted (d : Dialect) :
    ∀ s : List Char, d.literalRule.run .inside (s.flatMap d.quoteChar) = some (.inside, s)
  | [] => rfl
  | c :: s => by
    rw [List.flatMap_cons, LiteralRule.run_append (d.run_quoteChar c),
      LiteralRule.run_quoted d s]
    rfl

theorem LiteralRule.read_quoted (d : Dialect) (s : List Char) {t : List Char}
    (ht : t.head? ≠ some '\'') :
    d.literalRule.read ('\'' :: s.flatMap d.quoteChar ++ ['\''] ++ t) = some (s, t) := by
  have hquote : d.literalRule.readFrom .inside ('\'' :: t) = d.literalRule.readFrom .quote t := by
    simp [LiteralRule.readFrom, LiteralRule.step]
  rw [List.append_assoc, List.cons_append, List.singleton_append]
  simp only [LiteralRule.read, if_true]
  rw [LiteralRule.readFrom_append (LiteralRule.run_quoted d s), hquote,
    LiteralRule.readFrom_quote _ ht]
  simp

namespace Dialect

/-- **A text literal reads back.** The dialect's rule gives the text and leaves
what follows the literal, unless that starts with a quote. -/
theorem read_textLiteral (d : Dialect) (s t : String) (ht : t.toList.head? ≠ some '\'') :
    d.literalRule.read (d.textLiteral s ++ t).toList = some (s.toList, t.toList) := by
  rw [String.toList_append, toList_textLiteral]
  exact LiteralRule.read_quoted d s.toList ht

/-- A text that ends in a backslash and a quote, before a comma. -/
theorem read_textLiteral_mysql :
    (", 'b')").toList.head? ≠ some '\'' ∧
      Dialect.mysql.literalRule.read (Dialect.mysql.textLiteral "it\\'s \\'" ++ ", 'b')").toList =
        some ("it\\'s \\'".toList, (", 'b')").toList) :=
  ⟨by decide, read_textLiteral .mysql _ _ (by decide)⟩

/-! ### Quoting in passes -/

/-- A text with every occurrence of a character replaced. -/
def replaceChar (s : List Char) (p : Char × List Char) : List Char :=
  s.flatMap fun c => if c = p.1 then p.2 else [c]

/-- The characters that a dialect replaces one after the other in a literal. -/
def passes : Dialect → List (Char × List Char)
  | postgresql | sqlite | duckdb => [('\'', ['\'', '\''])]
  | mysql => [('\\', ['\\', '\\']), ('\'', ['\'', '\''])]
  | bigquery => [('\\', ['\\', '\\']), ('\'', ['\\', '\''])]

/-- One pass for each special character, the backslash first, quotes like one
pass over the text: no pass touches what another one has put in. -/
theorem quoteText_eq_passes (d : Dialect) (s : String) :
    (d.quoteText s).toList = d.passes.foldl replaceChar s.toList := by
  have h : ∀ c, d.quoteChar c = d.passes.foldl replaceChar [c] := by
    intro c
    by_cases hq : c = '\''
    · subst hq
      cases d <;> rfl
    · by_cases hb : c = '\\'
      · subst hb
        cases d <;> rfl
      · cases d <;> simp [quoteChar, passes, replaceChar, hq, hb]
  have hflat : ∀ (ps : List (Char × List Char)) (l : List Char),
      ps.foldl replaceChar l = l.flatMap fun c => ps.foldl replaceChar [c] := by
    intro ps
    induction ps with
    | nil => intro l; simp
    | cons p ps ih =>
      intro l
      rw [List.foldl_cons, ih, replaceChar, List.flatMap_assoc]
      congr 1
      funext c
      rw [List.foldl_cons, ih (replaceChar [c] p)]
      simp [replaceChar]
  rw [quoteText, String.toList_ofList, hflat]
  congr 1
  funext c
  exact h c

end Dialect
end ReportFilter
