/-
# The outline of a SQL text

What a text says apart from the contents of its literals: the text is scanned
from the left by the dialect's own rule, and what stands between the quotes of
a literal is left out. A literal with an E for a mark right before it is one of
PostgreSQL's, in which the backslash escapes too; the E counts only when it is
a word of its own. A text that ends in the middle of a literal has no outline.

The scan is a machine that takes one character at a time, so scanning a text
piece by piece is scanning it (`Dialect.scan_append`), and a literal leaves
only its quotes behind, whatever it says (`Dialect.scan_textLiteral`).

Key definitions: `Dialect.scan`, `Dialect.outline`, `SqlPlace.IsClosed`.
Key theorems: `Dialect.scan_append`, `Dialect.scan_plain`,
`Dialect.scan_textLiteral`.
-/
import ReportFilter.Proofs.TextLiterals

namespace ReportFilter

/-- Whether a character may stand in a name or a keyword. -/
def isWordChar (c : Char) : Bool :=
  c.isAlphanum || c == '_' || c == '$' || decide (127 < c.toNat)

/-- What stands right before a character outside literals. -/
inductive WordBefore where
  /-- No word. -/
  | none
  /-- A word that is only an E. -/
  | mark
  /-- Any other word. -/
  | word
  deriving DecidableEq, Repr

/-- What stands before the next character. -/
def WordBefore.next (w : WordBefore) (c : Char) : WordBefore :=
  if isWordChar c then if w = .none ∧ (c = 'E' ∨ c = 'e') then .mark else .word else .none

/-- Where in a SQL text a character stands. -/
inductive SqlPlace where
  | outside (w : WordBefore)
  | literal (r : LiteralRule) (p : LiteralPlace)
  deriving DecidableEq, Repr

/-- What is left to keep at the end of a text, unless a literal is open. -/
def SqlPlace.close : SqlPlace → Option (List Char)
  | .outside _ => some []
  | .literal _ .quote => some ['\'']
  | .literal _ .inside | .literal _ .escape => none

/-- Outside literals, or behind a quote that may close one. -/
def SqlPlace.IsClosed : SqlPlace → Prop
  | .outside _ => True
  | .literal _ p => p = .quote

instance : ∀ p : SqlPlace, Decidable p.IsClosed
  | .outside _ => isTrue trivial
  | .literal _ p => inferInstanceAs (Decidable (p = .quote))

theorem SqlPlace.IsClosed.exists_close {p : SqlPlace} (h : p.IsClosed) : ∃ s, p.close = some s := by
  cases p with
  | outside w => exact ⟨[], rfl⟩
  | literal r p =>
    have hp : p = .quote := h
    subst hp
    exact ⟨['\''], rfl⟩

namespace Dialect

/-- The rule for a literal that opens behind a word. -/
def ruleBehind (d : Dialect) (w : WordBefore) : LiteralRule :=
  if d = postgresql ∧ w = .mark then ⟨true, true⟩ else d.literalRule

/-- What a character outside literals leads to. It is kept. -/
def scanOutside (d : Dialect) (w : WordBefore) (c : Char) : SqlPlace × List Char :=
  (if c = '\'' then .literal (d.ruleBehind w) .inside else .outside (w.next c), [c])

/-- What a character leads to, and which characters are kept. The quote that
closes a literal is kept once the character behind it shows that it does. -/
def scanStep (d : Dialect) : SqlPlace → Char → SqlPlace × List Char
  | .outside w, c => d.scanOutside w c
  | .literal r p, c =>
    match r.step p c with
    | some (q, _) => (.literal r q, [])
    | none => ((d.scanOutside .none c).1, '\'' :: (d.scanOutside .none c).2)

/-- Where a text leads to from a place, and which characters of it are kept. -/
def scan (d : Dialect) : SqlPlace → List Char → SqlPlace × List Char
  | p, [] => (p, [])
  | p, c :: s =>
    ((d.scan (d.scanStep p c).1 s).1, (d.scanStep p c).2 ++ (d.scan (d.scanStep p c).1 s).2)

/-- A SQL text without the contents of its literals. -/
def outline (d : Dialect) (sql : String) : Option (List Char) :=
  (d.scan (.outside .none) sql.toList).1.close.map ((d.scan (.outside .none) sql.toList).2 ++ ·)

theorem scan_append (d : Dialect) (s t : List Char) (p : SqlPlace) :
    d.scan p (s ++ t) =
      ((d.scan (d.scan p s).1 t).1, (d.scan p s).2 ++ (d.scan (d.scan p s).1 t).2) :=
  Machine.append_of_steps d.scanStep d.scan (fun _ => rfl) (fun _ _ _ => rfl) s t p

theorem scan_of_no_quote (d : Dialect) : ∀ (s : List Char) (w : WordBefore), '\'' ∉ s →
    d.scan (.outside w) s = (.outside (s.foldl WordBefore.next w), s)
  | [], w, _ => rfl
  | c :: s, w, h => by
    have hc : c ≠ '\'' := fun e => h (e ▸ List.mem_cons_self)
    have hs : '\'' ∉ s := fun e => h (List.mem_cons_of_mem _ e)
    simp only [scan, scanStep, scanOutside, hc, if_false, scan_of_no_quote d s _ hs,
      List.foldl_cons, List.singleton_append]

theorem foldl_next_append {c : Char} (hc : isWordChar c = false) (s : List Char) (w : WordBefore) :
    (s ++ [c]).foldl WordBefore.next w = .none := by
  simp [WordBefore.next, hc]

/-- Behind a text without quotes that ends in a character of no word, a literal
is an unmarked one. -/
theorem scan_plain (d : Dialect) {s : List Char} {c : Char} (w : WordBefore) (hs : '\'' ∉ s)
    (hc : isWordChar c = false) (hq : c ≠ '\'') :
    d.scan (.outside w) (s ++ [c]) = (.outside .none, s ++ [c]) := by
  have hsc : '\'' ∉ s ++ [c] := by
    simp only [List.mem_append, List.mem_singleton, not_or]
    exact ⟨hs, fun h => hq h.symm⟩
  rw [scan_of_no_quote d _ _ hsc, foldl_next_append hc]

/-- Nothing is kept of characters that stay in a literal. -/
theorem scan_literal (d : Dialect) {r : LiteralRule} {p q : LiteralPlace} {s x : List Char}
    (h : r.run p s = some (q, x)) : d.scan (.literal r p) s = (.literal r q, []) := by
  have hfollows : Machine.Follows r.step (fun _ b => b) fun p => d.scan (.literal r p) := by
    refine ⟨fun _ => rfl, fun _ _ _ => rfl, fun {p c q x} hc s => ?_⟩
    simp only [scan, scanStep, hc, List.nil_append]
  have hscan := hfollows.append h []
  rw [List.append_nil] at hscan
  exact hscan

/-- Behind a text literal. -/
def behindLiteral (d : Dialect) : SqlPlace := .literal d.literalRule .quote

/-- **A text literal leaves only its quotes behind**, whatever text it says. -/
theorem scan_textLiteral (d : Dialect) (s : String) :
    d.scan (.outside .none) (d.textLiteral s).toList = (d.behindLiteral, ['\'']) := by
  have hopen : d.scan (.outside .none) ['\''] = (.literal d.literalRule .inside, ['\'']) := by
    cases d <;> rfl
  have hclose : d.scan (.literal d.literalRule .inside) ['\''] = (d.behindLiteral, []) := by
    cases d <;> rfl
  have hbody := d.scan_literal (LiteralRule.run_quoted d s.toList)
  have hsplit : (d.textLiteral s).toList =
      ['\''] ++ (s.toList.flatMap d.quoteChar ++ ['\'']) := by
    simp [toList_textLiteral]
  rw [hsplit, scan_append, hopen, scan_append, hbody, hclose]
  rfl

end Dialect
end ReportFilter
