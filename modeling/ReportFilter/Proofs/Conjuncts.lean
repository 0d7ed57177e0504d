/-
# Conjuncts

A condition that is joined by AND is cut into its conjuncts again. For that a SQL
text is lexed: words and other characters count where they stand outside literals
and parentheses, and all else is hidden. An AND between two spaces cuts, unless it
is the one that a BETWEEN waits for.

A text is an operand when it leaves no literal and no parenthesis open, lets no AND
cut it, and has no OR (`Dialect.IsOperand`). Operands that are joined are the
conjuncts of what they are joined to.

Key definitions: `Token`, `Dialect.lex`, `Token.cut`, `Dialect.conjuncts`,
`Dialect.IsOperand`.
Key theorems: `Dialect.lex_append`, `Token.cut_append`,
`Dialect.conjuncts_intercalate`.
-/
import ReportFilter.Proofs.Outline

namespace ReportFilter

/-! ### Tokens -/

/-- A piece of a SQL text. -/
inductive Token where
  /-- A word outside literals and parentheses. -/
  | word (s : List Char)
  /-- Another character there. -/
  | char (c : Char)
  /-- A character of a literal, a parenthesis, or a character between two. -/
  | hidden (c : Char)
  deriving DecidableEq, Repr

namespace Token

/-- The characters of a token. -/
def text : Token → List Char
  | word s => s
  | char c | hidden c => [c]

/-- The keyword that joins conjuncts. -/
def and : Token := word ['A', 'N', 'D']

/-- The keyword that joins alternatives. -/
def or : Token := word ['O', 'R']

/-- The keyword whose two ends an AND separates. -/
def between : Token := word ['B', 'E', 'T', 'W', 'E', 'E', 'N']

/-- What stands between two conjuncts. -/
def separator : List Token := [char ' ', and, char ' ']

/-- Whether a BETWEEN waits for its AND behind a token, if one does before it or
does not. -/
def waits (t : Token) (before : Bool) : Bool :=
  if t = between then true else if t = and then false else before

/-- Tokens cut at each separator whose AND no BETWEEN waits for. -/
def cut : (waiting : Bool) → List Token → List (List Token)
  | waiting, t :: u :: v :: ts =>
    if waiting = false ∧ [t, u, v] = separator then [] :: cut false ts
    else (cut (t.waits waiting) (u :: v :: ts)).modifyHead (t :: ·)
  | _, ts => [ts]

/-- Whether a BETWEEN waits for its AND behind tokens, unless there is an AND among
them that none waits for. -/
def settle : (waiting : Bool) → List Token → Option Bool
  | waiting, [] => some waiting
  | waiting, t :: ts => if waiting = false ∧ t = and then none else settle (t.waits waiting) ts

theorem settle_append : ∀ (ts us : List Token) (waiting : Bool),
    settle waiting (ts ++ us) = (settle waiting ts).bind (settle · us)
  | [], us, waiting => rfl
  | t :: ts, us, waiting => by
    simp only [List.cons_append, settle]
    split
    · rfl
    · exact settle_append ts us _

theorem cut_cons {waiting : Bool} {t : Token} {ts : List Token}
    (h : waiting = false → ∀ us, t :: ts ≠ separator ++ us) :
    cut waiting (t :: ts) = (cut (t.waits waiting) ts).modifyHead (t :: ·) := by
  match ts with
  | [] => rfl
  | [u] => rfl
  | u :: v :: ts =>
    have hno : ¬ (waiting = false ∧ [t, u, v] = separator) := by
      rintro ⟨hw, hs⟩
      exact h hw ts (by rw [← hs]; rfl)
    rw [cut, if_neg hno]

/-- **Tokens without an AND that cuts stay in one piece** with what follows, which
starts with no AND. -/
theorem cut_append {us : List Token} (hus : us.head? ≠ some and) : ∀ (ts : List Token)
    {waiting waiting' : Bool}, settle waiting ts = some waiting' →
      cut waiting (ts ++ us) = (cut waiting' us).modifyHead (ts ++ ·)
  | [], waiting, waiting', h => by
    cases h
    rw [List.nil_append]
    cases cut waiting us <;> rfl
  | t :: ts, waiting, waiting', h => by
    simp only [settle] at h
    by_cases hand : waiting = false ∧ t = and
    · rw [if_pos hand] at h
      cases h
    · rw [if_neg hand] at h
      have hno : waiting = false → ∀ vs, t :: (ts ++ us) ≠ separator ++ vs := by
        -- an AND behind this token would cut, or be the first of what follows
        intro hw vs heq
        obtain ⟨rfl, hrest⟩ := List.cons.inj heq
        match ts with
        | [] =>
          rw [List.nil_append] at hrest
          exact hus (by rw [hrest]; rfl)
        | u :: ts =>
          obtain ⟨rfl, -⟩ := List.cons.inj hrest
          rw [hw] at h
          cases h
      rw [List.cons_append, cut_cons hno, cut_append hus ts h, List.modifyHead_modifyHead]
      rfl

theorem cut_separator {ts : List Token} (h : settle false ts = some false) (us : List Token) :
    cut false (ts ++ (separator ++ us)) = ts :: cut false us := by
  have hhead : (separator ++ us).head? ≠ some and := by
    intro h
    cases h
  have hcut : cut false (separator ++ us) = [] :: cut false us := by
    simp [separator, cut]
  rw [cut_append hhead ts h, hcut, List.modifyHead_cons, List.append_nil]

theorem cut_self {ts : List Token} (h : settle false ts = some false) : cut false ts = [ts] := by
  have hnil : ([] : List Token).head? ≠ some and := by
    intro h
    cases h
  have hcut := cut_append hnil ts h
  rw [List.append_nil] at hcut
  rw [hcut]
  simp [cut]

end Token

/-! ### Lexing -/

/-- Where the lexer stands in a SQL text. -/
structure Lexer where
  place : SqlPlace
  /-- The parentheses that are open. -/
  depth : Nat
  /-- The word that is not at its end yet. -/
  word : List Char
  deriving DecidableEq, Repr

namespace Lexer

/-- Outside literals and behind no word. -/
def fresh (depth : Nat) : Lexer := ⟨.outside .none, depth, []⟩

/-- The word that ends here, if there is one. -/
def flush (l : Lexer) : List Token := if l.word = [] then [] else [.word l.word]

/-- What a character leads to, and which tokens it completes. -/
def step (d : Dialect) (l : Lexer) (c : Char) : Lexer × List Token :=
  match (d.scanStep l.place c).1 with
  | .literal r p => (⟨.literal r p, l.depth, []⟩, l.flush ++ [.hidden c])
  | .outside w =>
    if c = '(' then (⟨.outside w, l.depth + 1, []⟩, l.flush ++ [.hidden c])
    else if c = ')' then (⟨.outside w, l.depth - 1, []⟩, l.flush ++ [.hidden c])
    else if 0 < l.depth then (⟨.outside w, l.depth, []⟩, l.flush ++ [.hidden c])
    else if isWordChar c then (⟨.outside w, l.depth, l.word ++ [c]⟩, [])
    else (⟨.outside w, l.depth, []⟩, l.flush ++ [.char c])

/-- No literal is open, and so many parentheses are. -/
structure IsClosed (l : Lexer) (depth : Nat) : Prop where
  place : l.place.IsClosed
  depth : l.depth = depth

instance (l : Lexer) (depth : Nat) : Decidable (l.IsClosed depth) :=
  decidable_of_iff (l.place.IsClosed ∧ l.depth = depth)
    ⟨fun h => ⟨h.1, h.2⟩, fun h => ⟨h.place, h.depth⟩⟩

end Lexer

namespace Dialect

/-- Where a text leads to, and which tokens it completes. -/
def lex (d : Dialect) : Lexer → List Char → Lexer × List Token
  | l, [] => (l, [])
  | l, c :: s => ((d.lex (l.step d c).1 s).1, (l.step d c).2 ++ (d.lex (l.step d c).1 s).2)

/-- The tokens of a text. -/
def tokens (d : Dialect) (s : List Char) : List Token :=
  (d.lex (.fresh 0) s).2 ++ (d.lex (.fresh 0) s).1.flush

/-- What a condition joins by AND. -/
def conjuncts (d : Dialect) (sql : String) : List String :=
  (Token.cut false (d.tokens sql.toList)).map fun ts => String.ofList (ts.flatMap Token.text)

variable (d : Dialect)

theorem lex_append (s t : List Char) (l : Lexer) :
    d.lex l (s ++ t) = ((d.lex (d.lex l s).1 t).1, (d.lex l s).2 ++ (d.lex (d.lex l s).1 t).2) :=
  Machine.append_of_steps (fun l => l.step d) d.lex (fun _ => rfl) (fun _ _ _ => rfl) s t l

theorem flatMap_text_flush (l : Lexer) : l.flush.flatMap Token.text = l.word := by
  unfold Lexer.flush
  split
  · rename_i h
    rw [h]
    rfl
  · simp [Token.text]

/-- No character is lost. -/
theorem flatMap_text_step (l : Lexer) (c : Char) :
    (l.step d c).2.flatMap Token.text ++ (l.step d c).1.word = l.word ++ [c] := by
  have hhidden : (l.flush ++ [Token.hidden c]).flatMap Token.text ++ [] = l.word ++ [c] := by
    rw [List.append_nil, List.flatMap_append, flatMap_text_flush]
    rfl
  have hchar : (l.flush ++ [Token.char c]).flatMap Token.text ++ [] = l.word ++ [c] := by
    rw [List.append_nil, List.flatMap_append, flatMap_text_flush]
    rfl
  unfold Lexer.step
  split
  · exact hhidden
  · split
    · exact hhidden
    · split
      · exact hhidden
      · split
        · exact hhidden
        · split
          · rfl
          · exact hchar

theorem flatMap_text_lex : ∀ (s : List Char) (l : Lexer),
    (d.lex l s).2.flatMap Token.text ++ (d.lex l s).1.word = l.word ++ s
  | [], l => by simp [lex]
  | c :: s, l => by
    rw [lex, List.flatMap_append, List.append_assoc, flatMap_text_lex s, ← List.append_assoc,
      flatMap_text_step, List.append_assoc]
    rfl

/-- **The tokens of a text are the text.** -/
theorem flatMap_text_tokens (s : List Char) : (d.tokens s).flatMap Token.text = s := by
  rw [tokens, List.flatMap_append, flatMap_text_flush, flatMap_text_lex]
  rfl

variable {d}

/-- Behind a text that leaves nothing open, a character of no word ends the word and
the literal, and the lexer goes on as from the start. -/
theorem lex_cons_of_break {l : Lexer} (hl : l.place.IsClosed) {c : Char}
    (hc : isWordChar c = false) (hq : c ≠ '\'') (s : List Char) :
    d.lex l (c :: s) = ((d.lex (.fresh l.depth) (c :: s)).1,
      l.flush ++ (d.lex (.fresh l.depth) (c :: s)).2) := by
  have hplace : (d.scanStep l.place c).1 = .outside .none := by
    obtain ⟨place, depth, word⟩ := l
    cases place with
    | outside w => simp [scanStep, scanOutside, hq, WordBefore.next, hc]
    | literal r p =>
      have hp : p = .quote := hl
      subst hp
      simp [scanStep, LiteralRule.step, scanOutside, hq, WordBefore.next, hc]
  have hfresh : (d.scanStep (Lexer.fresh l.depth).place c).1 = .outside .none := by
    simp [Lexer.fresh, scanStep, scanOutside, hq, WordBefore.next, hc]
  have hstep : l.step d c = (((Lexer.fresh l.depth).step d c).1,
      l.flush ++ ((Lexer.fresh l.depth).step d c).2) := by
    have hflush : (Lexer.fresh l.depth).flush = [] := rfl
    have hdepth : (Lexer.fresh l.depth).depth = l.depth := rfl
    simp only [Lexer.step, hplace, hfresh, hflush, hdepth, hc, List.nil_append,
      Bool.false_eq_true, if_false]
    split
    · rfl
    · split
      · rfl
      · split <;> rfl
  rw [lex, lex, hstep, List.append_assoc]

/-! ### Operands -/

/-- A text that may stand between two ANDs. -/
structure IsOperand (d : Dialect) (p : String) : Prop where
  closed : (d.lex (.fresh 0) p.toList).1.IsClosed 0
  settled : Token.settle false (d.tokens p.toList) = some false
  no_or : Token.or ∉ d.tokens p.toList

theorem IsOperand.tokens_and {p : String} (h : d.IsOperand p) (q : List Char) :
    d.tokens (p.toList ++ (" AND ".toList ++ q)) =
      d.tokens p.toList ++ (Token.separator ++ d.tokens q) := by
  have hand : d.lex (.fresh 0) " AND ".toList = (.fresh 0, Token.separator) := by
    cases d <;> rfl
  have hbreak := lex_cons_of_break (d := d) h.closed.place (c := ' ') rfl (by decide)
    ("AND ".toList ++ q)
  have hsplit : ' ' :: ("AND ".toList ++ q) = " AND ".toList ++ q := rfl
  rw [hsplit, h.closed.depth, lex_append d " AND ".toList q (.fresh 0), hand] at hbreak
  simp only [tokens, lex_append, hbreak, List.append_assoc]

/-- **Joined operands are the conjuncts.** -/
theorem conjuncts_intercalate : ∀ {ps : List String}, ps ≠ [] → (∀ p ∈ ps, d.IsOperand p) →
    d.conjuncts (" AND ".intercalate ps) = ps
  | [], h, _ => absurd rfl h
  | [p], _, h => by
    rw [String.intercalate_singleton, conjuncts, Token.cut_self (h p List.mem_cons_self).settled,
      List.map_singleton, flatMap_text_tokens, String.ofList_toList]
  | p :: q :: ps, _, h => by
    have ih : d.conjuncts (" AND ".intercalate (q :: ps)) = q :: ps :=
      conjuncts_intercalate (List.cons_ne_nil q ps) fun r hr => h r (List.mem_cons_of_mem _ hr)
    have hp := h p List.mem_cons_self
    rw [String.intercalate_cons_cons, conjuncts, String.toList_append, String.toList_append,
      List.append_assoc, hp.tokens_and, Token.cut_separator hp.settled, List.map_cons,
      flatMap_text_tokens, String.ofList_toList]
    exact congrArg (p :: ·) ih

/-- The AND of a BETWEEN, of parentheses and of a literal do not cut. -/
example : Dialect.mysql.conjuncts "a BETWEEN 1 AND 2 AND (b AND c) AND d = ' AND '" =
    ["a BETWEEN 1 AND 2", "(b AND c)", "d = ' AND '"] := by
  decide

end Dialect
end ReportFilter
