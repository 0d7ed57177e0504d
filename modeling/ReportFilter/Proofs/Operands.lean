/-
# Operands

The predicates of the built-in operators are operands. They alternate atoms and
gaps; a gap is a text between atoms that is known in full. Where an atom ends the
lexer goes on as from the start, so a predicate is lexed gap by gap
(`Dialect.Finishes`), and what an atom holds does not matter.

Key definitions: `Dialect.Finishes`, `Dialect.gap`, `Dialect.Weaves`,
`Frame.IsOperand`, `Clause.IsOperand`.
Key theorems: `Dialect.Finishes.atom`, `Dialect.Finishes.through`,
`Condition.IsPlain.isOperand_clause`.
-/
import ReportFilter.Proofs.Atoms
import ReportFilter.Proofs.BuiltIns

namespace ReportFilter

/-! ### Atoms and gaps -/

namespace Dialect

/-- A text that closes all parentheses, lets no AND cut it, and has no OR. A BETWEEN
before it may wait for its AND. -/
structure Finishes (d : Dialect) (depth : Nat) (waiting : Bool) (s : List Char) : Prop where
  closed : (d.lex (.fresh depth) s).1.IsClosed 0
  settled : Token.settle waiting (d.tokensAt depth s) = some false
  no_or : Token.or ∉ d.tokensAt depth s

instance (d : Dialect) (depth : Nat) (waiting : Bool) (s : List Char) :
    Decidable (d.Finishes depth waiting s) :=
  decidable_of_iff ((d.lex (.fresh depth) s).1.IsClosed 0 ∧
      Token.settle waiting (d.tokensAt depth s) = some false ∧ Token.or ∉ d.tokensAt depth s)
    ⟨fun h => ⟨h.1, h.2.1, h.2.2⟩, fun h => ⟨h.closed, h.settled, h.no_or⟩⟩

/-- Whether a text starts with a character that ends an atom. -/
def endsAtom : List Char → Bool
  | [] => false
  | c :: _ => !isWordChar c && c != '\''

/-- The depth behind a gap, and whether a BETWEEN waits for its AND there. A gap lets
no AND cut it, has no OR, and ends where a new word or literal can start. -/
def gap (d : Dialect) (depth : Nat) (waiting : Bool) (g : List Char) : Option (Nat × Bool) :=
  let l := (d.lex (.fresh depth) g).1
  let ts := (d.lex (.fresh depth) g).2
  if l = .fresh l.depth ∧ Token.or ∉ ts then (Token.settle waiting ts).map (l.depth, ·) else none

variable {d : Dialect} {depth depth' : Nat} {waiting waiting' : Bool}

theorem endsAtom_append {g : List Char} (h : endsAtom g = true) (s : List Char) :
    endsAtom (g ++ s) = true := by
  cases g with
  | nil => cases h
  | cons c g => exact h

theorem Finishes.isOperand {p : String} (h : d.Finishes 0 false p.toList) : d.IsOperand p :=
  ⟨h.closed, h.settled, h.no_or⟩

theorem finishes_nil (d : Dialect) : d.Finishes 0 false [] :=
  ⟨⟨trivial, rfl⟩, rfl, List.not_mem_nil⟩

/-- **An atom does not matter** for how a text finishes. -/
theorem Finishes.atom {a s : List Char} (ha : d.IsAtom a) (hs : s = [] ∨ endsAtom s = true)
    (h : d.Finishes depth waiting s) : d.Finishes depth waiting (a ++ s) := by
  obtain ⟨hclosed, hcalm⟩ := ha depth
  have hlex : (d.lex (.fresh depth) (a ++ s)).1.IsClosed 0 ∧
      d.tokensAt depth (a ++ s) = d.tokensAt depth a ++ d.tokensAt depth s := by
    cases s with
    | nil =>
      have hdepth : depth = 0 := h.closed.depth
      subst hdepth
      rw [List.append_nil]
      exact ⟨hclosed, (List.append_nil _).symm⟩
    | cons c s =>
      have hbreaks := hs.resolve_left (List.cons_ne_nil c s)
      simp only [endsAtom, Bool.and_eq_true, Bool.not_eq_true', bne_iff_ne] at hbreaks
      have hbreak := lex_cons_of_break (d := d) hclosed.place hbreaks.1 hbreaks.2 s
      rw [hclosed.depth] at hbreak
      have hend : d.lex (.fresh depth) (a ++ c :: s) = ((d.lex (.fresh depth) (c :: s)).1,
          d.tokensAt depth a ++ (d.lex (.fresh depth) (c :: s)).2) := by
        rw [lex_append, hbreak, tokensAt, List.append_assoc]
      refine ⟨?_, ?_⟩
      · rw [hend]
        exact h.closed
      · rw [tokensAt, hend, List.append_assoc]
        rfl
  refine ⟨hlex.1, ?_, ?_⟩
  · rw [hlex.2, hcalm.settle]
    exact h.settled
  · rw [hlex.2, List.mem_append, not_or]
    exact ⟨fun hor => hcalm _ hor (by decide), h.no_or⟩

/-- **A gap leads on** from one depth to another. -/
theorem Finishes.through {g s : List Char} (hg : d.gap depth waiting g = some (depth', waiting'))
    (h : d.Finishes depth' waiting' s) : d.Finishes depth waiting (g ++ s) := by
  unfold gap at hg
  dsimp only at hg
  split at hg
  · rename_i hgap
    obtain ⟨w, hw, heq⟩ := Option.map_eq_some_iff.mp hg
    obtain ⟨hdepth, rfl⟩ := Prod.mk.inj heq
    have hlex : d.lex (.fresh depth) g = (.fresh depth', (d.lex (.fresh depth) g).2) := by
      rw [← hdepth, ← hgap.1]
    have htokens : d.tokensAt depth (g ++ s) =
        (d.lex (.fresh depth) g).2 ++ d.tokensAt depth' s := by
      rw [tokensAt, lex_append, hlex, List.append_assoc]
      rfl
    refine ⟨?_, ?_, ?_⟩
    · rw [lex_append, hlex]
      exact h.closed
    · rw [htokens, Token.settle_append, hw]
      exact h.settled
    · rw [htokens, List.mem_append, not_or]
      exact ⟨hgap.2, h.no_or⟩
  · cases hg

/-- Texts behind arguments that close what is open, whatever atoms the arguments
are. -/
inductive Weaves (d : Dialect) : (depth : Nat) → (waiting : Bool) → List String → Prop
  | last {depth : Nat} {waiting : Bool} {t : String}
    (ht : t.toList = [] ∨ endsAtom t.toList = true)
    (h : d.Finishes depth waiting t.toList) : Weaves d depth waiting [t]
  | next {depth depth' : Nat} {waiting waiting' : Bool} {t : String} {ts : List String}
    (ht : endsAtom t.toList = true)
    (hg : d.gap depth waiting t.toList = some (depth', waiting'))
    (h : Weaves d depth' waiting' ts) : Weaves d depth waiting (t :: ts)

/-- **Atoms woven between such texts finish.** -/
theorem Weaves.finishes {ts : List String} (h : d.Weaves depth waiting ts) :
    ∀ {arguments : List String}, arguments.length = ts.length →
      (∀ a ∈ arguments, d.IsAtom a.toList) →
        d.Finishes depth waiting (Frame.weave ts arguments).toList := by
  induction h with
  | @last depth waiting t ht h =>
    intro arguments hlen ha
    obtain ⟨a, rfl⟩ := List.length_eq_one_iff.mp hlen
    have htext : (Frame.weave [t] [a]).toList = a.toList ++ t.toList := by
      simp [Frame.weave]
    rw [htext]
    exact h.atom (ha a List.mem_cons_self) ht
  | @next depth depth' waiting waiting' t ts ht hg h ih =>
    intro arguments hlen ha
    obtain ⟨a, rest, rfl⟩ := List.exists_cons_of_length_eq_add_one hlen
    have ih' := ih (Nat.succ.inj hlen) fun b hb => ha b (List.mem_cons_of_mem _ hb)
    rw [Frame.weave, String.toList_append, String.toList_append, List.append_assoc]
    exact (ih'.through hg).atom (ha a List.mem_cons_self) (.inr (endsAtom_append ht _))

end Dialect

/-! ### Frames -/

/-- A frame whose text is an operand, whatever atoms stand for its values. -/
def Frame.IsOperand (d : Dialect) (f : Frame) : Prop :=
  ∀ arguments : List String, arguments.length = f.values.length →
    (∀ a ∈ arguments, d.IsAtom a.toList) → d.IsOperand (f.fill arguments)

/-- A clause that states such a frame. -/
def Clause.IsOperand (d : Dialect) (c : Clause) : Prop := ∃ f : Frame, f.clause = c ∧ f.IsOperand d

namespace Frame

variable {d : Dialect}

theorem isOperand_text {s : String} (h : d.Finishes 0 false s.toList) :
    (Frame.mk s []).IsOperand d := by
  intro arguments _ _
  rw [fill_of_no_slots rfl]
  exact h.isOperand

/-- A frame is an operand if its head leads to where the texts behind its values go
on. -/
theorem isOperand_of_weaves {f : Frame} {depth : Nat} {waiting : Bool}
    (hhead : ∀ s, d.Finishes depth waiting s → d.Finishes 0 false (f.head.toList ++ s))
    (hw : d.Weaves depth waiting f.texts) : f.IsOperand d := by
  intro arguments hlen ha
  refine Dialect.Finishes.isOperand ?_
  rw [fill, String.toList_append]
  exact hhead _ (hw.finishes (hlen.trans f.length_texts.symm) ha)

/-- The texts of a row of values between parentheses. -/
theorem weaves_row {depth : Nat} {close : String}
    (hcomma : d.gap depth false ", ".toList = some (depth, false))
    (hclose : Dialect.endsAtom close.toList = true) (h : d.Finishes depth false close.toList) :
    ∀ {vs : List Value}, vs ≠ [] → d.Weaves depth false ((row close vs).map (·.2))
  | [], hv => absurd rfl hv
  | [v], _ => .last (.inr hclose) h
  | v :: w :: vs, _ =>
    have hends : Dialect.endsAtom ", ".toList = true := by decide
    .next hends hcomma (weaves_row hcomma hclose h (List.cons_ne_nil w vs))

end Frame

/-! ### Conditions on columns -/

namespace Condition

variable (d : Dialect) {field : String}

/-- A column with a text behind it that finishes. -/
theorem finishes_column (hf : IsColumn field) {s : List Char} {depth : Nat} {waiting : Bool}
    {t : String} (ht : Dialect.endsAtom t.toList = true)
    (h : d.Finishes depth waiting (t.toList ++ s)) :
    d.Finishes depth waiting ((field ++ t).toList ++ s) := by
  rw [String.toList_append, List.append_assoc]
  exact h.atom (Dialect.isAtom_column hf) (.inr (Dialect.endsAtom_append ht s))

/-- A column is compared with a value. -/
theorem isOperand_compared (hf : IsColumn field) {comparison : String}
    (hc : comparison ∈ comparisonSigns.map fun sign => " " ++ sign ++ " ") (v : Value) :
    (Frame.compared field comparison v).IsOperand d := by
  have hgap : ∀ c ∈ comparisonSigns.map fun sign => " " ++ sign ++ " ",
      d.gap 0 false c.toList = some (0, false) ∧ Dialect.endsAtom c.toList = true := by
    cases d <;> decide
  obtain ⟨hgap, hends⟩ := hgap _ hc
  refine Frame.isOperand_of_weaves (fun s hs => ?_) (.last (.inl rfl) (Dialect.finishes_nil d))
  exact finishes_column d hf hends (hs.through hgap)

/-- Something fixed about a column. -/
theorem isOperand_about (hf : IsColumn field) {rest : String}
    (hr : rest ∈ fixedEnds.map (" " ++ ·)) : (Frame.mk (field ++ rest) []).IsOperand d := by
  have hrest : ∀ rest ∈ fixedEnds.map (" " ++ ·),
      d.Finishes 0 false (rest.toList ++ []) ∧ Dialect.endsAtom rest.toList = true := by
    cases d <;> decide
  obtain ⟨hfinishes, hends⟩ := hrest _ hr
  have h := finishes_column d hf hends hfinishes
  rw [List.append_nil] at h
  exact Frame.isOperand_text h

theorem isOperand_oneOf (hf : IsColumn field) {vs : List Value} (hv : vs ≠ []) :
    (Frame.listed (field ++ " IN (") ")" vs).IsOperand d := by
  have hin : d.gap 0 false " IN (".toList = some (1, false) := by cases d <;> decide
  have hcomma : d.gap 1 false ", ".toList = some (1, false) := by cases d <;> decide
  have hclose : d.Finishes 1 false ")".toList := by cases d <;> decide
  refine Frame.isOperand_of_weaves (fun s hs => ?_)
    (Frame.weaves_row hcomma (by decide) hclose hv)
  exact finishes_column d hf (by decide) (hs.through hin)

theorem isOperand_noneOf (hf : IsColumn field) {vs : List Value} (hv : vs ≠ []) :
    (Frame.listed ("(" ++ field ++ " IS NULL OR " ++ field ++ " NOT IN (") "))" vs).IsOperand
      d := by
  have hopen : d.gap 0 false "(".toList = some (1, false) := by cases d <;> decide
  have hor : d.gap 1 false " IS NULL OR ".toList = some (1, false) := by cases d <;> decide
  have hin : d.gap 1 false " NOT IN (".toList = some (2, false) := by cases d <;> decide
  have hcomma : d.gap 2 false ", ".toList = some (2, false) := by cases d <;> decide
  have hclose : d.Finishes 2 false "))".toList := by cases d <;> decide
  refine Frame.isOperand_of_weaves (fun s hs => ?_)
    (Frame.weaves_row hcomma (by decide) hclose hv)
  have hsecond := finishes_column d hf (by decide) (hs.through hin)
  have hfirst := finishes_column d hf (by decide) (hsecond.through hor)
  have hall := hfirst.through hopen
  simpa only [Frame.listed, String.toList_append, List.append_assoc] using hall

theorem isOperand_between (hf : IsColumn field) (a b : Value) :
    (Frame.mk (field ++ " BETWEEN ") [(a, " AND "), (b, "")]).IsOperand d := by
  have hbetween : d.gap 0 false " BETWEEN ".toList = some (0, true) := by cases d <;> decide
  have hand : d.gap 0 true " AND ".toList = some (0, false) := by cases d <;> decide
  have hends : Dialect.endsAtom " AND ".toList = true := by decide
  refine Frame.isOperand_of_weaves (fun s hs => ?_)
    (.next hends hand (.last (.inl rfl) (Dialect.finishes_nil d)))
  exact finishes_column d hf (by decide) (hs.through hbetween)

theorem isOperand_search (hf : IsColumn field) {keyword : String}
    (hk : keyword ∈ ["LIKE", "NOT LIKE"]) (v : Value) :
    (Frame.single ("LOWER(" ++ field ++ ") " ++ keyword ++ " ") v d.likeEscape).IsOperand d := by
  have hopen : d.gap 0 false "LOWER(".toList = some (1, false) := by cases d <;> decide
  have hlike : ∀ keyword ∈ ["LIKE", "NOT LIKE"],
      d.gap 1 false (") " ++ keyword ++ " ").toList = some (0, false) ∧
        Dialect.endsAtom (") " ++ keyword ++ " ").toList = true := by
    cases d <;> decide
  have hescape : d.Finishes 0 false d.likeEscape.toList := by cases d <;> decide
  have hends : d.likeEscape.toList = [] ∨ Dialect.endsAtom d.likeEscape.toList = true := by
    cases d <;> decide
  obtain ⟨hlike, hlikeEnds⟩ := hlike _ hk
  refine Frame.isOperand_of_weaves (fun s hs => ?_) (.last hends hescape)
  have hall := (finishes_column d hf hlikeEnds (hs.through hlike)).through hopen
  simpa only [Frame.single, String.toList_append, List.append_assoc] using hall

/-- A condition that no template states, with values where it lists some. -/
def IsPlain : Condition → Prop
  | oneOf vs | noneOf vs => vs ≠ []
  | stated _ => False
  | _ => True

/-- **A plain condition on a column is an operand.** -/
theorem IsPlain.isOperand_clause (hf : IsColumn field) {c : Condition} (hc : c.IsPlain) :
    (c.clause d field).IsOperand d := by
  have hconstant : d.Finishes 0 false "1=0".toList ∧ d.Finishes 0 false "1=1".toList := by
    cases d <;> decide
  have hmissing : (Frame.mk (field ++ " IS NULL") []).IsOperand d :=
    isOperand_about d hf (by decide)
  cases c with
  | never => exact ⟨⟨"1=0", []⟩, rfl, Frame.isOperand_text hconstant.1⟩
  | always => exact ⟨⟨"1=1", []⟩, rfl, Frame.isOperand_text hconstant.2⟩
  | missing => exact ⟨_, rfl, hmissing⟩
  | oneOf vs => exact ⟨_, (clause_oneOf d field hc).symm, isOperand_oneOf d hf hc⟩
  | noneOf vs => exact ⟨_, (clause_noneOf d field hc).symm, isOperand_noneOf d hf hc⟩
  | amount x => exact ⟨_, (clause_amount d field x).symm, isOperand_compared d hf (by decide) _⟩
  | after t => exact ⟨_, (clause_after d field t).symm, isOperand_compared d hf (by decide) _⟩
  | upTo t => exact ⟨_, (clause_upTo d field t).symm, isOperand_compared d hf (by decide) _⟩
  | between a b =>
    exact ⟨_, (clause_between d field a b).symm, isOperand_between d hf _ _⟩
  | contains s =>
    exact ⟨_, (clause_contains d field s).symm, isOperand_search d hf (by decide) _⟩
  | lacks s => exact ⟨_, (clause_lacks d field s).symm, isOperand_search d hf (by decide) _⟩
  | stated s => exact hc.elim

end Condition
end ReportFilter
