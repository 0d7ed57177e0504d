/-
# Atoms

The texts in a predicate that a caller provides are atoms: the name of a column, the
literal of a value, a bind parameter. An atom leaves no literal and no parenthesis
open, and no keyword that joins is among its words. A text literal has no words at
all, whatever text it holds; numbers and bind parameters lack a letter of each
keyword; the words of a column are the parts of its name.

Key definitions: `Dialect.tokensAt`, `Dialect.IsAtom`, `IsColumn`.
Key theorems: `Dialect.lex_textLiteral`, `Dialect.isAtom_literal`,
`Dialect.isAtom_placeholder`, `Dialect.isAtom_column`.
-/
import ReportFilter.Proofs.Conjuncts

namespace ReportFilter

/-! ### Texts without keywords -/

/-- The keywords that join. -/
def Token.keywords : List Token := [and, or, between]

/-- Tokens without keywords that join. -/
def Token.AreCalm (ts : List Token) : Prop := ∀ t ∈ ts, t ∉ keywords

theorem Token.AreCalm.settle {ts : List Token} (h : AreCalm ts) (us : List Token)
    (waiting : Bool) : settle waiting (ts ++ us) = settle waiting us := by
  induction ts with
  | nil => rfl
  | cons t ts ih =>
    have ht : t ∉ keywords := h t List.mem_cons_self
    simp only [keywords, List.mem_cons, List.not_mem_nil, or_false, not_or] at ht
    obtain ⟨hand, -, hbetween⟩ := ht
    have hno : ¬ (waiting = false ∧ t = and) := fun h => hand h.2
    rw [List.cons_append, Token.settle, if_neg hno, waits, if_neg hbetween, if_neg hand]
    exact ih fun u hu => h u (List.mem_cons_of_mem _ hu)

namespace Dialect

/-- The tokens of a text at a depth of parentheses. -/
def tokensAt (d : Dialect) (depth : Nat) (s : List Char) : List Token :=
  (d.lex (.fresh depth) s).2 ++ (d.lex (.fresh depth) s).1.flush

/-- A text that leaves nothing open, wherever it stands, and has no keyword that
joins. -/
def IsAtom (d : Dialect) (s : List Char) : Prop :=
  ∀ depth, (d.lex (.fresh depth) s).1.IsClosed depth ∧ Token.AreCalm (d.tokensAt depth s)

end Dialect

/-! ### Texts between quotes -/

namespace Dialect

variable {d : Dialect}

/-- Characters that stay in a literal are hidden. -/
theorem lex_literal (d : Dialect) (r : LiteralRule) (depth : Nat) :
    ∀ (s : List Char) (p q : LiteralPlace) (x : List Char), r.run p s = some (q, x) →
      d.lex ⟨.literal r p, depth, []⟩ s = (⟨.literal r q, depth, []⟩, s.map .hidden)
  | [], p, q, x, h => by
    cases h
    rfl
  | c :: s, p, q, x, h => by
    obtain ⟨⟨q', x'⟩, hs, h⟩ := Option.bind_eq_some_iff.mp h
    obtain ⟨⟨q'', x''⟩, hrest, h⟩ := Option.map_eq_some_iff.mp h
    cases h
    have hstep : (Lexer.mk (.literal r p) depth []).step d c =
        (⟨.literal r q', depth, []⟩, [.hidden c]) := by
      simp [Lexer.step, scanStep, hs, Lexer.flush]
    rw [lex, hstep, lex_literal d r depth s q' q'' x'' hrest]
    rfl

/-- A text literal is hidden, whatever text it holds. -/
theorem lex_textLiteral (d : Dialect) (depth : Nat) (s : String) :
    d.lex (.fresh depth) (d.textLiteral s).toList =
      (⟨d.behindLiteral, depth, []⟩, (d.textLiteral s).toList.map .hidden) := by
  have hopen : d.lex (.fresh depth) ['\''] =
      (⟨.literal d.literalRule .inside, depth, []⟩, [.hidden '\'']) := by
    cases d <;> rfl
  have hclose : d.literalRule.run .inside ['\''] = some (.quote, []) := by
    cases d <;> rfl
  have hbody := LiteralRule.run_append (LiteralRule.run_quoted d s.toList) ['\'']
  rw [hclose] at hbody
  have hsplit : (d.textLiteral s).toList =
      ['\''] ++ (s.toList.flatMap d.quoteChar ++ ['\'']) := by
    simp [toList_textLiteral]
  rw [hsplit, lex_append, hopen, lex_literal d _ depth _ _ _ _ hbody]
  rfl

theorem isAtom_textLiteral (d : Dialect) (s : String) : d.IsAtom (d.textLiteral s).toList := by
  intro depth
  rw [tokensAt, lex_textLiteral]
  refine ⟨⟨rfl, rfl⟩, fun t ht => ?_⟩
  have hflush : (Lexer.mk d.behindLiteral depth []).flush = [] := rfl
  rw [hflush, List.append_nil] at ht
  obtain ⟨c, -, rfl⟩ := List.mem_map.mp ht
  simp [Token.keywords, Token.and, Token.or, Token.between]

end Dialect

/-! ### Bare texts -/

/-- A character of a bare number or word: no quote, no parenthesis, and no letter
that each keyword that joins has one of. -/
def isBare (c : Char) : Bool := !(['\'', '(', ')', 'D', 'O', 'B'].contains c)

namespace Dialect

variable {d : Dialect}

/-- A text without quotes and parentheses leaves nothing open. -/
theorem lex_of_open : ∀ (s : List Char) (l : Lexer), (∀ c ∈ s, c ≠ '\'' ∧ c ≠ '(' ∧ c ≠ ')') →
    (∃ w, l.place = .outside w) →
      (∃ w, (d.lex l s).1.place = .outside w) ∧ (d.lex l s).1.depth = l.depth
  | [], l, _, hl => ⟨hl, rfl⟩
  | c :: s, ⟨place, depth, word⟩, hs, ⟨w, hw⟩ => by
    obtain ⟨hq, ho, hc⟩ := hs c List.mem_cons_self
    have hplace : place = .outside w := hw
    subst hplace
    have hstep : (∃ w', ((Lexer.mk (.outside w) depth word).step d c).1.place = .outside w') ∧
        ((Lexer.mk (.outside w) depth word).step d c).1.depth = depth := by
      simp only [Lexer.step, scanStep, scanOutside, if_neg hq, if_neg ho, if_neg hc]
      split
      · exact ⟨⟨_, rfl⟩, rfl⟩
      · split <;> exact ⟨⟨_, rfl⟩, rfl⟩
    have ih := lex_of_open s _ (fun c' hc' => hs c' (List.mem_cons_of_mem _ hc')) hstep.1
    rw [lex]
    exact ⟨ih.1, ih.2.trans hstep.2⟩

theorem isClosed_of_open {s : List Char} (hs : ∀ c ∈ s, c ≠ '\'' ∧ c ≠ '(' ∧ c ≠ ')')
    (depth : Nat) : (d.lex (.fresh depth) s).1.IsClosed depth := by
  obtain ⟨⟨w, hw⟩, hdepth⟩ := lex_of_open (d := d) s (.fresh depth) hs ⟨.none, rfl⟩
  refine ⟨?_, hdepth⟩
  rw [hw]
  exact trivial

/-- The characters of tokens are characters of the text. -/
theorem mem_of_mem_tokensAt {depth : Nat} {s : List Char} {t : Token}
    (ht : t ∈ d.tokensAt depth s) {c : Char} (hc : c ∈ t.text) : c ∈ s := by
  have htext : (d.tokensAt depth s).flatMap Token.text = s := by
    rw [tokensAt, List.flatMap_append, flatMap_text_flush, flatMap_text_lex]
    rfl
  rw [← htext]
  exact List.mem_flatMap.mpr ⟨t, ht, hc⟩

/-- **A bare text is an atom.** -/
theorem isAtom_of_bare {s : List Char} (hs : s.all isBare = true) : d.IsAtom s := by
  rw [List.all_eq_true] at hs
  have hout : ∀ c ∈ ['\'', '(', ')', 'D', 'O', 'B'], c ∉ s := by
    intro c hc hmem
    have hbare := hs c hmem
    rw [isBare, Bool.not_eq_true', List.contains_eq_mem, decide_eq_false_iff_not] at hbare
    exact hbare hc
  intro depth
  refine ⟨isClosed_of_open (fun c hc => ⟨?_, ?_, ?_⟩) depth, fun t ht hkeyword => ?_⟩
  · rintro rfl
    exact hout _ (by decide) hc
  · rintro rfl
    exact hout _ (by decide) hc
  · rintro rfl
    exact hout _ (by decide) hc
  -- AND has a D, OR has an O, BETWEEN has a B
  · simp only [Token.keywords, List.mem_cons, List.not_mem_nil, or_false] at hkeyword
    rcases hkeyword with rfl | rfl | rfl
    · exact hout 'D' (by decide) (mem_of_mem_tokensAt ht (by decide))
    · exact hout 'O' (by decide) (mem_of_mem_tokensAt ht (by decide))
    · exact hout 'B' (by decide) (mem_of_mem_tokensAt ht (by decide))

end Dialect

/-! ### Numbers -/

theorem isBare_of_isDigit {c : Char} (h : c.isDigit = true) : isBare c = true := by
  rw [isBare, Bool.not_eq_true', List.contains_eq_mem, decide_eq_false_iff_not]
  intro hmem
  have hno : (['\'', '(', ')', 'D', 'O', 'B'].all fun c => !c.isDigit) = true := by decide
  have hc := List.all_eq_true.mp hno c hmem
  rw [h] at hc
  cases hc

theorem all_take_isBare {s : List Char} (h : s.all isBare = true) (n : Nat) :
    (s.take n).all isBare = true := by
  rw [List.all_eq_true] at h ⊢
  exact fun c hc => h c (List.mem_of_mem_take hc)

theorem all_drop_isBare {s : List Char} (h : s.all isBare = true) (n : Nat) :
    (s.drop n).all isBare = true := by
  rw [List.all_eq_true] at h ⊢
  exact fun c hc => h c (List.mem_of_mem_drop hc)

theorem all_replicate_isBare {c : Char} (h : isBare c = true) (n : Nat) :
    (List.replicate n c).all isBare = true := by
  rw [List.all_eq_true]
  intro x hx
  rw [List.eq_of_mem_replicate hx]
  exact h

namespace Text

theorem all_numeral (n : Nat) : (numeral n).all isBare = true := by
  rw [List.all_eq_true]
  exact fun c hc => isBare_of_isDigit (Nat.isDigit_of_mem_toDigits (by decide) (by decide) hc)

theorem all_signed (n : Int) : (signed n).all isBare = true := by
  cases n with
  | ofNat n => exact all_numeral n
  | negSucc n =>
    rw [signed, List.all_cons, all_numeral]
    decide

theorem all_padded (width n : Nat) : (padded width n).all isBare = true := by
  rw [padded, List.all_append, all_replicate_isBare (by decide), all_numeral]
  rfl

end Text

namespace Decimal

theorem all_sign (negative : Bool) : (sign negative).all isBare = true := by
  cases negative <;> decide

theorem all_positional {digits : List Char} (h : digits.all isBare = true) (places : Nat) :
    (positional digits places).all isBare = true := by
  unfold positional
  split
  · exact h
  · split
    · rw [List.all_append, List.all_cons, all_take_isBare h, all_drop_isBare h]
      decide
    · rw [List.all_append, List.all_cons, List.all_cons, all_replicate_isBare (by decide), h]
      decide

/-- Digits with a point after the first. -/
theorem all_pointed {digits : List Char} (h : digits.all isBare = true) :
    (digits.take 1 ++ (if digits.length ≤ 1 then [] else '.' :: digits.drop 1)).all isBare =
      true := by
  rw [List.all_append, all_take_isBare h]
  split
  · rfl
  · rw [List.all_cons, all_drop_isBare h]
    decide

theorem all_scientific {digits : List Char} (h : digits.all isBare = true) (power : Int) :
    (scientific digits power).all isBare = true := by
  rw [scientific, List.all_append, all_pointed h, List.all_cons, List.all_cons, Text.all_numeral]
  split <;> decide

theorem all_print (x : Decimal) : x.print.all isBare = true := by
  cases x with
  | finite negative coefficient exponent =>
    unfold print
    rw [List.all_append, all_sign]
    split
    · exact all_positional (Text.all_numeral coefficient) _
    · exact all_scientific (Text.all_numeral coefficient) _
  | infinity negative =>
    rw [print, List.all_append, all_sign]
    decide
  | nan negative signaling payload =>
    rw [print, List.all_append, List.all_append, all_sign]
    have hword : ("sNaN".toList.all isBare = true) ∧ "NaN".toList.all isBare = true := by decide
    have hpayload : (if payload = 0 then [] else Text.numeral payload).all isBare = true := by
      split
      · rfl
      · exact Text.all_numeral payload
    rw [hpayload]
    cases signaling <;> decide

end Decimal

namespace Binary64

theorem all_printDigits (c : Nat) (place : Int) : (printDigits c place).all isBare = true := by
  have hdigits := Text.all_numeral c
  unfold printDigits
  dsimp only
  split
  · split
    · rw [List.all_append, List.all_append, hdigits, all_replicate_isBare (by decide)]
      decide
    · exact Decimal.all_positional hdigits _
  · rw [List.all_append, Decimal.all_pointed hdigits, List.all_cons, List.all_cons,
      Text.all_padded]
    split <;> decide

theorem all_print (x : Binary64) : x.print.all isBare = true := by
  unfold print
  split
  · rw [List.all_append, Decimal.all_sign]
    decide
  · rw [List.all_append, Decimal.all_sign]
    exact all_printDigits _ _
  · rw [List.all_append, Decimal.all_sign]
    decide
  · decide

end Binary64

/-! ### Literals, bind parameters and columns -/

namespace Dialect

variable {d : Dialect}

/-- **The literal of a value is an atom.** -/
theorem isAtom_literal (d : Dialect) {v : Value} {l : String} (h : d.literal v = .ok l) :
    d.IsAtom l.toList := by
  cases v with
  | none =>
    cases h
    exact isAtom_of_bare (by decide)
  | bool b =>
    cases h
    cases b <;> exact isAtom_of_bare (by decide)
  | date day =>
    cases h
    exact isAtom_textLiteral d _
  | timestamp t =>
    cases h
    exact isAtom_textLiteral d _
  | text s =>
    cases h
    exact isAtom_textLiteral d s
  | int n =>
    simp only [literal, Value.plain] at h
    split at h
    · cases h
    · cases h
      rw [String.toList_ofList]
      exact isAtom_of_bare (Text.all_signed n)
  | float x =>
    cases h
    rw [String.toList_ofList]
    exact isAtom_of_bare x.all_print
  | decimal x =>
    cases h
    rw [String.toList_ofList]
    exact isAtom_of_bare x.all_print

/-- So is a bind parameter. -/
theorem isAtom_placeholder (d : Dialect) (index : Int) :
    d.IsAtom (d.placeholder index).toList := by
  refine isAtom_of_bare ?_
  cases d with
  | postgresql | duckdb =>
    simp only [placeholder, String.toList_append, String.toList_ofList, List.all_append,
      Text.all_signed]
    decide
  | bigquery =>
    simp only [placeholder, String.toList_append, String.toList_ofList, List.all_append,
      Text.all_signed]
    decide
  | mysql | sqlite =>
    simp only [placeholder]
    decide

/-- Between parentheses nothing is a word. -/
theorem lex_of_depth : ∀ (s : List Char) (w : WordBefore) {depth : Nat}, 0 < depth →
    (∀ c ∈ s, c ≠ '\'' ∧ c ≠ '(' ∧ c ≠ ')') →
      ∃ w', d.lex ⟨.outside w, depth, []⟩ s = (⟨.outside w', depth, []⟩, s.map .hidden)
  | [], w, _, _, _ => ⟨w, rfl⟩
  | c :: s, w, depth, hdepth, hs => by
    obtain ⟨hq, ho, hc⟩ := hs c List.mem_cons_self
    have hstep : (Lexer.mk (.outside w) depth []).step d c =
        (⟨.outside (w.next c), depth, []⟩, [.hidden c]) := by
      simp [Lexer.step, scanStep, scanOutside, hq, ho, hc, hdepth, Lexer.flush]
    obtain ⟨w', ih⟩ := lex_of_depth s (w.next c) hdepth
      fun c' hc' => hs c' (List.mem_cons_of_mem _ hc')
    exact ⟨w', by rw [lex, hstep, ih]; rfl⟩

end Dialect

/-- The name of a column: letters, digits, underscores and points, and no part
between points that is a keyword which joins. -/
structure IsColumn (field : String) : Prop where
  chars : ∀ c ∈ field.toList, isWordChar c = true ∨ c = '.'
  parts : ∀ part ∈ field.toList.splitOn '.', Token.word part ∉ Token.keywords

instance (field : String) : Decidable (IsColumn field) :=
  -- a quantifier over characters alone would be decided for every character there is
  decidable_of_iff ((field.toList.all fun c => isWordChar c || c == '.') = true ∧
      ∀ part ∈ field.toList.splitOn '.', Token.word part ∉ Token.keywords) (by
    have hchars : (field.toList.all fun c => isWordChar c || c == '.') = true ↔
        ∀ c ∈ field.toList, isWordChar c = true ∨ c = '.' := by simp
    rw [hchars]
    exact ⟨fun h => ⟨h.1, h.2⟩, fun h => ⟨h.chars, h.parts⟩⟩)

theorem IsColumn.ne_of_char {c : Char} (h : isWordChar c = true ∨ c = '.') :
    c ≠ '\'' ∧ c ≠ '(' ∧ c ≠ ')' := by
  have hout : (['\'', '(', ')'].all fun x => !(isWordChar x || x == '.')) = true := by decide
  have hne : ∀ x ∈ ['\'', '(', ')'], c ≠ x := by
    rintro x hx rfl
    have hc := List.all_eq_true.mp hout c hx
    rcases h with h | rfl
    · simp [h] at hc
    · simp at hc
  exact ⟨hne _ (by decide), hne _ (by decide), hne _ (by decide)⟩

namespace Dialect

variable {d : Dialect}

theorem eq_of_mem_flush {l : Lexer} {s : List Char} (h : .word s ∈ l.flush) : s = l.word := by
  unfold Lexer.flush at h
  split at h
  · cases h
  · exact Token.word.inj (List.mem_singleton.mp h)

theorem modifyHead_nil_append (parts : List (List Char)) :
    parts.modifyHead ([] ++ ·) = parts := by
  cases parts <;> rfl

/-- The words of a dotted name are its parts. -/
theorem mem_parts_of_word : ∀ (s : List Char) (w : WordBefore) (word : List Char),
    (∀ c ∈ s, isWordChar c = true ∨ c = '.') → ∀ part,
      .word part ∈ (d.lex ⟨.outside w, 0, word⟩ s).2 ++
        (d.lex ⟨.outside w, 0, word⟩ s).1.flush →
      part ∈ (s.splitOn '.').modifyHead (word ++ ·)
  | [], w, word, _, part, h => by
    have hpart : part = word := eq_of_mem_flush (l := .mk (.outside w) 0 word) h
    rw [hpart]
    simp
  | c :: s, w, word, hs, part, h => by
    have hrest : ∀ c ∈ s, isWordChar c = true ∨ c = '.' :=
      fun c' hc' => hs c' (List.mem_cons_of_mem _ hc')
    obtain ⟨hq, ho, hc⟩ := IsColumn.ne_of_char (hs c List.mem_cons_self)
    rw [List.splitOn, List.splitOnP_cons_eq_if_modifyHead]
    by_cases hpoint : c = '.'
    · subst hpoint
      have hstep : (Lexer.mk (.outside w) 0 word).step d '.' =
          (⟨.outside .none, 0, []⟩, (Lexer.mk (.outside w) 0 word).flush ++ [.char '.']) := by
        simp [Lexer.step, scanStep, scanOutside, WordBefore.next, isWordChar]
      have ih := mem_parts_of_word s .none [] hrest part
      rw [lex, hstep, List.append_assoc, List.append_assoc, List.mem_append] at h
      rw [if_pos (by decide), List.modifyHead_cons, List.append_nil]
      rcases h with h | h
      · rw [eq_of_mem_flush h]
        exact List.mem_cons_self
      · have hmem := ih ((List.mem_cons.mp h).resolve_left (by simp))
        rw [modifyHead_nil_append] at hmem
        exact List.mem_cons_of_mem _ hmem
    · have hword : isWordChar c = true := (hs c List.mem_cons_self).resolve_right hpoint
      have hstep : (Lexer.mk (.outside w) 0 word).step d c =
          (⟨.outside (w.next c), 0, word ++ [c]⟩, []) := by
        simp [Lexer.step, scanStep, scanOutside, hq, ho, hc, hword]
      have ih := mem_parts_of_word s (w.next c) (word ++ [c]) hrest part
      rw [lex, hstep, List.nil_append] at h
      rw [if_neg (by simpa using hpoint), List.modifyHead_modifyHead]
      have hmem := ih h
      simp only [List.append_assoc, List.singleton_append] at hmem
      exact hmem

/-- **The name of a column is an atom.** -/
theorem isAtom_column {field : String} (h : IsColumn field) : d.IsAtom field.toList := by
  have hopen : ∀ c ∈ field.toList, c ≠ '\'' ∧ c ≠ '(' ∧ c ≠ ')' :=
    fun c hc => IsColumn.ne_of_char (h.chars c hc)
  intro depth
  refine ⟨isClosed_of_open hopen depth, fun t ht hkeyword => ?_⟩
  have hword : ∃ part, t = .word part := by
    simp only [Token.keywords, List.mem_cons, List.not_mem_nil, or_false] at hkeyword
    rcases hkeyword with rfl | rfl | rfl <;> exact ⟨_, rfl⟩
  obtain ⟨part, rfl⟩ := hword
  rcases Nat.eq_zero_or_pos depth with rfl | hdepth
  · have hpart := mem_parts_of_word field.toList .none [] h.chars part ht
    rw [modifyHead_nil_append] at hpart
    exact h.parts part hpart hkeyword
  · obtain ⟨w, hlex⟩ := lex_of_depth (d := d) field.toList .none hdepth hopen
    have htokens : d.tokensAt depth field.toList = field.toList.map .hidden := by
      rw [tokensAt, Lexer.fresh, hlex]
      exact List.append_nil _
    rw [htokens] at ht
    obtain ⟨c, -, hc⟩ := List.mem_map.mp ht
    cases hc

end Dialect

end ReportFilter
