/-
# Templates word for word

A template with a slot for the value is rendered to a fragment, whose slots are filled in
a second step. The field is escaped for that step and the comparison and the template's own
text are not, so a percent sign in these never comes out as it stands: it opens a slot, or
two of them stand for one.

Percent signs are counted. A filled fragment has at most half of them left besides those of
its arguments (`Fragment.percents_fill`), as every one belongs to a slot or to a pair. Text
that is escaped has all of its own left, so a fragment with other percent signs has too few
for its template word for word (`Template.fill_fragment_iff`).

Key definitions: `Template.IsValued`, `Template.said`, `Template.ownText`,
`Template.fragment`.
Key theorems: `Fragment.percents_fill`, `Template.fill_fragment_iff`,
`Situation.decideTemplate_valued`, `Work.says_template_iff`.
-/
import Mathlib.Tactic.SplitIfs
import ReportFilter.Proofs.Runs

namespace ReportFilter

namespace Text

/-! ### Percent signs of quoted texts -/

theorem percent_not_mem_hex (n : Nat) : ∀ width, '%' ∉ hex width n := by
  have hdigit : ∀ n < 16, hexDigit n ≠ '%' := by decide
  intro width
  induction width generalizing n with
  | zero => simp [hex]
  | succ width ih =>
    simp only [hex, List.mem_append, List.mem_singleton, not_or]
    exact ⟨ih (n / 16), (hdigit (n % 16) (Nat.mod_lt n (by decide))).symm⟩

theorem percent_not_mem_codeEscape (c : Char) : '%' ∉ codeEscape c := by
  simp only [codeEscape]
  split_ifs <;> simp [percent_not_mem_hex]

/-- A character that is quoted is one percent sign at most, and only for one. -/
theorem percents_escapeChar (shown : Char → Bool) (quote c : Char) :
    (escapeChar shown quote c).count '%' ≤ [c].count '%' := by
  unfold escapeChar
  split_ifs with h1 h2 h3 h4 h5
  · simp [List.count_cons]
  · simp
  · simp
  · simp
  · exact Nat.le_refl _
  · rw [List.count_eq_zero.mpr (percent_not_mem_codeEscape c)]
    exact Nat.zero_le _

/-- Quoting makes no percent signs. -/
theorem percents_quotedBy (shown : Char → Bool) (s : List Char) :
    (quotedBy shown s).count '%' ≤ s.count '%' := by
  have hquote : quoteFor s ≠ '%' := by
    unfold quoteFor
    split <;> decide
  have hall : ∀ l : List Char,
      (l.flatMap (escapeChar shown (quoteFor s))).count '%' ≤ l.count '%' := by
    intro l
    induction l with
    | nil => exact Nat.le_refl _
    | cons c l ih =>
      have hc := percents_escapeChar shown (quoteFor s) c
      rw [List.flatMap_cons, List.count_append, List.count_cons]
      rw [List.count_singleton] at hc
      omega
  have hends : (quotedBy shown s).count '%' =
      (s.flatMap (escapeChar shown (quoteFor s))).count '%' := by
    simp [quotedBy, hquote]
  rw [hends]
  exact hall s

end Text

namespace Fragment

/-! ### Percent signs of filled fragments -/

theorem percents_convert {conversion : Char} {a b : List Char}
    (h : convert conversion a = .ok b) : b.count '%' ≤ a.count '%' := by
  unfold convert at h
  split_ifs at h
  · cases h
    exact Nat.le_refl _
  · cases h
    exact Text.percents_quotedBy _ a
  · cases h
    exact Text.percents_quotedBy _ a
  · cases h
    exact Nat.le_refl _

theorem percents_arrange {layout : Layout} {conversion : Char} {a b : List Char}
    (h : layout.arrange conversion a = .ok b) : b.count '%' ≤ a.count '%' := by
  have hpad : ∀ n : Nat, (List.replicate n ' ').count '%' = 0 := fun n => by
    simp [List.count_replicate]
  cases hp : layout.precision with
  | none =>
    simp only [Layout.arrange, hp, ite_self] at h
    split_ifs at h
    all_goals
      cases h
      rw [List.count_append, hpad]
      omega
  | some n =>
    have hcut := (List.take_sublist n a).count_le '%'
    simp only [Layout.arrange, hp] at h
    split_ifs at h
    all_goals
      cases h
      rw [List.count_append, hpad]
      omega

/-- The step goes on, or it ends a slot, well formed or not. -/
def Step.EndsSlot : Step → Prop
  | .next _ _ | .measure _ => True
  | .finish piece => ∃ layout conversion, piece = .slot layout conversion
  | .fault piece => piece = .malformed ∨ piece = .unsuited

theorem endsSlot_stepSize (layout : Layout) (c : Char) : (stepSize layout c).EndsSlot := by
  unfold stepSize
  split
  · trivial
  · exact ⟨layout, c, rfl⟩

theorem endsSlot_stepPrecision (layout : Layout) (c : Char) :
    (stepPrecision layout c).EndsSlot := by
  simp only [stepPrecision]
  split_ifs
  · exact .inl rfl
  · trivial
  · exact endsSlot_stepSize layout c

theorem endsSlot_stepPoint (layout : Layout) (c : Char) : (stepPoint layout c).EndsSlot := by
  unfold stepPoint
  split
  · trivial
  · exact endsSlot_stepSize layout c

theorem endsSlot_stepFlags (layout : Layout) (c : Char) : (stepFlags layout c).EndsSlot := by
  simp only [stepFlags, stepWidth]
  split_ifs
  any_goals trivial
  · exact .inl rfl
  · exact endsSlot_stepPoint layout c

/-- A character of a slot goes on or ends it, except that a percent sign may be the second one
of a pair. -/
theorem step_cases (stage : Stage) (layout : Layout) (c : Char) :
    c = '%' ∧ step stage layout c = .finish (.text '%') ∨ (step stage layout c).EndsSlot := by
  cases stage with
  | start =>
    simp only [step]
    split_ifs with h1 h2
    · exact .inl ⟨h1, rfl⟩
    · exact .inr (.inr rfl)
    · exact .inr (endsSlot_stepFlags layout c)
  | flags => exact .inr (endsSlot_stepFlags layout c)
  | width =>
    right
    simp only [step, stepWidth]
    split_ifs
    · exact .inl rfl
    · trivial
    · exact endsSlot_stepPoint layout c
  | afterWidth => exact .inr (endsSlot_stepPoint layout c)
  | point =>
    simp only [step]
    split_ifs
    · exact .inr trivial
    · exact .inr (endsSlot_stepPrecision layout c)
  | precision => exact .inr (endsSlot_stepPrecision layout c)
  | afterPrecision => exact .inr (endsSlot_stepSize layout c)
  | conversion => exact .inr ⟨layout, c, rfl⟩

/-- The percent signs in front of a text that starts at a place. -/
def opened : Option (Stage × Layout) → Nat
  | none => 0
  | some _ => 1

/-- **Half of the percent signs of a fragment come out.** Each belongs to a slot or to a pair
that stands for one; the arguments bring their own. -/
theorem percents_fillPieces : ∀ (s : List Char) (place : Option (Stage × Layout))
    {arguments : List (List Char)} {out : List Char},
    fillPieces (piecesFrom place s) arguments = .ok out →
      2 * out.count '%' + arguments.length ≤
        s.count '%' + opened place + 2 * arguments.flatten.count '%'
  | [], none, arguments, out, h => by
    cases arguments with
    | nil =>
      cases h
      simp
    | cons a arguments => cases h
  | [], some (stage, layout), arguments, out, h => by
    cases arguments <;> cases h
  | c :: s, none, arguments, out, h => by
    by_cases hc : c = '%'
    · subst hc
      have ih := percents_fillPieces s (some (.start, .plain)) (by simpa [piecesFrom] using h)
      simpa [opened, List.count_cons] using ih
    · simp only [piecesFrom, if_neg hc, fillPieces] at h
      obtain ⟨rest, hrest, h⟩ := exists_of_bind_eq_ok h
      cases h
      have ih := percents_fillPieces s none hrest
      simpa [opened, List.count_cons, hc] using ih
  | c :: s, some (stage, layout), arguments, out, h => by
    have hcount : s.count '%' ≤ (c :: s).count '%' := List.count_le_count_cons
    rcases step_cases stage layout c with ⟨rfl, hstep⟩ | hends
    · -- the second of a pair
      simp only [piecesFrom, hstep, fillPieces] at h
      obtain ⟨rest, hrest, h⟩ := exists_of_bind_eq_ok h
      cases h
      have ih := percents_fillPieces s none hrest
      simp only [opened, List.count_cons, beq_self_eq_true, if_true] at ih ⊢
      omega
    · rcases hstep : step stage layout c with ⟨stage', layout'⟩ | piece | piece | stage'
      · simp only [piecesFrom, hstep] at h
        have ih := percents_fillPieces s (some (stage', layout')) h
        simp only [opened] at ih ⊢
        omega
      · rw [hstep] at hends
        obtain ⟨layout', conversion, rfl⟩ := hends
        simp only [piecesFrom, hstep] at h
        cases arguments with
        | nil => cases h
        | cons a arguments =>
          simp only [fillPieces] at h
          obtain ⟨b, hb, h⟩ := exists_of_bind_eq_ok h
          obtain ⟨t, ht, h⟩ := exists_of_bind_eq_ok h
          obtain ⟨rest, hrest, h⟩ := exists_of_bind_eq_ok h
          cases h
          have ih := percents_fillPieces s none hrest
          have hb := percents_convert hb
          have ht := percents_arrange ht
          simp only [opened, List.count_append, List.length_cons, List.flatten_cons] at ih ⊢
          omega
      · rw [hstep] at hends
        simp only [piecesFrom, hstep] at h
        rcases hends with rfl | rfl <;> cases arguments <;> cases h
      · simp only [piecesFrom, hstep] at h
        cases arguments <;> cases h

/-- So a filled fragment has no more percent signs than that. -/
theorem percents_fill {fragment predicate : String} {arguments : List String}
    (h : fill fragment arguments = .ok predicate) :
    2 * predicate.toList.count '%' + arguments.length ≤
      fragment.toList.count '%' + 2 * (arguments.flatMap String.toList).count '%' := by
  unfold fill at h
  rcases hp : fillPieces (pieces fragment.toList) (arguments.map String.toList) with e | out
  · rw [hp] at h
    cases h
  · rw [hp] at h
    cases h
    have hout := percents_fillPieces fragment.toList none hp
    rw [String.toList_ofList]
    simpa [opened, List.flatMap_def] using hout

/-- Text without percent signs is not changed by escaping. -/
theorem flatMap_escapeChar_of_plain {l : List Char} (h : '%' ∉ l) : l.flatMap escapeChar = l := by
  have hescape := congrArg String.toList
    (escape_of_plain (s := String.ofList l) (by rwa [String.toList_ofList]))
  rwa [toList_escape, String.toList_ofList] at hescape

theorem percents_escape (l : List Char) :
    (l.flatMap escapeChar).count '%' = 2 * l.count '%' := by
  induction l with
  | nil => rfl
  | cons c l ih =>
    rw [List.flatMap_cons, List.count_append, ih, List.count_cons]
    by_cases hc : c = '%'
    · subst hc
      simp [escapeChar]
      omega
    · simp [escapeChar, hc]

end Fragment

/-! ### Templates that take a value -/

namespace Template

/-- A part of a template: text without braces, or one of the three slots. -/
inductive IsPart : Mark → Prop
  | text (s : List Char) (h : ∀ c ∈ s, c ≠ '{' ∧ c ≠ '}') : IsPart (.text s)
  | field : IsPart (.slot "field".toList)
  | op : IsPart (.slot "op".toList)
  | value : IsPart (.slot "value".toList)

/-- A template that takes a value: it has any number of slots for the field and the comparison,
and one for the value. -/
structure IsValued (ms : List Mark) : Prop where
  parts : ∀ m ∈ ms, IsPart m
  value : ms.count (.slot "value".toList) = 1

/-- What stands in the place of a slot. -/
def slotText (field op value name : List Char) : List Char :=
  if name = "field".toList then field else if name = "op".toList then op else value

/-- The text of a template with its slots replaced. -/
def said (ms : List Mark) (field op value : String) : String :=
  String.ofList (ms.flatMap (Mark.filled (slotText field.toList op.toList value.toList)))

/-- What a template says besides the field and the value: its own text and the comparison. -/
def ownText (ms : List Mark) (op : String) : String := said ms "" op ""

/-- The fragment that a template is rendered to. -/
def fragment (ms : List Mark) (field op : String) : String :=
  said ms (Fragment.escape field) op "%s"

@[simp] theorem slotText_field (field op value : List Char) :
    slotText field op value "field".toList = field := if_pos rfl

@[simp] theorem slotText_op (field op value : List Char) :
    slotText field op value "op".toList = op :=
  (if_neg (by decide)).trans (if_pos rfl)

@[simp] theorem slotText_value (field op value : List Char) :
    slotText field op value "value".toList = value :=
  (if_neg (by decide)).trans (if_neg (by decide))

variable (field op value : String)

theorem toList_said (ms : List Mark) : (said ms field op value).toList =
    ms.flatMap (Mark.filled (slotText field.toList op.toList value.toList)) :=
  String.toList_ofList

theorem toList_said_cons (m : Mark) (ms : List Mark) : (said (m :: ms) field op value).toList =
    m.filled (slotText field.toList op.toList value.toList) ++ (said ms field op value).toList := by
  rw [toList_said, toList_said, List.flatMap_cons]

/-- **Percent signs counted**: those of the field are doubled in the fragment, the other ones are
not, and each value has one slot. -/
theorem percents_fragment : ∀ ms : List Mark, (∀ m ∈ ms, IsPart m) →
    2 * (said ms field op value).toList.count '%' + ms.count (.slot "value".toList) =
      (fragment ms field op).toList.count '%' + (ownText ms op).toList.count '%' +
        2 * (ms.count (.slot "value".toList) * value.toList.count '%')
  | [], _ => by simp [fragment, ownText, toList_said]
  | m :: ms, h => by
    have ih := percents_fragment ms fun x hx => h x (List.mem_cons_of_mem _ hx)
    simp only [fragment, ownText, toList_said_cons, List.count_append] at ih ⊢
    cases h m List.mem_cons_self with
    | text s =>
      rw [List.count_cons_of_ne (by simp)]
      simp only [Mark.filled]
      omega
    | field =>
      rw [List.count_cons_of_ne (by decide)]
      simp only [Mark.filled, slotText_field, Fragment.toList_escape, Fragment.percents_escape,
        String.toList_empty, List.count_nil]
      omega
    | op =>
      rw [List.count_cons_of_ne (by decide)]
      simp only [Mark.filled, slotText_op]
      omega
    | value =>
      have hslot : "%s".toList.count '%' = 1 := by decide
      rw [List.count_cons_self, Nat.add_one_mul (ms.count _)]
      simp only [Mark.filled, slotText_value, hslot, String.toList_empty, List.count_nil]
      omega

/-- Text that reads as it stands is in front of what a fragment is filled to. -/
theorem fillPieces_text {s : List Char} (hs : '%' ∉ s) {rest : List Char}
    {arguments : List (List Char)} {out : List Char}
    (h : Fragment.fillPieces (Fragment.piecesFrom none rest) arguments = .ok out) :
    Fragment.fillPieces (Fragment.piecesFrom none (s ++ rest)) arguments = .ok (s ++ out) := by
  have hpieces := Fragment.piecesFrom_escape s rest
  rw [Fragment.flatMap_escapeChar_of_plain hs] at hpieces
  rw [hpieces, Fragment.fillPieces_texts, h]
  rfl

/-- **Without percent signs of its own, a template comes out word for word.** -/
theorem fillPieces_fragment : ∀ ms : List Mark, (∀ m ∈ ms, IsPart m) →
    '%' ∉ (ownText ms op).toList →
    Fragment.fillPieces (Fragment.piecesFrom none (fragment ms field op).toList)
      (List.replicate (ms.count (.slot "value".toList)) value.toList) =
        .ok (said ms field op value).toList
  | [], _, _ => by simp [fragment, toList_said, Fragment.piecesFrom, Fragment.fillPieces]
  | m :: ms, h, hown => by
    simp only [ownText, toList_said_cons, List.mem_append, not_or] at hown
    have ih := fillPieces_fragment ms (fun x hx => h x (List.mem_cons_of_mem _ hx)) hown.2
    simp only [fragment, toList_said_cons] at ih ⊢
    cases h m List.mem_cons_self with
    | text s =>
      rw [List.count_cons_of_ne (by simp)]
      simp only [Mark.filled] at hown ⊢
      exact fillPieces_text hown.1 ih
    | field =>
      rw [List.count_cons_of_ne (by decide)]
      simp only [Mark.filled, slotText_field, Fragment.toList_escape, Fragment.piecesFrom_escape,
        Fragment.fillPieces_texts, ih]
      rfl
    | op =>
      rw [List.count_cons_of_ne (by decide)]
      simp only [Mark.filled, slotText_op] at hown ⊢
      exact fillPieces_text hown.1 ih
    | value =>
      have hpieces : ∀ rest, Fragment.piecesFrom none ("%s".toList ++ rest) =
          .slot .plain 's' :: Fragment.piecesFrom none rest := fun rest => rfl
      simp only [List.count_cons_self, List.replicate_succ, Mark.filled, slotText_value, hpieces,
        Fragment.fillPieces_slot, ih]
      rfl

/-- **The fragment of a template that takes a value is filled to the template word for word
exactly if neither its own text nor the comparison has a percent sign.** -/
theorem fill_fragment_iff {ms : List Mark} (h : IsValued ms) :
    Fragment.fill (fragment ms field op) [value] = .ok (said ms field op value) ↔
      '%' ∉ (ownText ms op).toList := by
  constructor
  · intro hfill
    have hbudget := Fragment.percents_fill hfill
    have hcount := percents_fragment field op value ms h.parts
    rw [h.value] at hcount
    simp only [List.length_singleton, List.flatMap_singleton] at hbudget
    rw [← List.count_eq_zero]
    omega
  · intro hown
    have hfill := fillPieces_fragment field op value ms h.parts hown
    rw [h.value] at hfill
    rw [Fragment.fill, Fragment.pieces]
    show Except.map _ (Fragment.fillPieces _ (List.replicate 1 value.toList)) = _
    rw [hfill]
    show Except.ok (String.ofList _) = _
    rw [String.ofList_toList]

/-! ### Templates rendered -/

theorem IsValued.isPlain {ms : List Mark} (h : IsValued ms) : ∀ m ∈ ms, m.IsPlain := by
  intro m hm
  cases h.parts m hm with
  | text s hs => exact hs
  | field => simp [Mark.IsPlain]
  | op => simp [Mark.IsPlain]
  | value => simp [Mark.IsPlain]

theorem IsValued.hasSlot {ms : List Mark} (h : IsValued ms) {template : String}
    (hs : template.toList = spelled ms) : hasSlot template "value" = true := by
  have hmem : Mark.slot "value".toList ∈ ms := List.count_pos_iff.mp (by rw [h.value]; decide)
  obtain ⟨before, after, rfl⟩ := List.append_of_mem hmem
  rw [Template.hasSlot, Text.occursIn_iff, hs]
  refine ⟨spelled before, spelled after, ?_⟩
  simp [spelled, Mark.spelled]

/-- A template that takes a value is rendered to its fragment. -/
theorem render_valued {ms : List Mark} (h : IsValued ms) {template : String}
    (hs : template.toList = spelled ms) (field op : String) :
    render template [("field", Fragment.escape field), ("op", op), ("value", "%s")] =
      .ok (fragment ms field op) := by
  refine render_spelled hs h.isPlain _ _ fun name hname => ?_
  cases h.parts _ hname with
  | field => rfl
  | op => rfl
  | value => rfl

end Template

/-- An operator states its template's fragment with the first value. -/
theorem Situation.decideTemplate_valued (s : Situation) (field : String) (values : List Value)
    {template : String} (ht : s.operator.template = some template) {ms : List Template.Mark}
    (h : Template.IsValued ms) (hs : template.toList = Template.spelled ms) :
    s.decideTemplate field values = .ok (.append (.stated
      ⟨Template.fragment ms field s.operator.comparison, [values.headD (.text "")]⟩)) := by
  simp only [decideTemplate, ht, h.hasSlot hs, if_true, Template.render_valued h hs]
  rfl

/-- A clause with one value appended to an inline query. -/
theorem Query.append_inline {q : Query} (hi : q.parameterized = false) (fragment : String)
    (v : Value) :
    q.append ⟨fragment, [v]⟩ =
      match (q.dialect.literal v).bind fun literal => Fragment.fill fragment [literal] with
      | .ok predicate => .done (q.push predicate)
      | .error e => .fail q e := by
  simp only [append, List.cons_ne_nil, if_false, hi, Bool.false_eq_true, List.mapM_cons,
    List.mapM_nil]
  rcases q.dialect.literal v with e | literal
  · rfl
  · show q.pushFilled fragment [literal] = match Fragment.fill fragment [literal] with
      | .ok predicate => .done (q.push predicate)
      | .error e => .fail q e
    unfold pushFilled
    rfl

namespace Work

theorem exists_chainLimit_succ (w : Work) : ∃ steps, w.chainLimit = steps + 1 := by
  unfold chainLimit longestChain
  exact Nat.exists_eq_succ_of_ne_zero (by omega)

/-- What is appended is known where an attempt follows texts. -/
theorem Follows.appends_iff {w : Work} {a : Attempt Work} {x : Except Failure (List String)}
    (h : w.Follows a x) (predicates : List String) :
    w.Appends a predicates ↔ x = .ok predicates := by
  cases h with
  | @ok appended h =>
    constructor
    · intro h'
      have hsame : w.query.predicates ++ appended = w.query.predicates ++ predicates :=
        congrArg Query.predicates (h.2.symm.trans h'.2)
      rw [List.append_cancel_left hsame]
    · intro hx
      cases hx
      exact h
  | error h =>
    constructor
    · intro h'
      rw [h'.1] at h
      cases h
    · intro hx
      cases hx

variable {w : Work} {op : Operator} {template : String} {ms : List Template.Mark}

/-- An operator of a template appends what its fragment is filled to, or fails as the literal
or the fragment does. -/
theorem follows_template (hi : w.query.parameterized = false) (hop : op.behavior = .template)
    (ht : op.template = some template) (h : Template.IsValued ms)
    (hs : template.toList = Template.spelled ms) (field : String) (values : List Value) :
    w.Follows (w.modify op field values)
      (((w.query.dialect.literal (values.headD (.text ""))).bind fun literal =>
        Fragment.fill (Template.fragment ms field op.comparison) [literal]).map
          fun predicate => [predicate]) := by
  obtain ⟨steps, hsteps⟩ := w.exists_chainLimit_succ
  have hd : op.behavior.decide (w.engine.situation op) field values = .append (.stated
      ⟨Template.fragment ms field op.comparison, [values.headD (.text "")]⟩) := by
    rw [hop, Behavior.decide, Behavior.accepts_of_rest rfl]
    show Decision.ofExcept ((w.engine.situation op).decideTemplate field values) = _
    rw [Situation.decideTemplate_valued _ field values ht h hs]
    rfl
  rw [modify, hsteps, modifyWithin_of_append hd, Condition.clause_stated,
    Query.append_inline hi]
  rcases (w.query.dialect.literal (values.headD (.text ""))).bind fun literal =>
      Fragment.fill (Template.fragment ms field op.comparison) [literal] with e | predicate
  · exact .error rfl
  · exact .ok ⟨rfl, rfl⟩

/-- **An operator says its template word for word exactly if the template's own text and the
comparison in it have no percent sign.** The field, and the literal of the first value, may have
any. A value without a literal is the failure of the operator. -/
theorem says_template_iff (hi : w.query.parameterized = false) (hop : op.behavior = .template)
    (ht : op.template = some template) (h : Template.IsValued ms)
    (hs : template.toList = Template.spelled ms) (field : String) (values : List Value) :
    (∀ literal, w.query.dialect.literal (values.headD (.text "")) = .ok literal →
      (w.Appends (w.modify op field values) [Template.said ms field op.comparison literal] ↔
        '%' ∉ (Template.ownText ms op.comparison).toList)) ∧
    ∀ e, w.query.dialect.literal (values.headD (.text "")) = .error e →
      (w.modify op field values).outcome = .error e := by
  have hfollows := follows_template hi hop ht h hs field values
  refine ⟨fun literal hl => ?_, fun e hl => ?_⟩
  · rw [hl] at hfollows
    change w.Follows _ ((Fragment.fill _ [literal]).map _) at hfollows
    rw [hfollows.appends_iff, ← Template.fill_fragment_iff field op.comparison literal h]
    rcases Fragment.fill (Template.fragment ms field op.comparison) [literal] with e | predicate
    · constructor <;> intro hx <;> cases hx
    · simp [Except.map]
  · rw [hl] at hfollows
    cases hfollows with
    | error h => exact h

/-- An operator that is named by a percent sign, and compares by its name, fails. -/
theorem modify_modulo :
    let w : Work := ⟨.standard ⟨none, none⟩
      ⟨2024, 1, 17, by decide, by decide, by decide, by decide⟩, .empty .postgresql false⟩
    let spec : Operator.Spec := { name := .text "%", label := some "label_modulo" }
    ∃ op, Operator.ofSpec .initial "%" spec = .ok op ∧ op.behavior = .template ∧
      op.template = some defaultTemplate ∧ op.comparison = "%" ∧
      (w.modify op "n" [.text "3"]).failure? = some .fragmentSlot ∧
      ¬ w.Appends (w.modify op "n" [.text "3"]) ["n % '3'"] := by
  intro w spec
  let op : Operator :=
    ⟨"%", -1, "label_modulo", "%", some defaultTemplate, [], .template, none, none⟩
  have hfailure : (w.modify op "n" [.text "3"]).failure? = some .fragmentSlot := by
    decide +kernel
  refine ⟨op, rfl, rfl, rfl, rfl, hfailure, fun happended => ?_⟩
  rw [Attempt.failure?_eq_none_iff.mpr happended.1] at hfailure
  cases hfailure

/-- A template with text around its slots, and percent signs in the field and in the value. -/
theorem says_template_iff_percents :
    let w : Work := ⟨.standard ⟨none, none⟩
      ⟨2024, 1, 17, by decide, by decide, by decide, by decide⟩, .empty .postgresql false⟩
    let template := "NOT (\x7bfield\x7d \x7bop\x7d \x7bvalue\x7d)"
    let op : Operator := ⟨"!=", -1, "!=", "<>", some template, [], .template, none, none⟩
    let ms : List Template.Mark := [.text "NOT (".toList, .slot "field".toList, .text " ".toList,
      .slot "op".toList, .text " ".toList, .slot "value".toList, .text ")".toList]
    w.query.parameterized = false ∧ op.behavior = .template ∧ op.template = some template ∧
      Template.IsValued ms ∧ template.toList = Template.spelled ms ∧
      w.query.dialect.literal (.text "50%") = .ok "'50%'" ∧
      '%' ∉ (Template.ownText ms op.comparison).toList ∧
      w.Appends (w.modify op "a%s" [.text "50%"]) ["NOT (a%s <> '50%')"] := by
  intro w template op ms
  have hvalued : Template.IsValued ms := by
    refine ⟨fun m hm => ?_, by decide⟩
    simp only [ms, List.mem_cons, List.not_mem_nil, or_false] at hm
    rcases hm with rfl | rfl | rfl | rfl | rfl | rfl | rfl
    · exact .text _ (by simp)
    · exact .field
    · exact .text _ (by simp)
    · exact .op
    · exact .text _ (by simp)
    · exact .value
    · exact .text _ (by simp)
  have hspelled : template.toList = Template.spelled ms := by decide
  have hown : '%' ∉ (Template.ownText ms op.comparison).toList := by decide
  obtain ⟨happends, -⟩ := @says_template_iff w op _ _ rfl rfl rfl hvalued hspelled "a%s"
    [.text "50%"]
  have hsaid : Template.said ms "a%s" op.comparison "'50%'" = "NOT (a%s <> '50%')" := by decide
  have happends := (happends "'50%'" rfl).mpr hown
  rw [hsaid] at happends
  exact ⟨rfl, rfl, rfl, hvalued, hspelled, rfl, hown, happends⟩

end Work
end ReportFilter
