/-
# Causes of failure

A validator that is missing is a failure of the table of validators. What behaviors work
with (values and their texts, days, amounts, templates, fragments and literals) never
looks into that table, so none of it fails for a missing validator. One lemma for each
operation says so, and the decisions of behaviors and the clauses of a query follow.

Key definition: `NeedsNoValidator`.
Key theorems: `Query.needsNoValidator_appendAll`, `Behavior.needsNoValidator_decide`.
-/
import ReportFilter.Engine

namespace ReportFilter

/-- The operation does not fail for a missing validator. -/
def NeedsNoValidator {α : Type} (x : Except Failure α) : Prop :=
  ∀ e, x = .error e → e.kind ≠ .unknownValidator

section Operations

variable {α β : Type}

@[simp] theorem needsNoValidator_ok (a : α) : NeedsNoValidator (.ok a : Except Failure α) :=
  fun e h => by cases h

@[simp] theorem needsNoValidator_error_iff {e : Failure} :
    NeedsNoValidator (.error e : Except Failure α) ↔ e.kind ≠ .unknownValidator := by
  refine ⟨fun h => h e rfl, fun h f hf => ?_⟩
  cases hf
  exact h

theorem NeedsNoValidator.bind {x : Except Failure α} {f : α → Except Failure β}
    (hx : NeedsNoValidator x) (hf : ∀ a, NeedsNoValidator (f a)) : NeedsNoValidator (x >>= f) := by
  cases x with
  | error e => exact needsNoValidator_error_iff.mpr (hx e rfl)
  | ok a => exact hf a

@[simp] theorem needsNoValidator_map_iff {x : Except Failure α} {f : α → β} :
    NeedsNoValidator (x.map f) ↔ NeedsNoValidator x := by
  cases x <;> simp [Except.map]

theorem NeedsNoValidator.ite {p : Prop} [Decidable p] {x y : Except Failure α}
    (hx : NeedsNoValidator x) (hy : NeedsNoValidator y) :
    NeedsNoValidator (if p then x else y) := by
  split
  · exact hx
  · exact hy

theorem needsNoValidator_mapM {f : α → Except Failure β} : ∀ {xs : List α},
    (∀ x ∈ xs, NeedsNoValidator (f x)) → NeedsNoValidator (xs.mapM f)
  | [], _ => by simp [pure, Except.pure]
  | x :: xs, h => by
    rw [List.mapM_cons]
    refine (h x List.mem_cons_self).bind fun a => ?_
    refine (needsNoValidator_mapM fun y hy => h y (List.mem_cons_of_mem x hy)).bind fun as => ?_
    exact needsNoValidator_ok _

theorem needsNoValidator_foldlM {f : β → α → Except Failure β}
    (hf : ∀ b a, NeedsNoValidator (f b a)) : ∀ (xs : List α) (b : β),
      NeedsNoValidator (xs.foldlM f b)
  | [], b => needsNoValidator_ok b
  | x :: xs, b => by
    rw [List.foldlM_cons]
    exact (hf b x).bind fun b => needsNoValidator_foldlM hf xs b

end Operations

/-! ### Values -/

@[simp] theorem Value.needsNoValidator_plain (v : Value) : NeedsNoValidator v.plain := by
  cases v with
  | int n =>
    rw [plain]
    split <;> simp [Failure.kind]
  | _ => exact needsNoValidator_ok _

@[simp] theorem Value.needsNoValidator_isBlank (v : Value) : NeedsNoValidator v.isBlank := by
  unfold isBlank
  split
  · exact needsNoValidator_ok _
  · exact needsNoValidator_map_iff.mpr v.needsNoValidator_plain

theorem needsNoValidator_compact : ∀ vs : List Value, NeedsNoValidator (compact vs)
  | [] => needsNoValidator_ok _
  | v :: vs => v.needsNoValidator_isBlank.bind fun _ =>
      (needsNoValidator_compact vs).bind fun _ => needsNoValidator_ok _

theorem LeadingInteger.needsNoValidator_ofValue (v : Value) : NeedsNoValidator (ofValue v) := by
  have hread : ∀ s : List Char, NeedsNoValidator (read s) := by
    intro s
    simp only [read]
    split <;> simp [Failure.kind]
  cases v with
  | bool | int | none => exact needsNoValidator_ok _
  | _ => exact (Value.needsNoValidator_plain _).bind fun s => hread s.toList

theorem Amount.needsNoValidator_ofValue (v : Value) : NeedsNoValidator (ofValue v) := by
  have hread : ∀ s : String, NeedsNoValidator (read s) := by
    intro s
    rw [read]
    split <;> simp [Failure.kind]
  cases v with
  | bool | int | decimal => exact needsNoValidator_ok _
  | none => exact hread ""
  | float x =>
    rw [ofValue]
    split <;> simp [Failure.kind]
  | _ => exact (Value.needsNoValidator_plain _).bind hread

/-! ### Days -/

theorem Moment.needsNoValidator_addDays (m : Moment) (n : Int) :
    NeedsNoValidator (m.addDays n) := by
  cases m with
  | date d => rw [addDays]; split <;> simp [Failure.kind]
  | timestamp t => rw [addDays]; split <;> simp [Failure.kind]

theorem Moment.needsNoValidator_plus (m : Moment) (s : TimeSpan) : NeedsNoValidator (m.plus s) := by
  cases m with
  | date d => exact needsNoValidator_addDays (.date d) s.days
  | timestamp t => rw [plus]; split <;> simp [Failure.kind]

theorem Moment.needsNoValidator_minus (m : Moment) (s : TimeSpan) :
    NeedsNoValidator (m.minus s) := by
  cases m with
  | date d => exact needsNoValidator_addDays (.date d) (-s.days)
  | timestamp t => exact needsNoValidator_plus (.timestamp t) s.neg

theorem Date.needsNoValidator_plusDays (d : Date) (n : Int) : NeedsNoValidator (d.plusDays n) := by
  rw [plusDays]
  split <;> simp [Failure.kind]

theorem DateInput.needsNoValidator_read (v : Value) : NeedsNoValidator (read v) := by
  rw [read]
  split
  · exact needsNoValidator_ok _
  · refine v.needsNoValidator_plain.bind fun s => ?_
    split <;> simp [Failure.kind]

/-! ### Fragments -/

namespace Fragment

theorem needsNoValidator_arrange (layout : Layout) (conversion : Char) (s : List Char) :
    NeedsNoValidator (layout.arrange conversion s) := by
  simp only [Layout.arrange]
  split <;> simp [Failure.kind]

theorem needsNoValidator_convert (conversion : Char) (argument : List Char) :
    NeedsNoValidator (convert conversion argument) := by
  unfold convert
  repeat' split
  all_goals simp [Failure.kind]

theorem needsNoValidator_fillPieces : ∀ (ps : List Piece) (arguments : List (List Char)),
    NeedsNoValidator (fillPieces ps arguments)
  | [], [] => needsNoValidator_ok _
  | [], _ :: _ | .slot _ _ :: _, [] | .malformed :: _, _ | .unsuited :: _, _
  | .measured _ :: _, _ => by simp [fillPieces, Failure.kind]
  | .text c :: ps, arguments =>
    (needsNoValidator_fillPieces ps arguments).bind fun _ => needsNoValidator_ok _
  | .slot layout conversion :: ps, a :: arguments =>
    (needsNoValidator_convert conversion a).bind fun s =>
      (needsNoValidator_arrange layout conversion s).bind fun _ =>
        (needsNoValidator_fillPieces ps arguments).bind fun _ => needsNoValidator_ok _

theorem needsNoValidator_fill (fragment : String) (arguments : List String) :
    NeedsNoValidator (fill fragment arguments) :=
  needsNoValidator_map_iff.mpr (needsNoValidator_fillPieces _ _)

theorem needsNoValidator_convertNumber (layout : Layout) (conversion : Char) (n : Fin 8) :
    NeedsNoValidator (convertNumber layout conversion n) := by
  unfold convertNumber
  refine .ite (needsNoValidator_arrange layout conversion _) ?_
  refine .ite (needsNoValidator_arrange layout conversion _) ?_
  refine .ite ?_ (.ite ?_ (needsNoValidator_ok _))
  · simp [Failure.kind]
  · simp [Failure.kind]

theorem needsNoValidator_fillNumber (fragment : String) (n : Fin 8) :
    NeedsNoValidator (fillNumber fragment n) := by
  have hpieces : ∀ ps : List Piece, NeedsNoValidator (fillNumberPieces n ps) := by
    intro ps
    induction ps with
    | nil => simp [fillNumberPieces, Failure.kind]
    | cons p ps ih =>
      cases p with
      | text c => exact ih.bind fun _ => needsNoValidator_ok _
      | slot layout conversion =>
        exact (needsNoValidator_convertNumber layout conversion n).bind fun _ =>
          (needsNoValidator_fillPieces ps []).bind fun _ => needsNoValidator_ok _
      | malformed | unsuited => simp [fillNumberPieces, Failure.kind]
      | measured wellFormed => cases wellFormed <;> simp [fillNumberPieces, Failure.kind]
  exact needsNoValidator_map_iff.mpr (hpieces _)

end Fragment

/-! ### Weeks -/

theorem Value.needsNoValidator_bySeven (v : Value) : NeedsNoValidator v.bySeven := by
  cases v with
  | bool | int | float => exact needsNoValidator_ok _
  | decimal d =>
    rw [bySeven]
    split <;> simp [Failure.kind]
  | text s => exact needsNoValidator_map_iff.mpr (Fragment.needsNoValidator_fillNumber s 7)
  | none | date | timestamp => simp [bySeven, Failure.kind]

theorem Value.needsNoValidator_daySpan (v : Value) : NeedsNoValidator v.daySpan := by
  unfold daySpan
  repeat' split
  all_goals simp [Failure.kind]

theorem Date.needsNoValidator_weekBeginning (d : Date) (firstDay : Value) :
    NeedsNoValidator (d.weekBeginning firstDay) := by
  refine needsNoValidator_map_iff.mpr (firstDay.needsNoValidator_bySeven.bind fun v => ?_)
  split
  · exact Moment.needsNoValidator_addDays _ _
  · exact (Value.needsNoValidator_daySpan _).bind fun s => Moment.needsNoValidator_minus _ s
  · simp [Failure.kind]

/-! ### Templates -/

namespace Template

theorem needsNoValidator_select (p : Part) (s : Selector) : NeedsNoValidator (s.select p) := by
  have hitem : ∀ n, NeedsNoValidator (p.item n) := by
    intro n
    unfold Part.item
    repeat' split
    all_goals simp [Failure.kind]
  cases s with
  | part name =>
    rw [Selector.select]
    refine .ite ?_ ?_
    · simp [Failure.kind]
    · split <;> simp [Failure.kind]
  | item index =>
    rw [Selector.select]
    split
    · simp [Failure.kind]
    · simp [Failure.kind]
    · refine .ite ?_ (hitem _)
      simp [Failure.kind]
  | malformed => simp [Selector.select, Failure.kind]

theorem needsNoValidator_look (slots : List (String × List Char)) (name : List Char) :
    NeedsNoValidator (look slots name) := by
  unfold look
  simp only []
  split
  · simp [Failure.kind, bind, Except.bind]
  · split
    · simp [Failure.kind]
    · simp [Failure.kind]
    · split
      · simp [Failure.kind]
      · exact needsNoValidator_foldlM needsNoValidator_select _ _

theorem needsNoValidator_convert (p : Part) (conversion : Option Char) :
    NeedsNoValidator (convert p conversion) := by
  unfold convert
  split <;> simp [Failure.kind]

theorem needsNoValidator_arrange (spec s : List Char) : NeedsNoValidator (arrange spec s) := by
  have hprecision : ∀ s : List Char, NeedsNoValidator (takePrecision s) := by
    intro s
    unfold takePrecision
    repeat' split
    all_goals simp [Failure.kind]
  -- whatever fill and width the layout has read before its precision
  unfold arrange
  simp only []
  refine NeedsNoValidator.ite ?_ ((hprecision _).bind fun x => ?_)
  · have htemplate : Failure.template.kind ≠ .unknownValidator := by decide
    exact needsNoValidator_error_iff.mpr htemplate
  · refine NeedsNoValidator.ite (NeedsNoValidator.ite ?_ (needsNoValidator_ok _)) ?_
    · simp [Failure.kind]
    · simp [Failure.kind]

theorem needsNoValidator_arrangePart (layout : List Char) (p : Part) :
    NeedsNoValidator (arrangePart layout p) := by
  unfold arrangePart
  refine .ite (needsNoValidator_ok _) ?_
  split
  · exact needsNoValidator_arrange layout _
  · simp [Failure.kind]

theorem needsNoValidator_item (slots : List (String × List Char))
    {nest : List Char → Except Failure (List Char)} (hnest : ∀ s, NeedsNoValidator (nest s))
    (i : Item) : NeedsNoValidator (i.render slots nest) := by
  cases i with
  | text c => exact needsNoValidator_ok _
  | malformed => simp [Item.render, Failure.kind]
  | slot name conversion layout nested =>
    refine (needsNoValidator_look slots name).bind fun p => ?_
    refine (needsNoValidator_convert p conversion).bind fun p => ?_
    cases nested with
    | false => exact needsNoValidator_arrangePart layout p
    | true => exact (hnest layout).bind fun layout => needsNoValidator_arrangePart layout p

theorem needsNoValidator_render (template : String) (slots : List (String × String)) :
    NeedsNoValidator (render template slots) := by
  have hnested : ∀ (depth : Nat) (slots : List (String × List Char)) (s : List Char),
      NeedsNoValidator (renderNested slots depth s) := by
    intro depth slots
    induction depth with
    | zero => intro s; simp [renderNested, Failure.kind]
    | succ depth ih =>
      intro s
      exact (needsNoValidator_mapM fun i _ => needsNoValidator_item slots ih i).bind
        fun _ => needsNoValidator_ok _
  exact needsNoValidator_map_iff.mpr (hnested 2 _ _)

end Template

/-! ### Decisions -/

/-- The decision does not end in a failure for a missing validator. -/
def Decision.NeedsNoValidator (d : Decision) : Prop :=
  ∀ e, d.ending = .fail e → e.kind ≠ .unknownValidator

namespace Decision

theorem needsNoValidator_skip : skip.NeedsNoValidator := fun e h => by cases h

theorem needsNoValidator_append (c : Condition) : (append c).NeedsNoValidator :=
  fun e h => by cases h

theorem needsNoValidator_handOver (validated : Bool) (values : List Value) :
    (handOver validated values).NeedsNoValidator := fun e h => by cases h

section

variable {α : Type} {x : Except Failure α}

theorem needsNoValidator_bind {f : α → Except Failure Decision}
    (hx : ReportFilter.NeedsNoValidator x) (hf : ∀ a, (ofExcept (f a)).NeedsNoValidator) :
    (ofExcept (x >>= f)).NeedsNoValidator := by
  cases x with
  | error e =>
    intro f hf
    cases hf
    exact hx e rfl
  | ok a => exact hf a

theorem needsNoValidator_map {f : α → Decision} (hx : ReportFilter.NeedsNoValidator x)
    (hf : ∀ a, (f a).NeedsNoValidator) : (ofExcept (x.map f)).NeedsNoValidator :=
  needsNoValidator_bind (f := fun a => .ok (f a)) hx hf

theorem needsNoValidator_ite {p : Prop} [Decidable p] {y z : Except Failure Decision}
    (hy : (ofExcept y).NeedsNoValidator) (hz : (ofExcept z).NeedsNoValidator) :
    (ofExcept (if p then y else z)).NeedsNoValidator := by
  split
  · exact hy
  · exact hz

end

theorem NeedsNoValidator.andThen {a b : Decision} (ha : a.NeedsNoValidator)
    (hb : b.NeedsNoValidator) : (a.andThen b).NeedsNoValidator := by
  obtain ⟨conditions, ending⟩ := a
  cases ending with
  | done => exact hb
  | fail e => exact ha
  | handOver validated values => exact ha

end Decision

theorem DateRange.needsNoValidator_decide (today : Date) (first last : Option Int) :
    (decide today first last).NeedsNoValidator := by
  have hlower : ∀ n, NeedsNoValidator (lower today n) := fun n =>
    (today.needsNoValidator_plusDays (-1)).bind fun d =>
      (d.needsNoValidator_plusDays n).bind fun _ => needsNoValidator_ok _
  have hupper : ∀ n, NeedsNoValidator (upper today n) := fun n =>
    (today.needsNoValidator_plusDays n).bind fun _ => needsNoValidator_ok _
  have hbound : ∀ {condition : Int → Except Failure Condition},
      (∀ n, NeedsNoValidator (condition n)) → ∀ days, (bound condition days).NeedsNoValidator := by
    intro condition h days
    cases days with
    | none => exact fun e h => by cases h
    | some n => exact Decision.needsNoValidator_map (h n) Decision.needsNoValidator_append
  exact (hbound hlower first).andThen (hbound hupper last)

theorem Operator.needsNoValidator_linked (op : Operator) : NeedsNoValidator op.linked := by
  unfold linked
  split <;> simp [Failure.kind]

namespace Situation

open Decision

variable (s : Situation) (values : List Value)

theorem needsNoValidator_decideTemplate (field : String) :
    (ofExcept (s.decideTemplate field values)).NeedsNoValidator := by
  unfold decideTemplate
  split
  · intro e he
    cases he
    decide
  · exact needsNoValidator_ite
      (needsNoValidator_bind (Template.needsNoValidator_render _ _) fun _ =>
        needsNoValidator_append _)
      (needsNoValidator_bind (Template.needsNoValidator_render _ _) fun _ =>
        needsNoValidator_append _)

theorem needsNoValidator_decideThisWeek (hweek : ReportFilter.NeedsNoValidator s.weekStart) :
    (ofExcept (s.decideThisWeek values)).NeedsNoValidator :=
  needsNoValidator_bind hweek fun first =>
    needsNoValidator_bind (s.today.needsNoValidator_weekBeginning first) fun _ =>
      needsNoValidator_bind (LeadingInteger.needsNoValidator_ofValue _) fun _ =>
        needsNoValidator_bind (Date.needsNoValidator_plusDays _ _) fun _ =>
          needsNoValidator_bind s.operator.needsNoValidator_linked fun _ =>
            needsNoValidator_bind (Date.needsNoValidator_plusDays _ _) fun _ =>
              needsNoValidator_handOver _ _

theorem needsNoValidator_decideOnDate (value : Value) :
    (ofExcept (s.decideOnDate value)).NeedsNoValidator :=
  needsNoValidator_bind value.needsNoValidator_isBlank fun _ =>
    needsNoValidator_ite needsNoValidator_skip
      (needsNoValidator_bind s.operator.needsNoValidator_linked fun _ =>
        needsNoValidator_bind (DateInput.needsNoValidator_read value) fun _ =>
          needsNoValidator_handOver _ _)

theorem needsNoValidator_decideBetween (first last : Value) :
    (ofExcept (decideBetween first last)).NeedsNoValidator :=
  needsNoValidator_bind first.needsNoValidator_isBlank fun _ =>
    needsNoValidator_ite needsNoValidator_skip
      (needsNoValidator_bind last.needsNoValidator_isBlank fun _ =>
        needsNoValidator_ite needsNoValidator_skip
          (needsNoValidator_bind (DateInput.needsNoValidator_read first) fun _ =>
            needsNoValidator_bind (DateInput.needsNoValidator_read last) fun _ =>
              needsNoValidator_append _))

theorem needsNoValidator_decideNotEquals :
    (ofExcept (decideNotEquals values)).NeedsNoValidator :=
  needsNoValidator_bind (needsNoValidator_compact values) fun _ => needsNoValidator_append _

theorem needsNoValidator_searchText : ReportFilter.NeedsNoValidator (searchText values) := by
  unfold searchText
  split
  · exact needsNoValidator_ok _
  · exact (Value.needsNoValidator_plain _).bind fun _ => needsNoValidator_ok _

theorem needsNoValidator_decideForward (validated : Bool) :
    (ofExcept (s.decideForward validated values)).NeedsNoValidator :=
  needsNoValidator_bind s.operator.needsNoValidator_linked fun _ => needsNoValidator_handOver _ _

end Situation

/-- **No behavior decides to fail for a missing validator.** -/
theorem Behavior.needsNoValidator_decide (b : Behavior) {s : Situation}
    (hweek : NeedsNoValidator s.weekStart) (field : String) (values : List Value) :
    (b.decide s field values).NeedsNoValidator := by
  have hdays : ∀ (v : Value) (range : Int → Option Int × Option Int),
      (Decision.ofExcept ((LeadingInteger.ofValue v).map fun n =>
        DateRange.decide s.today (range n).1 (range n).2)).NeedsNoValidator := fun v range =>
    Decision.needsNoValidator_map (LeadingInteger.needsNoValidator_ofValue v) fun _ =>
      DateRange.needsNoValidator_decide _ _ _
  unfold Behavior.decide
  split
  · intro e he
    cases he
    decide
  · cases b with
    | template => exact s.needsNoValidator_decideTemplate values field
    | today => exact DateRange.needsNoValidator_decide _ _ _
    | ago | inDays | moreThanAgo | lessThanAgo | inLessThan | inMoreThan => exact hdays _ _
    | thisWeek => exact s.needsNoValidator_decideThisWeek values hweek
    | onDate => exact s.needsNoValidator_decideOnDate _
    | between => exact Situation.needsNoValidator_decideBetween _ _
    | equals => exact Decision.needsNoValidator_append _
    | notEquals => exact Situation.needsNoValidator_decideNotEquals values
    | numericEquals =>
      exact Decision.needsNoValidator_map (Amount.needsNoValidator_ofValue _) fun _ =>
        Decision.needsNoValidator_append _
    | contains | notContains =>
      exact Decision.needsNoValidator_map (Situation.needsNoValidator_searchText values) fun _ =>
        Decision.needsNoValidator_append _
    | alwaysTrue => exact Decision.needsNoValidator_append _
    | forward => exact s.needsNoValidator_decideForward values false
    | forwardAll => exact s.needsNoValidator_decideForward values true

/-! ### Clauses -/

namespace Query

/-- The operation does not fail for a missing validator. -/
theorem needsNoValidator_append (q : Query) (c : Clause) :
    NeedsNoValidator (q.append c).outcome := by
  have hpush : ∀ (q : Query) (arguments : List String),
      NeedsNoValidator (q.pushFilled c.fragment arguments).outcome := by
    intro q arguments
    have hfill := Fragment.needsNoValidator_fill c.fragment arguments
    unfold pushFilled
    split
    · exact needsNoValidator_ok _
    · rename_i e he
      exact needsNoValidator_error_iff.mpr (hfill e he)
  have hliteral : ∀ v : Value, NeedsNoValidator (q.dialect.literal v) := by
    intro v
    cases v with
    | none | bool | date | timestamp | text => exact needsNoValidator_ok _
    | int n => exact (Value.int n).needsNoValidator_plain
    | float x => exact (Value.float x).needsNoValidator_plain
    | decimal d => exact (Value.decimal d).needsNoValidator_plain
  unfold append
  split
  · exact needsNoValidator_ok _
  · split
    · exact hpush _ _
    · split
      · exact hpush q _
      · rename_i e he
        exact needsNoValidator_error_iff.mpr
          (needsNoValidator_mapM (fun v _ => hliteral v) e he)

theorem needsNoValidator_appendAll : ∀ (cs : List Clause) (q : Query),
    NeedsNoValidator (q.appendAll cs).outcome
  | [], q => needsNoValidator_ok _
  | c :: cs, q => by
    have hfirst := q.needsNoValidator_append c
    rw [appendAll, Attempt.andThen]
    split
    · exact needsNoValidator_appendAll cs _
    · exact hfirst

end Query
end ReportFilter
