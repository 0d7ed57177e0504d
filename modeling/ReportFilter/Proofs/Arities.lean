/-
# Arities and calls

A behavior is called with an operator, a query, a field and values, all by position. In a
signature that can be declared, parameters for single arguments come first, those with a
default behind those without (`Signature.IsValid`). So the numbers of arguments that a
call may have are an interval from the number of parameters that need one, with no end
when a parameter takes all further ones (`Signature.calls_iff`).

An arity is meant to tell the numbers of values: the only one, or minus one more than the
least (`Signature.TellsCounts`). It is counted from the parameters, with the first one left
out and two taken off for query and field, as if operator, query and field each had a
parameter of their own. It tells the numbers of values when each has one that needs it,
or when there are no values and only the field may be missing, and for no other
signature (`Signature.arity_tellsCounts_iff`).

Key definitions: `Signature.IsValid`, `Signature.Calls`, `Signature.TellsCounts`,
`Signature.MayVary`.
Key theorems: `Signature.calls_iff`, `Signature.accepts_iff`, `Signature.tellsCounts_iff`,
`Signature.arity_tellsCounts_iff`, `Behavior.arity_tellsCounts`.
-/
import ReportFilter.Operator
import ReportFilter.Proofs.Calls

namespace ReportFilter

/-! ### Signatures that can be declared -/

/-- The position of a kind among the others. -/
def ParameterKind.rank : ParameterKind → Nat
  | positionalOnly => 0
  | positional => 1
  | variadic => 2
  | keywordOnly => 3
  | keywords => 4

namespace Parameter

/-- Whether a parameter takes any number of arguments. -/
def isGathering (p : Parameter) : Bool := p.kind = .variadic || p.kind = .keywords

/-- A parameter may come before another: kinds are in order, there is one parameter at most
that takes all further arguments of a kind, and behind a default for a single argument by
position there are only such defaults. -/
def MayPrecede (p q : Parameter) : Prop :=
  p.kind.rank ≤ q.kind.rank ∧ (p.kind = q.kind → p.isGathering = false) ∧
    (p.isPlace = true → q.isPlace = true → p.hasDefault = true → q.hasDefault = true)

theorem isVariadic_eq_false {p : Parameter} (hp : p.isPlace = true) : p.isVariadic = false := by
  obtain ⟨kind, hasDefault⟩ := p
  cases kind <;> first | rfl | cases hp

instance : DecidableRel MayPrecede := fun _ _ => inferInstanceAs (Decidable (_ ∧ _ ∧ _))

end Parameter

namespace Signature

variable {p : Parameter} {ps : List Parameter} {n : Nat}

/-- The parameters of a signature that can be declared. -/
structure IsValid (ps : List Parameter) : Prop where
  ordered : ps.Pairwise Parameter.MayPrecede
  plain : ∀ p ∈ ps, p.isGathering = true → p.hasDefault = false

theorem IsValid.tail (h : IsValid (p :: ps)) : IsValid ps :=
  ⟨(List.pairwise_cons.mp h.ordered).2, fun q hq => h.plain q (List.mem_cons_of_mem p hq)⟩

theorem IsValid.mayPrecede (h : IsValid (p :: ps)) {q : Parameter} (hq : q ∈ ps) :
    p.MayPrecede q :=
  (List.pairwise_cons.mp h.ordered).1 q hq

/-! ### Calls by position -/

/-- A call with a number of arguments by position, and no others, goes through the
parameters in order. -/
inductive Calls : List Parameter → Nat → Prop
  | nil : Calls [] 0
  /-- A single argument is given. -/
  | given {p : Parameter} {ps : List Parameter} {n : Nat} (hp : p.isPlace = true)
    (h : Calls ps n) : Calls (p :: ps) (n + 1)
  /-- No argument is left, and a default stands in. -/
  | omitted {p : Parameter} {ps : List Parameter} (hp : p.hasDefault = true)
    (h : Calls ps 0) : Calls (p :: ps) 0
  /-- All arguments that are left are taken. -/
  | gathered {p : Parameter} {ps : List Parameter} (hp : p.isVariadic = true)
    (h : Calls ps 0) (n : Nat) : Calls (p :: ps) n
  /-- There are no arguments by keyword to take. -/
  | unused {p : Parameter} {ps : List Parameter} (hp : p.kind = .keywords)
    (h : Calls ps 0) : Calls (p :: ps) 0

/-- The number of parameters for single arguments by position. -/
def places (ps : List Parameter) : Nat := ps.countP Parameter.isPlace

/-- Whether a parameter takes all further arguments by position. -/
def isOpen (ps : List Parameter) : Bool := ps.any Parameter.isVariadic

/-- Every argument that is asked for by keyword has a default. -/
def NeedsNoKeyword (ps : List Parameter) : Prop :=
  ∀ p ∈ ps, p.kind = .keywordOnly → p.hasDefault = true

instance : Decidable (NeedsNoKeyword ps) := inferInstanceAs (Decidable (∀ p ∈ ps, _ → _))

theorem required_le_places (ps : List Parameter) : required ps ≤ places ps :=
  List.countP_mono_left fun p _ h => by
    rw [Bool.and_eq_true] at h
    exact h.1

/-- Behind a parameter that is not for a single argument by position there is none that
takes arguments by position. -/
theorem IsValid.no_places (h : IsValid (p :: ps)) (hp : p.isPlace = false) :
    places ps = 0 ∧ required ps = 0 ∧ isOpen ps = false := by
  have hplaces : places ps = 0 := by
    rw [places, List.countP_eq_zero]
    intro q hq hplace
    have hrank := (h.mayPrecede hq).1
    obtain ⟨kp, dp⟩ := p
    obtain ⟨kq, dq⟩ := q
    cases kp <;> cases kq <;> simp_all [Parameter.isPlace, ParameterKind.rank]
  have hopen : isOpen ps = false := by
    rw [isOpen, List.any_eq_false]
    intro q hq hvariadic
    obtain ⟨hrank, hsame, -⟩ := h.mayPrecede hq
    obtain ⟨kp, dp⟩ := p
    obtain ⟨kq, dq⟩ := q
    cases kp <;> cases kq <;>
      simp_all [Parameter.isPlace, Parameter.isVariadic, Parameter.isGathering,
        ParameterKind.rank]
  have := required_le_places ps
  exact ⟨hplaces, by omega, hopen⟩

/-- Behind a default there is no parameter that needs an argument. -/
theorem IsValid.required_eq_zero (h : IsValid (p :: ps)) (hp : p.isPlace = true)
    (hd : p.hasDefault = true) : required ps = 0 := by
  rw [required, List.countP_eq_zero]
  intro q hq hneeds
  rw [Bool.and_eq_true, Bool.not_eq_true'] at hneeds
  rw [(h.mayPrecede hq).2.2 hp hneeds.1 hd] at hneeds
  cases hneeds.2

theorem required_cons (p : Parameter) (ps : List Parameter) :
    required (p :: ps) = required ps + if p.isPlace && !p.hasDefault then 1 else 0 :=
  List.countP_cons

theorem places_cons (p : Parameter) (ps : List Parameter) :
    places (p :: ps) = places ps + if p.isPlace then 1 else 0 :=
  List.countP_cons

theorem isOpen_cons (p : Parameter) (ps : List Parameter) :
    isOpen (p :: ps) = (p.isVariadic || isOpen ps) :=
  List.any_cons

theorem needsNoKeyword_cons :
    NeedsNoKeyword (p :: ps) ↔
      (p.kind = .keywordOnly → p.hasDefault = true) ∧ NeedsNoKeyword ps :=
  List.forall_mem_cons

theorem calls_zero_of_place (hp : p.isPlace = true) :
    Calls (p :: ps) 0 ↔ p.hasDefault = true ∧ Calls ps 0 := by
  constructor
  · intro h
    cases h with
    | omitted hd h => exact ⟨hd, h⟩
    | gathered hv h => simp [Parameter.isVariadic_eq_false hp] at hv
    | unused hk h => simp_all [Parameter.isPlace]
  · rintro ⟨hd, h⟩
    exact .omitted hd h

theorem calls_succ_of_place (hp : p.isPlace = true) : Calls (p :: ps) (n + 1) ↔ Calls ps n := by
  constructor
  · intro h
    cases h with
    | given _ h => exact h
    | gathered hv h => simp [Parameter.isVariadic_eq_false hp] at hv
  · exact .given hp

theorem calls_of_not_place (hp : p.isPlace = false) :
    Calls (p :: ps) n ↔ (p.isVariadic = true ∨ n = 0) ∧
      (p.kind = .keywordOnly → p.hasDefault = true) ∧ Calls ps 0 := by
  constructor
  · intro h
    cases h with
    | given hp' h =>
      rw [hp] at hp'
      cases hp'
    | omitted hd h => exact ⟨.inr rfl, fun _ => hd, h⟩
    | gathered hv h =>
      refine ⟨.inl hv, fun hk => ?_, h⟩
      simp_all [Parameter.isVariadic]
    | unused hk h =>
      refine ⟨.inr rfl, fun hk' => ?_, h⟩
      rw [hk] at hk'
      cases hk'
  · rintro ⟨hn, hd, h⟩
    by_cases hv : p.isVariadic = true
    · exact .gathered hv h n
    · obtain rfl : n = 0 := hn.resolve_left hv
      obtain ⟨kind, hasDefault⟩ := p
      cases kind with
      | positionalOnly | positional => cases hp
      | variadic => exact absurd rfl hv
      | keywordOnly => exact .omitted (hd rfl) h
      | keywords => exact .unused rfl h

/-- **The numbers of arguments of a call** are those from what is needed up to the number
of places, or without end. -/
theorem calls_iff : ∀ {ps : List Parameter} {n : Nat}, IsValid ps →
    (Calls ps n ↔ required ps ≤ n ∧ (n ≤ places ps ∨ isOpen ps = true) ∧ NeedsNoKeyword ps)
  | [], n, _ => by
    constructor
    · intro h
      cases h
      exact ⟨Nat.le_refl _, .inl (Nat.le_refl _), fun _ hp => by cases hp⟩
    · rintro ⟨-, hn | hn, -⟩
      · obtain rfl : n = 0 := Nat.le_zero.mp hn
        exact .nil
      · cases hn
  | p :: ps, n, h => by
    have ih := fun n => calls_iff (n := n) h.tail
    rw [required_cons, places_cons, isOpen_cons, needsNoKeyword_cons]
    by_cases hp : p.isPlace = true
    · have hv := Parameter.isVariadic_eq_false hp
      have hk : p.kind ≠ .keywordOnly := by
        intro hk
        simp_all [Parameter.isPlace]
      by_cases hd : p.hasDefault = true
      · have hneeds := h.required_eq_zero hp hd
        cases n with
        | zero =>
          rw [calls_zero_of_place hp, ih]
          simp [hp, hd, hv, hneeds]
        | succ n =>
          rw [calls_succ_of_place hp, ih]
          simp [hp, hd, hv, hneeds, hk]
      · cases n with
        | zero =>
          rw [calls_zero_of_place hp]
          simp [hp, hd]
        | succ n =>
          rw [calls_succ_of_place hp, ih]
          simp [hp, hd, hv, hk]
    · have hp : p.isPlace = false := Bool.eq_false_iff.mpr hp
      obtain ⟨hplaces, hneeds, hopen⟩ := h.no_places hp
      rw [calls_of_not_place hp, ih]
      simp [hp, hplaces, hneeds, hopen, or_comm]

/-! ### Calls as they are checked -/

/-- Where defaults come last, those that a call leaves are all defaults when it reaches
the last of the others. -/
theorem all_drop_iff : ∀ {l : List Parameter} {n : Nat},
    (l.Pairwise fun p q => p.hasDefault = true → q.hasDefault = true) →
      ((l.drop n).all Parameter.hasDefault = true ↔ l.countP (fun p => !p.hasDefault) ≤ n)
  | [], _, _ => by simp
  | p :: l, 0, _ => by simp [List.countP_eq_zero]
  | p :: l, n + 1, h => by
    obtain ⟨hp, hl⟩ := List.pairwise_cons.mp h
    rw [List.drop_succ_cons, all_drop_iff hl, List.countP_cons]
    by_cases hd : p.hasDefault = true
    · have hzero : l.countP (fun q => !q.hasDefault) = 0 := by
        rw [List.countP_eq_zero]
        intro q hq
        simp [hp q hq hd]
      simp [hd, hzero]
    · simp [hd]

/-- **The check of a call decides whether its arguments go through the parameters.** -/
theorem binds_iff_calls (h : IsValid ps) : binds ps n = true ↔ Calls ps n := by
  have hsorted : (ps.filter Parameter.isPlace).Pairwise
      fun p q => p.hasDefault = true → q.hasDefault = true :=
    (h.ordered.filter Parameter.isPlace).imp_of_mem fun hp hq hpq =>
      hpq.2.2 (List.mem_filter.mp hp).2 (List.mem_filter.mp hq).2
  have hrequired : (ps.filter Parameter.isPlace).countP (fun p => !p.hasDefault) = required ps := by
    rw [List.countP_filter, required]
    exact List.countP_congr fun p _ => by rw [Bool.and_comm]
  have hkeys : (ps.filter fun p => decide (p.kind = .keywordOnly)).all Parameter.hasDefault = true ↔
      NeedsNoKeyword ps := by
    simp only [List.all_filter, List.all_eq_true, NeedsNoKeyword, Bool.or_eq_true,
      Bool.not_eq_true', decide_eq_false_iff_not, Decidable.imp_iff_not_or]
  rw [calls_iff h, binds]
  simp only [Bool.and_eq_true, Bool.or_eq_true, decide_eq_true_eq, all_drop_iff hsorted, hrequired,
    hkeys, ← List.countP_eq_length_filter]
  exact and_assoc.trans and_left_comm

/-- **The numbers of values** that come with operator, query and field. -/
theorem accepts_iff (h : IsValid ps) {k : Nat} : accepts ps k = true ↔
    required ps ≤ 3 + k ∧ (3 + k ≤ places ps ∨ isOpen ps = true) ∧ NeedsNoKeyword ps := by
  rw [accepts, binds_iff_calls h, calls_iff h]

/-! ### Numbers of values -/

/-- The number of values may vary. -/
def MayVary (ps : List Parameter) : Prop :=
  ∃ j k, accepts ps j = true ∧ accepts ps k = true ∧ j ≠ k

/-- An arity tells the numbers of values: it is the only one, or minus one more than
the least of several. -/
structure TellsCounts (ps : List Parameter) (a : Int) : Prop where
  only : ∀ n : Nat, (∀ k, accepts ps k = true ↔ k = n) → a = n
  least : ∀ m : Nat, accepts ps m = true → (∀ k, accepts ps k = true → m ≤ k) →
    MayVary ps → a = -(m + 1)

/-- The least number of values: what is needed beyond operator, query and field. -/
def leastCount (ps : List Parameter) : Nat := required ps - 3

/-- The arity that tells the numbers of values. -/
def countsArity (ps : List Parameter) : Int :=
  if isOpen ps = true ∨ max 3 (required ps) < places ps then -(leastCount ps + 1)
  else leastCount ps

/-- A call gives three arguments at least. -/
theorem three_le_places_or_isOpen (h : IsValid ps) (hcall : ∃ k, accepts ps k = true) :
    3 ≤ places ps ∨ isOpen ps = true := by
  obtain ⟨k, hk⟩ := hcall
  exact ((accepts_iff h).mp hk).2.1.imp_left (Nat.le_trans (Nat.le_add_right 3 k))

theorem accepts_leastCount (h : IsValid ps) (hcall : ∃ k, accepts ps k = true) :
    accepts ps (leastCount ps) = true := by
  obtain ⟨k, hk⟩ := hcall
  rw [accepts_iff h] at hk ⊢
  obtain ⟨hneeds, hroom, hkeys⟩ := hk
  refine ⟨?_, hroom.imp_left fun hk => ?_, hkeys⟩ <;> rw [leastCount] <;> omega

theorem leastCount_le (h : IsValid ps) {k : Nat} (hk : accepts ps k = true) :
    leastCount ps ≤ k := by
  have := ((accepts_iff h).mp hk).1
  rw [leastCount]
  omega

theorem mayVary_iff (h : IsValid ps) (hcall : ∃ k, accepts ps k = true) :
    MayVary ps ↔ isOpen ps = true ∨ max 3 (required ps) < places ps := by
  constructor
  · rintro ⟨j, k, hj, hk, hne⟩
    rw [accepts_iff h] at hj hk
    by_cases hopen : isOpen ps = true
    · exact .inl hopen
    · have := hj.2.1.resolve_right hopen
      have := hk.2.1.resolve_right hopen
      exact .inr (by omega)
  · intro hroom
    have hleast := accepts_leastCount h hcall
    obtain ⟨hneeds, -, hkeys⟩ := (accepts_iff h).mp hleast
    refine ⟨leastCount ps, leastCount ps + 1, hleast, ?_, by omega⟩
    rw [accepts_iff h]
    refine ⟨by omega, hroom.symm.imp_left fun hlt => ?_, hkeys⟩
    rw [leastCount]
    omega

/-- Where a call is possible at all, one arity tells the numbers of values. -/
theorem tellsCounts_iff (h : IsValid ps) (hcall : ∃ k, accepts ps k = true) {a : Int} :
    TellsCounts ps a ↔ a = countsArity ps := by
  have hleast := accepts_leastCount h hcall
  rw [countsArity]
  split
  next hroom =>
    have hvary := (mayVary_iff h hcall).mpr hroom
    constructor
    · intro ha
      exact ha.least _ hleast (fun k hk => leastCount_le h hk) hvary
    · rintro rfl
      constructor
      · intro n hn
        obtain ⟨j, k, hj, hk, hne⟩ := hvary
        exact absurd (((hn j).mp hj).trans ((hn k).mp hk).symm) hne
      · intro m hm hmin _
        rw [Nat.le_antisymm (leastCount_le h hm) (hmin _ hleast)]
  next hroom =>
    have hfixed : ¬ MayVary ps := fun hvary => hroom ((mayVary_iff h hcall).mp hvary)
    have honly : ∀ k, accepts ps k = true ↔ k = leastCount ps := by
      intro k
      constructor
      · intro hk
        exact Classical.byContradiction fun hne => hfixed ⟨k, _, hk, hleast, hne⟩
      · rintro rfl
        exact hleast
    constructor
    · intro ha
      exact ha.only _ honly
    · rintro rfl
      constructor
      · intro n hn
        rw [(hn _).mp hleast]
      · intro m _ _ hvary
        exact absurd hvary hfixed

/-! ### Arities as they are counted -/

theorem varies_iff : varies ps = true ↔ isOpen ps = true ∨ required ps < places ps := by
  induction ps with
  | nil => simp [varies, isOpen, required, places]
  | cons p ps ih =>
    have hle := required_le_places ps
    rw [varies, List.any_cons, ← varies, required_cons, places_cons, isOpen_cons]
    simp only [Bool.or_eq_true, Bool.and_eq_true, ih]
    by_cases hp : p.isPlace = true
    · by_cases hd : p.hasDefault = true
      · refine iff_of_true (.inl (.inr ⟨hp, hd⟩)) (.inr ?_)
        simp only [hp, hd, Bool.not_true, Bool.false_eq_true, and_false, if_true, if_false]
        omega
      · simp [hp, hd, or_assoc]
    · simp [hp, or_assoc]

/-- The first parameter is left out. -/
theorem arity_cons (p : Parameter) (ps : List Parameter) : arity (p :: ps) =
    if isOpen ps = true ∨ required ps < places ps then 1 - (required ps : Int)
    else (required ps : Int) - 2 := by
  simp only [arity, List.drop_one, List.tail_cons, varies_iff]
  split <;> split <;> omega

/-- **An arity of three needed parameters or more** leaves out operator, query and field. -/
theorem arity_of_three_le (h : IsValid ps) (hr : 3 ≤ required ps) :
    arity ps = countsArity ps := by
  cases ps with
  | nil => simp [required] at hr
  | cons p ps =>
    have hp : p.isPlace = true := by
      by_cases hp : p.isPlace = true
      · exact hp
      · have := (h.no_places (Bool.eq_false_iff.mpr hp)).2.1
        simp [required_cons, hp, this] at hr
    have hd : p.hasDefault = false := by
      rw [Bool.eq_false_iff]
      intro hd
      simp [required_cons, hp, hd, h.required_eq_zero hp hd] at hr
    have hv := Parameter.isVariadic_eq_false hp
    simp only [required_cons, hp, hd, Bool.not_false, Bool.and_self, if_true] at hr
    have hroom : max 3 (required ps + 1) < places ps + 1 ↔ required ps < places ps := by omega
    rw [arity_cons, countsArity, leastCount, required_cons, places_cons, isOpen_cons]
    simp only [hp, hd, hv, Bool.not_false, Bool.and_self, if_true, Bool.false_or, hroom]
    split <;> omega

/-- **An arity of fewer needed parameters** leaves out query and field in full, and the
operator only if it has a parameter of its own. -/
theorem arity_of_lt_three (h : IsValid ps) (hcall : ∃ k, accepts ps k = true)
    (hr : required ps < 3) :
    arity ps = if places ps = 0 then -2 else 2 - max 1 (required ps : Int) := by
  have hroom := three_le_places_or_isOpen h hcall
  cases ps with
  | nil => simp [places, isOpen] at hroom
  | cons p ps =>
    rw [arity_cons]
    by_cases hp : p.isPlace = true
    · have hv := Parameter.isVariadic_eq_false hp
      have hplaces : places (p :: ps) = places ps + 1 := by simp [places_cons, hp]
      rw [hplaces, isOpen_cons, hv, Bool.false_or] at hroom
      rw [hplaces, if_neg (Nat.succ_ne_zero _)]
      by_cases hd : p.hasDefault = true
      · have hneeds := h.required_eq_zero hp hd
        have hvary : isOpen ps = true ∨ required ps < places ps :=
          hroom.symm.imp_right fun _ => by omega
        have hneeds' : required (p :: ps) = 0 := by simp [required_cons, hd, hneeds]
        rw [if_pos hvary, hneeds', hneeds]
        rfl
      · have hneeds : required (p :: ps) = required ps + 1 := by simp [required_cons, hp, hd]
        have hvary : isOpen ps = true ∨ required ps < places ps :=
          hroom.symm.imp_right fun _ => by omega
        rw [if_pos hvary, hneeds]
        omega
    · obtain ⟨hplaces, hneeds, hopen⟩ := h.no_places (Bool.eq_false_iff.mpr hp)
      simp [places_cons, hp, hplaces, hneeds, hopen]

/-- **Which arities tell the numbers of values.** The check of a call is whether its
arguments go through the parameters. The arity tells how many values a call may have exactly
if operator, query and field each have a parameter that needs it, or only the field may be
missing and there are no values. Its sign tells whether the number may vary in a few more
signatures. With fewer than three needed parameters, it is negative only where no parameter
is for a single argument. -/
theorem arity_tellsCounts_iff {ps : List Parameter} (h : IsValid ps)
    (hcall : ∃ k, accepts ps k = true) :
    (∀ k, accepts ps k = true ↔ Calls ps (3 + k)) ∧
    (TellsCounts ps (arity ps) ↔
      3 ≤ required ps ∨ required ps = 2 ∧ places ps = 3 ∧ isOpen ps = false) ∧
    (∀ op : Operator, op.arity = arity ps →
      ((op.isVariadic = true ↔ MayVary ps) ↔
        3 ≤ required ps ∨ places ps = 0 ∨ places ps = 3 ∧ isOpen ps = false)) ∧
    (required ps < 3 →
      arity ps = if places ps = 0 then -2 else 2 - max 1 (required ps : Int)) := by
  have hroom := three_le_places_or_isOpen h hcall
  refine ⟨fun k => binds_iff_calls h, ?_, ?_, arity_of_lt_three h hcall⟩
  · rw [tellsCounts_iff h hcall]
    by_cases hr : 3 ≤ required ps
    · simp [arity_of_three_le h hr, hr]
    · have hleast : leastCount ps = 0 := by rw [leastCount]; omega
      rw [arity_of_lt_three h hcall (by omega), countsArity, hleast]
      cases hopen : isOpen ps with
      | true =>
        simp only [true_or, if_true, Bool.true_eq_false, and_false, or_false]
        split <;> omega
      | false =>
        have hplaces := hroom.resolve_right (by simp [hopen])
        simp only [Bool.false_eq_true, false_or, and_true]
        split <;> split <;> omega
  · intro op hop
    rw [mayVary_iff h hcall, Operator.isVariadic, decide_eq_true_eq, hop]
    by_cases hr : 3 ≤ required ps
    · rw [arity_of_three_le h hr, countsArity]
      simp only [hr, true_or, iff_true]
      split
      next hvary => exact iff_of_true (by omega) hvary
      next hvary => exact iff_of_false (by omega) hvary
    · rw [arity_of_lt_three h hcall (by omega)]
      cases hopen : isOpen ps with
      | true =>
        simp only [true_or, iff_true, Bool.true_eq_false, and_false, or_false]
        split <;> omega
      | false =>
        have hplaces := hroom.resolve_right (by simp [hopen])
        simp only [Bool.false_eq_true, false_or, and_true]
        split <;> omega

/-- All kinds of parameters at once: three values are given here, the second by default. -/
theorem arity_tellsCounts_iff_allKinds :
    let ps : List Parameter := [⟨.positionalOnly, false⟩, .required, .required, .required,
      .optional, .rest, ⟨.keywordOnly, true⟩, ⟨.keywords, false⟩]
    IsValid ps ∧ accepts ps 3 = true ∧ Calls ps (3 + 3) ∧ arity ps = -2 ∧ TellsCounts ps (-2) ∧
      ∀ op : Operator, op.arity = arity ps → (op.isVariadic = true ↔ MayVary ps) := by
  intro ps
  have hvalid : IsValid ps := ⟨by decide, by decide⟩
  have haccepts : accepts ps 3 = true := by decide
  have harity : arity ps = -2 := by decide
  have hrequired : 3 ≤ required ps := by decide
  obtain ⟨hcalls, htells, hsign, -⟩ := arity_tellsCounts_iff hvalid ⟨3, haccepts⟩
  exact ⟨hvalid, haccepts, (hcalls 3).mp haccepts, harity, harity ▸ htells.mpr (.inl hrequired),
    fun op hop => (hsign op hop).mpr (.inl hrequired)⟩

/-- After an operator alone, a parameter for all further arguments takes query, field and
any number of values, but the arity is positive. -/
theorem not_tellsCounts_operator_rest :
    let ps : List Parameter := [.required, .rest]
    IsValid ps ∧ (∀ k, accepts ps k = true) ∧ arity ps = 1 ∧ ¬ TellsCounts ps (arity ps) ∧
      ∀ op : Operator, op.arity = arity ps → ¬ (op.isVariadic = true ↔ MayVary ps) := by
  intro ps
  have hvalid : IsValid ps := ⟨by decide, by decide⟩
  have hall : ∀ k, accepts ps k = true := by
    intro k
    rw [accepts_iff hvalid]
    exact ⟨Nat.le_trans (by decide) (Nat.le_add_right 3 k), .inr rfl, by decide⟩
  have hvary : MayVary ps := ⟨0, 1, hall 0, hall 1, by decide⟩
  refine ⟨hvalid, hall, rfl, ?_, ?_⟩
  · rw [tellsCounts_iff hvalid ⟨0, hall 0⟩]
    decide
  · intro op hop hiff
    have hneg := hiff.mpr hvary
    rw [Operator.isVariadic, hop] at hneg
    exact absurd hneg (by decide)

end Signature

/-- **The arity of every behavior tells its numbers of values.** -/
theorem Behavior.arity_tellsCounts (b : Behavior) : Signature.TellsCounts b.signature b.arity := by
  have hvalid : Signature.IsValid b.signature := by
    cases b <;> exact ⟨by decide, by decide⟩
  have hcall : ∃ k, Signature.accepts b.signature k = true := by
    refine ⟨b.counts.1, (b.accepts_iff _).mpr ⟨Nat.le_refl _, ?_⟩⟩
    cases b <;> decide
  have hneeds : 3 ≤ Signature.required b.signature := by
    cases b <;> decide
  exact (Signature.tellsCounts_iff hvalid hcall).mpr (Signature.arity_of_three_le hvalid hneeds)

end ReportFilter
