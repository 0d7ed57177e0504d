/-
# Rows of digits

A row of digits has a value, and with another row behind it the value moves up by as many
places. Rows of one width therefore compare as texts the way their values do, from the
first digit on. A shorter number with a hyphen behind it, as a year stands in a date, is
compared with as many leading digits of a longer one.

Key theorems: `Text.ofDigitChars_append_eq`, `Text.ofDigitChars_lt`,
`Text.digits_append_lt_iff`, `Text.padded_append_lt_iff`, `Text.hyphened_lt_iff`.
-/
import ReportFilter.Proofs.DateLiterals

namespace ReportFilter
namespace Text

theorem isDigit_of_mem_numeral {n : Nat} {c : Char} (h : c ∈ numeral n) : c.isDigit = true :=
  Nat.isDigit_of_mem_toDigits (by decide) (by decide) h

theorem toNat_of_isDigit {c : Char} (h : c.isDigit = true) : 48 ≤ c.toNat ∧ c.toNat ≤ 57 :=
  Char.isDigit_iff_toNat.mp h

/-! ### Values -/

/-- The value of a row of digits that another one follows. -/
theorem ofDigitChars_append_eq (ds es : List Char) :
    Nat.ofDigitChars 10 (ds ++ es) 0 =
      10 ^ es.length * Nat.ofDigitChars 10 ds 0 + Nat.ofDigitChars 10 es 0 := by
  rw [Nat.ofDigitChars_append, Nat.ofDigitChars_eq_ofDigitChars_zero]

theorem ofDigitChars_cons_eq (c : Char) (ds : List Char) :
    Nat.ofDigitChars 10 (c :: ds) 0 =
      10 ^ ds.length * (c.toNat - 48) + Nat.ofDigitChars 10 ds 0 := by
  rw [Nat.ofDigitChars_cons, Nat.ofDigitChars_eq_ofDigitChars_zero, Nat.mul_zero, Nat.zero_add]
  rfl

theorem ofDigitChars_lt : ∀ {ds : List Char}, (∀ c ∈ ds, c.isDigit = true) →
    Nat.ofDigitChars 10 ds 0 < 10 ^ ds.length
  | [], _ => Nat.one_pos
  | c :: ds, h => by
    have ih := ofDigitChars_lt fun x hx => h x (List.mem_cons_of_mem c hx)
    have hc := (toNat_of_isDigit (h c List.mem_cons_self)).2
    have hle : 10 ^ ds.length * (c.toNat - 48) ≤ 10 ^ ds.length * 9 :=
      Nat.mul_le_mul_left _ (by omega)
    rw [ofDigitChars_cons_eq, List.length_cons, Nat.pow_succ]
    omega

/-! ### Order -/

/-- **Digits of one width compare as the numbers they write**, and equal ones leave it to
what follows. -/
theorem digits_append_lt_iff (s t : List Char) : ∀ {ds es : List Char}, ds.length = es.length →
    (∀ c ∈ ds, c.isDigit = true) → (∀ c ∈ es, c.isDigit = true) →
      (ds ++ s < es ++ t ↔ Nat.ofDigitChars 10 ds 0 < Nat.ofDigitChars 10 es 0 ∨
        Nat.ofDigitChars 10 ds 0 = Nat.ofDigitChars 10 es 0 ∧ s < t)
  | [], [], _, _, _ => by simp
  | c :: ds, e :: es, hlen, hds, hes => by
    have hlen : ds.length = es.length := Nat.succ.inj hlen
    have hds' : ∀ x ∈ ds, x.isDigit = true := fun x hx => hds x (List.mem_cons_of_mem c hx)
    have hes' : ∀ x ∈ es, x.isDigit = true := fun x hx => hes x (List.mem_cons_of_mem e hx)
    have ih := digits_append_lt_iff s t hlen hds' hes'
    have hd := ofDigitChars_lt hds'
    have he := ofDigitChars_lt hes'
    have hc := (toNat_of_isDigit (hds c List.mem_cons_self)).1
    have hc' := (toNat_of_isDigit (hes e List.mem_cons_self)).1
    rw [List.cons_append, List.cons_append, List.cons_lt_cons_iff, ih, ofDigitChars_cons_eq,
      ofDigitChars_cons_eq, hlen]
    rw [hlen] at hd
    have hlt : c < e ↔ c.toNat < e.toNat := Iff.rfl
    have hstep : ∀ m n : Nat, m < n → 10 ^ es.length * m + 10 ^ es.length ≤ 10 ^ es.length * n :=
      fun m n h => (Nat.mul_succ _ m).symm ▸ Nat.mul_le_mul_left _ h
    rcases Nat.lt_trichotomy c.toNat e.toNat with h | h | h
    · have := hstep (c.toNat - 48) (e.toNat - 48) (by omega)
      have hne : c ≠ e := by
        rintro rfl
        omega
      simp only [hlt, h, hne, false_and, or_false, true_iff]
      omega
    · have hsame : c = e := Char.toNat_inj.mp h
      subst hsame
      simp
    · have := hstep (e.toNat - 48) (c.toNat - 48) (by omega)
      have hne : c ≠ e := by
        rintro rfl
        omega
      simp only [hlt, hne, false_and, or_false]
      omega

/-- **Numbers of one width are in order as texts.** -/
theorem padded_append_lt_iff (width : Nat) {m n : Nat} (hw : 0 < width) (hm : m < 10 ^ width)
    (hn : n < 10 ^ width) (s t : List Char) :
    padded width m ++ s < padded width n ++ t ↔ m < n ∨ m = n ∧ s < t := by
  have hlen : (padded width m).length = (padded width n).length := by
    rw [length_padded width hw hm, length_padded width hw hn]
  rw [digits_append_lt_iff s t hlen (fun _ hc => isDigit_of_mem_padded hc)
    (fun _ hc => isDigit_of_mem_padded hc), ofDigitChars_padded, ofDigitChars_padded]

/-- A shorter number with a hyphen behind it compares with as many leading digits of the
longer one, and comes before it where these are the same. -/
theorem hyphened_lt_iff (s t : List Char) {ds es : List Char} (hlen : ds.length < es.length)
    (hds : ∀ c ∈ ds, c.isDigit = true) (hes : ∀ c ∈ es, c.isDigit = true) :
    ds ++ '-' :: s < es ++ t ↔
      Nat.ofDigitChars 10 ds 0 ≤ Nat.ofDigitChars 10 es 0 / 10 ^ (es.length - ds.length) := by
  obtain ⟨front, c, back, rfl, hfront⟩ : ∃ front c back, es = front ++ c :: back ∧
      ds.length = front.length := by
    refine ⟨es.take ds.length, es[ds.length], es.drop (ds.length + 1), ?_, ?_⟩
    · rw [← List.drop_eq_getElem_cons hlen, List.take_append_drop]
    · rw [List.length_take, Nat.min_eq_left (Nat.le_of_lt hlen)]
  have hback : ∀ x ∈ c :: back, x.isDigit = true := fun x hx =>
    hes x (List.mem_append_right front hx)
  have hlt := ofDigitChars_lt hback
  have hhyphen : '-' < c := by
    have hc := (toNat_of_isDigit (hback c List.mem_cons_self)).1
    show '-'.toNat < c.toNat
    have : '-'.toNat = 45 := rfl
    omega
  have hrest : '-' :: s < c :: (back ++ t) := List.cons_lt_cons_iff.mpr (.inl hhyphen)
  have hdiv : Nat.ofDigitChars 10 (front ++ c :: back) 0 /
      10 ^ ((front ++ c :: back).length - ds.length) = Nat.ofDigitChars 10 front 0 := by
    rw [List.length_append, hfront, Nat.add_sub_cancel_left, ofDigitChars_append_eq,
      Nat.mul_add_div (Nat.pow_pos (by decide)), Nat.div_eq_of_lt hlt, Nat.add_zero]
  rw [hdiv, List.append_assoc, List.cons_append,
    digits_append_lt_iff _ _ hfront hds fun x hx => hes x (List.mem_append_left _ hx)]
  simp only [hrest, and_true]
  exact Nat.le_iff_lt_or_eq.symm

theorem length_numeral_mono {m n : Nat} (h : m ≤ n) :
    (numeral m).length ≤ (numeral n).length := by
  have hpos : 0 < (numeral n).length := Nat.length_toDigits_pos
  have hn : n < 10 ^ (numeral n).length :=
    (Nat.length_toDigits_le_iff (by decide) hpos).mp (Nat.le_refl _)
  exact (Nat.length_toDigits_le_iff (by decide) hpos).mpr (by omega)

end Text
end ReportFilter
