/-
# Printed numbers read as amounts

A number is printed as a plain figure, or as a figure with a power of ten behind it, as in
`1.5E+7`. The first form is an amount, and reads back as the number. In the second form
the letter and a plus sign are noise to the reader of amounts. Behind a plus sign the
digits of the power then join those of the figure (`Amount.Scaled.joined`), and the text
reads as another number; behind a minus sign nothing is left that reads as a number.

Key definitions: `Decimal.number?`, `Amount.Scaled`, `Amount.Scaled.joined`,
`Value.isFinite`.
Key theorems: `Amount.Scaled.read?_written`, `Amount.Scaled.number?_joined_ne`,
`Decimal.exists_figure_print`, `Decimal.exists_scaled_print`,
`Amount.exists_printed`, `Work.applyFilter_printed`.
-/
import Mathlib.Algebra.Order.Field.Rat
import Mathlib.Tactic.NormNum
import ReportFilter.Proofs.DigitRows
import ReportFilter.Proofs.GroupedAmounts

namespace ReportFilter

/-! ### The number of a decimal -/

namespace Decimal

/-- The number that a finite decimal is. -/
def number? : Decimal → Option ℚ
  | finite negative coefficient exponent =>
    some ((if negative then -1 else 1) * (coefficient * 10 ^ exponent))
  | infinity _ | nan .. => none

/-- Digits that join a coefficient do not move it to a higher power of ten: what they add
is no multiple of the power by which they move it. -/
theorem joined_ne {c k p m : Nat} (hp : 0 < p) (hk : p < 10 ^ k) :
    10 ^ k * c + p ≠ c * 10 ^ m := by
  intro h
  rcases Nat.le_total m k with hmk | hkm
  · have hle : c * 10 ^ m ≤ c * 10 ^ k :=
      Nat.mul_le_mul_left c (Nat.pow_le_pow_right (by decide) hmk)
    rw [Nat.mul_comm c (10 ^ k)] at hle
    omega
  · have hdvd : 10 ^ k ∣ c * 10 ^ m := Dvd.dvd.mul_left (Nat.pow_dvd_pow 10 hkm) c
    rw [← h, Nat.dvd_add_right (Nat.dvd_mul_right _ c)] at hdvd
    have := Nat.le_of_dvd hp hdvd
    omega

theorem number?_joined_ne {c k p m : Nat} (hp : 0 < p) (hk : p < 10 ^ k) (negative : Bool)
    (q : Int) :
    (finite negative (10 ^ k * c + p) q).number? ≠ (finite negative c (q + m)).number? := by
  intro h
  have hsign : (if negative then -1 else 1 : ℚ) ≠ 0 := by cases negative <;> norm_num
  have hpow : (10 : ℚ) ^ q ≠ 0 := zpow_ne_zero q (by norm_num)
  have hvalue : ((10 ^ k * c + p : ℕ) : ℚ) * 10 ^ q = c * 10 ^ (q + m) :=
    mul_left_cancel₀ hsign (Option.some.inj h)
  rw [zpow_add₀ (by norm_num), mul_comm ((10 : ℚ) ^ q), ← mul_assoc, zpow_natCast] at hvalue
  have hcoefficient := mul_right_cancel₀ hpow hvalue
  exact joined_ne hp hk (by exact_mod_cast hcoefficient)

end Decimal

/-! ### Figures with something behind them -/

namespace Text

theorem toLower_of_isDigit {c : Char} (h : c.isDigit = true) : c.toLower = c := by
  obtain ⟨h48, h57⟩ := toNat_of_isDigit h
  unfold Char.toLower
  rw [dif_neg]
  rintro ⟨hA, -⟩
  change 65 ≤ c.toNat at hA
  omega

end Text

namespace Amount

namespace Figure

variable (f : Figure)

theorem of_mem_plain {c : Char} (h : c ∈ f.plain) : c = '-' ∨ c = '.' ∨ c.isDigit = true := by
  rw [plain, List.mem_append, List.mem_append] at h
  rcases h with (h | h) | h
  · exact .inl (f.eq_of_mem_sign h)
  · exact .inr (.inr (f.isDigit_of_mem_whole c h))
  · rw [tail] at h
    split at h
    · cases h
    · rcases List.mem_cons.mp h with rfl | h
      · exact .inr (.inl rfl)
      · exact .inr (.inr (f.isDigit_of_mem_fraction c h))

theorem plus_not_mem_plain : '+' ∉ f.plain := by
  intro h
  rcases f.of_mem_plain h with h | h | h <;> exact absurd h (by decide)

theorem comma_not_mem_plain : ',' ∉ f.plain := by
  intro h
  rcases f.of_mem_plain h with h | h | h <;> exact absurd h (by decide)

theorem filter_plain : f.plain.filter isSignificant = f.plain := by
  refine List.filter_eq_self.mpr fun c hc => ?_
  rcases f.of_mem_plain hc with rfl | rfl | hdigit
  · rfl
  · rfl
  · exact isSignificant_of_isDigit hdigit

theorem readFinite?_append {rest : List Char}
    (hrest : ∀ c r, rest = c :: r → Text.digit? c = none ∧ c ≠ '.') :
    Decimal.readFinite? f.negative (f.whole ++ (f.tail '.' ++ rest)) =
      (Decimal.readPower? rest).map fun power =>
        .finite f.negative (Nat.ofDigitChars 10 (f.whole ++ f.fraction) 0)
          (power - f.fraction.length) := by
  have hdigit : ∀ c r, rest = c :: r → Text.digit? c = none := fun c r h => (hrest c r h).1
  have htail : ∀ c r, f.tail '.' ++ rest = c :: r → Text.digit? c = none := by
    intro c r h
    rw [tail] at h
    split at h
    · exact hdigit c r h
    · cases h
      decide
  have hwhole := Text.takeDigits_ascii f.isDigit_of_mem_whole htail
  have hfraction : Decimal.takeFraction (f.tail '.' ++ rest) =
      (f.fraction.map fun c => c.toNat - 48, rest) := by
    rw [tail]
    split
    · rename_i hnil
      rw [hnil, List.nil_append, Decimal.takeFraction.eq_def]
      split
      · exact absurd rfl (hrest _ _ rfl).2
      · rfl
    · exact Text.takeDigits_ascii f.isDigit_of_mem_fraction hdigit
  simp only [Decimal.readFinite?, hwhole, hfraction]
  rw [if_neg (by simp [f.whole_ne_nil]), ← List.map_append, Text.digitsValue_map_toNat,
    List.length_map]

theorem readWord?_whole (rest : List Char) (negative : Bool) :
    Decimal.readWord? negative (f.whole ++ rest) = none := by
  obtain ⟨c, s, hwhole⟩ := List.exists_cons_of_ne_nil f.whole_ne_nil
  have hdigit : c.isDigit = true := f.isDigit_of_mem_whole c (hwhole ▸ List.mem_cons_self)
  have hne : ∀ d : Char, d.isDigit = false → d ≠ c := by
    rintro d hd rfl
    rw [hdigit] at hd
    cases hd
  rw [hwhole]
  simp [Decimal.readWord?, Text.toLower_of_isDigit hdigit, hne 'n' (by decide), hne 's' (by decide),
    (hne 'i' (by decide)).symm]

theorem read?_append {rest : List Char}
    (hrest : ∀ c r, rest = c :: r → Text.digit? c = none ∧ c ≠ '.') :
    Decimal.read? (f.plain ++ rest) =
      (Decimal.readPower? rest).map fun power =>
        .finite f.negative (Nat.ofDigitChars 10 (f.whole ++ f.fraction) 0)
          (power - f.fraction.length) := by
  rw [plain, List.append_assoc, Decimal.read?, f.takeSign_sign]
  simp only [f.readFinite?_append hrest]
  cases Decimal.readPower? rest with
  | some power => rfl
  | none => exact f.readWord?_whole _ _

end Figure

theorem normalized_of_no_comma {s : List Char} (h : ',' ∉ s) : normalized s = s := by
  rw [normalized, if_neg (by simpa using h)]

/-- What is left of a text without noise is what is read, if it has no commas. -/
theorem ofValue_of_filter {s : String} {t : List Char}
    (h : s.toList.filter isSignificant = t) (hcomma : ',' ∉ t) :
    ofValue (.text s) =
      match Decimal.read? t with
      | some d => .ok d
      | none => .error (.invalidNumber s) := by
  show read s = _
  cases hread : Decimal.read? t with
  | some d => simp only [read, h, normalized_of_no_comma hcomma, hread]
  | none => simp only [read, h, normalized_of_no_comma hcomma, hread]

/-! ### Figures with a power of ten -/

/-- A figure with a power of ten, which is printed with a letter, a sign and digits. -/
structure Scaled where
  figure : Figure
  letter : Char
  power : Int
  places : List Char
  letter_eq : letter = 'e' ∨ letter = 'E'
  power_ne_zero : power ≠ 0
  isDigit_of_mem_places : ∀ c ∈ places, c.isDigit = true
  value_places : Nat.ofDigitChars 10 places 0 = power.natAbs

namespace Scaled

variable (x : Scaled)

/-- The sign of the power, which is always written. -/
def sign : Char := if x.power < 0 then '-' else '+'

/-- What is written behind the figure. -/
def tail : List Char := x.letter :: x.sign :: x.places

/-- The number in writing. -/
def written : List Char := x.figure.plain ++ x.tail

/-- The whole number that the digits of the figure write. -/
def coefficient : Nat := Nat.ofDigitChars 10 (x.figure.whole ++ x.figure.fraction) 0

/-- The decimal number. -/
def value : Decimal :=
  .finite x.figure.negative x.coefficient (x.power - x.figure.fraction.length)

/-- The figure whose last digits are those of the power. -/
def joined : Figure where
  negative := x.figure.negative
  whole := if x.figure.fraction = [] then x.figure.whole ++ x.places else x.figure.whole
  fraction := if x.figure.fraction = [] then [] else x.figure.fraction ++ x.places
  whole_ne_nil := by split <;> simp [x.figure.whole_ne_nil]
  isDigit_of_mem_whole c hc := by
    split at hc
    · exact (List.mem_append.mp hc).elim (x.figure.isDigit_of_mem_whole c)
        (x.isDigit_of_mem_places c)
    · exact x.figure.isDigit_of_mem_whole c hc
  isDigit_of_mem_fraction c hc := by
    split at hc
    · cases hc
    · exact (List.mem_append.mp hc).elim (x.figure.isDigit_of_mem_fraction c)
        (x.isDigit_of_mem_places c)

theorem natAbs_power_lt : x.power.natAbs < 10 ^ x.places.length := by
  rw [← x.value_places]
  exact Text.ofDigitChars_lt x.isDigit_of_mem_places

theorem exists_places : ∃ c s, x.places = c :: s := by
  refine List.exists_cons_of_ne_nil fun h => x.power_ne_zero ?_
  have hvalue := x.value_places
  rw [h] at hvalue
  exact Int.natAbs_eq_zero.mp hvalue.symm

theorem plus_mem_written_iff : '+' ∈ x.written ↔ ¬ x.power < 0 := by
  have hplaces : '+' ∉ x.places := fun h => absurd (x.isDigit_of_mem_places _ h) (by decide)
  have hletter : '+' ≠ x.letter := by rcases x.letter_eq with h | h <;> rw [h] <;> decide
  unfold written tail sign
  by_cases h : x.power < 0
  · simp [h, x.figure.plus_not_mem_plain, hplaces, hletter]
  · simp [h]

/-- What stands behind the figure starts with neither a digit nor a point. -/
theorem tail_head (c : Char) (r : List Char) (h : x.tail = c :: r) :
    Text.digit? c = none ∧ c ≠ '.' := by
  cases h
  rcases x.letter_eq with h | h <;> rw [h] <;> decide

theorem readPower?_tail : Decimal.readPower? x.tail = some x.power := by
  obtain ⟨c, s, hplaces⟩ := x.exists_places
  have htake : Text.takeDigits x.places = (x.places.map fun c => c.toNat - 48, []) := by
    have h := @Text.takeDigits_ascii x.places x.isDigit_of_mem_places [] (by simp)
    rwa [List.append_nil] at h
  have hletter : x.letter = 'e' ∨ x.letter = 'E' := x.letter_eq
  have hpower : Text.digitsValue (x.places.map fun c => c.toNat - 48) = x.power.natAbs := by
    rw [Text.digitsValue_map_toNat, x.value_places]
  have hsign : Text.takeSign (x.sign :: x.places) = (decide (x.power < 0), x.places) := by
    unfold sign
    by_cases h : x.power < 0 <;> simp [h, Text.takeSign]
  rw [tail, Decimal.readPower?, if_pos hletter, hsign]
  simp only [htake]
  rw [hplaces, List.map_cons]
  simp only
  rw [← List.map_cons (f := fun c : Char => c.toNat - 48), ← hplaces, hpower]
  by_cases h : x.power < 0
  · simp only [h, decide_true, if_true]
    congr 1
    omega
  · simp only [h, decide_false, Bool.false_eq_true, if_false]
    congr 1
    omega

/-- **A number printed with a power of ten reads back** where it is read as a number. -/
theorem read?_written : Decimal.read? x.written = some x.value := by
  rw [written, x.figure.read?_append x.tail_head, x.readPower?_tail]
  rfl

theorem filter_written : x.written.filter isSignificant =
    x.figure.plain ++ if x.power < 0 then '-' :: x.places else x.places := by
  have hletter : isSignificant x.letter = false := by
    rcases x.letter_eq with h | h <;> rw [h] <;> decide
  have hplaces : x.places.filter isSignificant = x.places :=
    List.filter_eq_self.mpr fun c hc => isSignificant_of_isDigit (x.isDigit_of_mem_places c hc)
  rw [written, tail, List.filter_append, x.figure.filter_plain,
    List.filter_cons_of_neg (by rw [hletter]; decide), sign]
  by_cases h : x.power < 0
  · rw [if_pos h, if_pos h, List.filter_cons_of_pos (by decide), hplaces]
  · rw [if_neg h, if_neg h, List.filter_cons_of_neg (by decide), hplaces]

theorem plain_joined : x.joined.plain = x.figure.plain ++ x.places := by
  have hsign : x.joined.sign = x.figure.sign := rfl
  rw [Figure.plain, Figure.plain, hsign]
  by_cases h : x.figure.fraction = []
  · have htail : x.joined.tail '.' = [] := if_pos (if_pos h)
    have hwhole : x.joined.whole = x.figure.whole ++ x.places := if_pos h
    have htail' : x.figure.tail '.' = [] := if_pos h
    rw [htail, htail', hwhole]
    simp
  · have hfraction : x.joined.fraction = x.figure.fraction ++ x.places := if_neg h
    have hwhole : x.joined.whole = x.figure.whole := if_neg h
    have hne : x.joined.fraction ≠ [] := by
      rw [hfraction]
      simp [h]
    rw [x.joined.tail_of_ne_nil '.' hne, x.figure.tail_of_ne_nil '.' h, hfraction, hwhole]
    simp

theorem value_joined : x.joined.value = .finite x.figure.negative
    (10 ^ x.places.length * x.coefficient + x.power.natAbs) (-x.joined.fraction.length) := by
  have hdigits : x.joined.whole ++ x.joined.fraction =
      x.figure.whole ++ x.figure.fraction ++ x.places := by
    simp only [joined]
    split
    · rename_i h
      simp [h]
    · simp
  rw [Figure.value, hdigits, Text.ofDigitChars_append_eq, x.value_places]
  rfl

/-- **Digits that join the figure make another number**, unlike the power they write. -/
theorem number?_joined_ne (h : ¬ x.power < 0) : x.joined.value.number? ≠ x.value.number? := by
  have hne := x.power_ne_zero
  obtain ⟨m, hm⟩ : ∃ m : Nat,
      x.power - x.figure.fraction.length = -x.joined.fraction.length + m := by
    simp only [joined]
    split
    · rename_i hnil
      rw [hnil]
      refine ⟨x.power.natAbs, ?_⟩
      rw [List.length_nil]
      omega
    · refine ⟨x.places.length + x.power.natAbs, ?_⟩
      rw [List.length_append]
      omega
  rw [value_joined, value, hm]
  exact Decimal.number?_joined_ne (by omega) x.natAbs_power_lt _ _

/-- Behind a minus sign nothing is left that reads as a number. -/
theorem read?_minus : Decimal.read? (x.figure.plain ++ '-' :: x.places) = none := by
  have hhead : ∀ c r, '-' :: x.places = c :: r → Text.digit? c = none ∧ c ≠ '.' := by
    intro c r h
    cases h
    decide
  rw [x.figure.read?_append hhead]
  rfl

/-- **A printed power of ten is misread.** -/
theorem ofValue_text {s : String} (hs : s.toList = x.written) :
    (x.power < 0 → ofValue (.text s) = .error (.invalidNumber s)) ∧
      (¬ x.power < 0 → ofValue (.text s) = .ok x.joined.value) := by
  have hplaces : ',' ∉ x.places := fun h => absurd (x.isDigit_of_mem_places _ h) (by decide)
  have hplain := x.figure.comma_not_mem_plain
  have hfilter := x.filter_written
  rw [← hs] at hfilter
  constructor
  · intro h
    rw [if_pos h] at hfilter
    rw [ofValue_of_filter hfilter (by simp [hplain, hplaces]), x.read?_minus]
  · intro h
    rw [if_neg h, ← x.plain_joined] at hfilter
    rw [ofValue_of_filter hfilter x.joined.comma_not_mem_plain, x.joined.read?_plain]

end Scaled

/-! ### Numbers in print -/

variable {digits : List Char}

theorem exists_figure_positional (hne : digits ≠ []) (hdigits : ∀ c ∈ digits, c.isDigit = true)
    (negative : Bool) (places : Nat) :
    ∃ f : Figure, Decimal.sign negative ++ Decimal.positional digits places = f.plain ∧
      f.value = .finite negative (Nat.ofDigitChars 10 digits 0) (-places) := by
  unfold Decimal.positional
  by_cases hzero : places = 0
  · rw [if_pos hzero]
    refine ⟨⟨negative, digits, [], hne, hdigits, by simp⟩, ?_, ?_⟩
    · exact (List.append_nil _).symm
    · rw [Figure.value, List.append_nil, hzero]
      rfl
  · rw [if_neg hzero]
    by_cases hshort : places < digits.length
    · rw [if_pos hshort]
      have hback : digits.drop (digits.length - places) ≠ [] := by
        rw [Ne, List.drop_eq_nil_iff]
        omega
      refine ⟨⟨negative, digits.take (digits.length - places),
        digits.drop (digits.length - places), ?_, fun c hc => hdigits c (List.mem_of_mem_take hc),
        fun c hc => hdigits c (List.mem_of_mem_drop hc)⟩, ?_, ?_⟩
      · rw [Ne, List.take_eq_nil_iff]
        rintro (h | h)
        · omega
        · exact hne h
      · rw [Figure.plain, Figure.tail_of_ne_nil _ '.' hback, List.append_assoc]
        rfl
      · rw [Figure.value, List.take_append_drop, List.length_drop]
        congr 1
        omega
    · rw [if_neg hshort]
      have hfraction : List.replicate (places - digits.length) '0' ++ digits ≠ [] := by
        simp [hne]
      refine ⟨⟨negative, ['0'], List.replicate (places - digits.length) '0' ++ digits, by simp,
        by simp, fun c hc => ?_⟩, ?_, ?_⟩
      · rcases List.mem_append.mp hc with hc | hc
        · rw [List.eq_of_mem_replicate hc]
          decide
        · exact hdigits c hc
      · rw [Figure.plain, Figure.tail_of_ne_nil _ '.' hfraction, List.append_assoc]
        rfl
      · have hzeros : Nat.ofDigitChars 10
            (['0'] ++ (List.replicate (places - digits.length) '0' ++ digits)) 0 =
              Nat.ofDigitChars 10 digits 0 := by
          have hrow : ['0'] ++ (List.replicate (places - digits.length) '0' ++ digits) =
              List.replicate (places - digits.length + 1) '0' ++ digits := by
            rw [List.replicate_succ]
            rfl
          rw [hrow, Nat.ofDigitChars_append, Nat.ofDigitChars_replicate_zero, Nat.mul_zero]
        rw [Figure.value, hzeros, List.length_append, List.length_replicate]
        congr 1
        omega

theorem exists_scaled (hne : digits ≠ []) (hdigits : ∀ c ∈ digits, c.isDigit = true)
    (negative : Bool) {letter : Char} (hletter : letter = 'e' ∨ letter = 'E') {power : Int}
    (hpower : power ≠ 0) {places : List Char} (hplaces : ∀ c ∈ places, c.isDigit = true)
    (hvalue : Nat.ofDigitChars 10 places 0 = power.natAbs) :
    ∃ x : Scaled, Decimal.sign negative ++ (digits.take 1 ++
        (if digits.length ≤ 1 then [] else '.' :: digits.drop 1) ++
          letter :: (if power < 0 then '-' else '+') :: places) = x.written ∧
      x.value = .finite negative (Nat.ofDigitChars 10 digits 0) (power - (digits.length - 1)) := by
  have hpos := List.length_pos_iff.mpr hne
  refine ⟨⟨⟨negative, digits.take 1, digits.drop 1, ?_,
    fun c hc => hdigits c (List.mem_of_mem_take hc),
    fun c hc => hdigits c (List.mem_of_mem_drop hc)⟩, letter, power, places, hletter, hpower,
    hplaces, hvalue⟩, ?_, ?_⟩
  · rw [Ne, List.take_eq_nil_iff]
    rintro (h | h)
    · cases h
    · exact hne h
  · have htail : (if digits.length ≤ 1 then [] else '.' :: digits.drop 1) =
        if digits.drop 1 = [] then [] else '.' :: digits.drop 1 := by
      simp only [List.drop_eq_nil_iff]
    rw [htail, ← List.append_assoc, ← List.append_assoc]
    rfl
  · rw [Scaled.value, Scaled.coefficient, List.take_append_drop, List.length_drop]
    congr 1
    show power - ((digits.length - 1 : Nat) : Int) = power - (digits.length - 1)
    omega

end Amount

namespace Decimal

/-- Whether a finite number is printed without a power of ten: its last digit stands on or
behind the units, and its first digit no more than six places behind the point. -/
def isPrintedPlain : Decimal → Bool
  | finite _ coefficient exponent =>
    decide (exponent ≤ 0 ∧ -6 ≤ exponent + (Text.numeral coefficient).length - 1)
  | infinity _ | nan .. => false

theorem numeral_facts (n : Nat) : Text.numeral n ≠ [] ∧
    (∀ c ∈ Text.numeral n, c.isDigit = true) ∧
      Nat.ofDigitChars 10 (Text.numeral n) 0 = n :=
  ⟨List.length_pos_iff.mp Nat.length_toDigits_pos, fun _ hc => Text.isDigit_of_mem_numeral hc,
    Nat.ofDigitChars_ten_toDigits⟩

variable (negative : Bool) (coefficient : Nat) (exponent : Int)

theorem exists_figure_print (h : (finite negative coefficient exponent).isPrintedPlain = true) :
    ∃ f : Amount.Figure, (finite negative coefficient exponent).print = f.plain ∧
      f.value = finite negative coefficient exponent := by
  have hplaces := of_decide_eq_true h
  obtain ⟨hne, hdigits, hvalue⟩ := numeral_facts coefficient
  obtain ⟨f, hplain, hf⟩ :=
    Amount.exists_figure_positional hne hdigits negative exponent.natAbs
  refine ⟨f, ?_, ?_⟩
  · rw [print, ← hplain]
    exact congrArg (sign negative ++ ·) (if_pos hplaces)
  · rw [hf, hvalue]
    congr 1
    omega

theorem exists_scaled_print (h : (finite negative coefficient exponent).isPrintedPlain = false) :
    ∃ x : Amount.Scaled, (finite negative coefficient exponent).print = x.written ∧
      x.value = finite negative coefficient exponent := by
  have hplaces := of_decide_eq_false h
  obtain ⟨hne, hdigits, hvalue⟩ := numeral_facts coefficient
  have hpos := List.length_pos_iff.mpr hne
  have hpower : exponent + (Text.numeral coefficient).length - 1 ≠ 0 := by omega
  obtain ⟨-, hpowers, hpowerValue⟩ :=
    numeral_facts (exponent + (Text.numeral coefficient).length - 1).natAbs
  obtain ⟨x, hwritten, hx⟩ :=
    Amount.exists_scaled hne hdigits negative (.inr rfl) hpower hpowers hpowerValue
  refine ⟨x, ?_, ?_⟩
  · rw [print, ← hwritten]
    exact congrArg (sign negative ++ ·) (if_neg hplaces)
  · rw [hx, hvalue]
    congr 1
    omega

end Decimal

namespace Binary64

/-- The power of ten of the first digit of a positive number. -/
def firstPower (significand : Nat) (exponent : Int) : Int :=
  (shortest significand exponent).2 + (Text.numeral (shortest significand exponent).1).length - 1

/-- Whether a finite number is printed without a power of ten: its first digit stands no
more than sixteen places in front of the point, and no more than four behind it. -/
def isPrintedPlain : Binary64 → Bool
  | finite _ significand exponent =>
    decide (significand = 0 ∨
      -4 ≤ firstPower significand exponent ∧ firstPower significand exponent < 16)
  | infinity _ | nan => false

variable (negative : Bool) (significand : Nat) (exponent : Int)

theorem print_of_ne_zero (h : significand ≠ 0) :
    (finite negative significand exponent).print = Decimal.sign negative ++
      printDigits (shortest significand exponent).1 (shortest significand exponent).2 := by
  obtain ⟨m, rfl⟩ := Nat.exists_eq_succ_of_ne_zero h
  rfl

/-- Digits with a zero behind the point are a figure. -/
theorem exists_figure_point {digits : List Char} (hne : digits ≠ [])
    (hdigits : ∀ c ∈ digits, c.isDigit = true) :
    ∃ f : Amount.Figure, Decimal.sign negative ++ (digits ++ ".0".toList) = f.plain := by
  refine ⟨⟨negative, digits, ['0'], hne, hdigits, by simp⟩, ?_⟩
  rw [Amount.Figure.plain, List.append_assoc]
  rfl

theorem exists_figure_print (h : (finite negative significand exponent).isPrintedPlain = true) :
    ∃ f : Amount.Figure, (finite negative significand exponent).print = f.plain := by
  have hplaces := of_decide_eq_true h
  by_cases hzero : significand = 0
  · subst hzero
    obtain ⟨f, hf⟩ := exists_figure_point negative (show ['0'] ≠ [] by simp) (by simp)
    exact ⟨f, hf⟩
  rw [print_of_ne_zero negative significand exponent hzero]
  obtain ⟨hne, hdigits, -⟩ := Decimal.numeral_facts (shortest significand exponent).1
  unfold firstPower at hplaces
  unfold printDigits
  dsimp only
  rw [if_pos (hplaces.resolve_left hzero)]
  by_cases hplace : 0 ≤ (shortest significand exponent).2
  · rw [if_pos hplace]
    refine exists_figure_point negative (by simp [hne]) fun c hc => ?_
    rcases List.mem_append.mp hc with hc | hc
    · exact hdigits c hc
    · rw [List.eq_of_mem_replicate hc]
      decide
  · rw [if_neg hplace]
    obtain ⟨f, hplain, -⟩ := Amount.exists_figure_positional hne hdigits negative
      (shortest significand exponent).2.natAbs
    exact ⟨f, hplain⟩

theorem exists_scaled_print (h : (finite negative significand exponent).isPrintedPlain = false) :
    ∃ x : Amount.Scaled, (finite negative significand exponent).print = x.written := by
  obtain ⟨hzero, hplaces⟩ := not_or.mp (of_decide_eq_false h)
  rw [print_of_ne_zero negative significand exponent hzero]
  obtain ⟨hne, hdigits, -⟩ := Decimal.numeral_facts (shortest significand exponent).1
  unfold firstPower at hplaces
  unfold printDigits
  dsimp only
  rw [if_neg hplaces]
  have hpower : (shortest significand exponent).2 +
      (Text.numeral (shortest significand exponent).1).length - 1 ≠ 0 := by omega
  obtain ⟨x, hwritten, -⟩ := Amount.exists_scaled hne hdigits negative (.inl rfl) hpower
    (fun _ hc => Text.isDigit_of_mem_padded hc) (Text.ofDigitChars_padded 2 _)
  exact ⟨x, hwritten⟩

end Binary64

namespace Value

/-- Whether a value is a finite number; truth values are integers. -/
def isFinite : Value → Bool
  | bool _ | int _ | float (.finite ..) | decimal (.finite ..) => true
  | _ => false

/-- Whether a value is printed as a number without a power of ten. -/
def isPrintedPlain : Value → Bool
  | int _ => true
  | float x => x.isPrintedPlain
  | decimal d => d.isPrintedPlain
  | _ => false

end Value

namespace Amount

/-- **How a finite number is printed.** It is a plain figure or has a power of ten behind
it, and either is the number that it counts as; a truth value is written as a word. -/
theorem exists_printed {v : Value} (hv : v.isFinite = true) {s : String} (hs : v.plain = .ok s) :
    (v.isPrintedPlain = true ∧ ∃ f : Figure, s.toList = f.plain ∧ ofValue v = .ok f.value) ∨
      v.isPrintedPlain = false ∧
        ((∃ x : Scaled, s.toList = x.written ∧ ofValue v = .ok x.value) ∨
          ∃ b, v = .bool b ∧ s = Value.boolName b) := by
  cases v with
  | bool b =>
    cases hs
    exact .inr ⟨rfl, .inr ⟨b, rfl, rfl⟩⟩
  | int n =>
    simp only [Value.plain] at hs
    split at hs
    · cases hs
    · cases hs
      have hplain : (Decimal.finite (decide (n < 0)) n.natAbs 0).isPrintedPlain = true :=
        decide_eq_true ⟨Int.le_refl 0, by omega⟩
      obtain ⟨f, hprint, hf⟩ := Decimal.exists_figure_print _ _ _ hplain
      refine .inl ⟨rfl, f, ?_, ?_⟩
      · rw [String.toList_ofList, ← Decimal.print_ofInt, ← hprint]
        rfl
      · rw [hf]
        rfl
  | float x =>
    cases x with
    | infinity _ => cases hv
    | nan => cases hv
    | finite negative significand exponent =>
      cases hs
      have hvalue : ∀ d, Decimal.read? (Binary64.finite negative significand exponent).print =
          some d → ofValue (.float (.finite negative significand exponent)) = .ok d := by
        intro d hd
        simp only [ofValue, hd]
      rw [String.toList_ofList]
      cases hplain : (Binary64.finite negative significand exponent).isPrintedPlain with
      | true =>
        obtain ⟨f, hf⟩ := Binary64.exists_figure_print _ _ _ hplain
        exact .inl ⟨hplain, f, hf, hvalue _ (by rw [hf, f.read?_plain])⟩
      | false =>
        obtain ⟨x, hx⟩ := Binary64.exists_scaled_print _ _ _ hplain
        exact .inr ⟨hplain, .inl ⟨x, hx, hvalue _ (by rw [hx, x.read?_written])⟩⟩
  | decimal d =>
    cases d with
    | infinity _ => cases hv
    | nan _ _ _ => cases hv
    | finite negative coefficient exponent =>
      cases hs
      rw [String.toList_ofList]
      cases hplain : (Decimal.finite negative coefficient exponent).isPrintedPlain with
      | true =>
        obtain ⟨f, hprint, hf⟩ := Decimal.exists_figure_print _ _ _ hplain
        exact .inl ⟨hplain, f, hprint, by rw [hf]; rfl⟩
      | false =>
        obtain ⟨x, hprint, hx⟩ := Decimal.exists_scaled_print _ _ _ hplain
        exact .inr ⟨hplain, .inl ⟨x, hprint, by rw [hx]; rfl⟩⟩
  | none | text _ | date _ | timestamp _ => cases hv

theorem ofValue_boolName (b : Bool) :
    ofValue (.text (Value.boolName b)) = .error (.invalidNumber (Value.boolName b)) := by
  cases b <;> exact ofValue_of_filter (t := []) (by decide) (by simp)

/-- What a number counts as, and what its text reads as. -/
structure ReadsPrinted (v : Value) (s : String) (d : Decimal) : Prop where
  value : ofValue v = .ok d
  plain : v.isPrintedPlain = true → ofValue (.text s) = .ok d
  /-- Digits of a power of ten behind a plus sign make another number of it. -/
  joined : v.isPrintedPlain = false → '+' ∈ s.toList →
    ∃ d', ofValue (.text s) = .ok d' ∧ d'.number? ≠ d.number?
  /-- Behind a minus sign they make it unreadable, as letters alone do. -/
  unreadable : v.isPrintedPlain = false → '+' ∉ s.toList →
    ofValue (.text s) = .error (.invalidNumber s)

/-- **The text of a number reads as the number when it is printed without a power of ten**,
and otherwise as another one or as none. -/
theorem exists_readsPrinted {v : Value} (hv : v.isFinite = true) {s : String}
    (hs : v.plain = .ok s) : ∃ d, ReadsPrinted v s d := by
  rcases exists_printed hv hs with ⟨hplain, f, hprint, hvalue⟩ |
    ⟨hscaled, ⟨x, hprint, hvalue⟩ | ⟨b, rfl, rfl⟩⟩
  · have hfilter : s.toList.filter isSignificant = f.plain := by rw [hprint, f.filter_plain]
    have htext : ofValue (.text s) = .ok f.value := by
      rw [ofValue_of_filter hfilter f.comma_not_mem_plain, f.read?_plain]
    have hno : v.isPrintedPlain ≠ false := by rw [hplain]; decide
    exact ⟨f.value, hvalue, fun _ => htext, fun h => absurd h hno, fun h => absurd h hno⟩
  · obtain ⟨hnegative, hpositive⟩ := x.ofValue_text hprint
    have hplus : '+' ∈ s.toList ↔ ¬ x.power < 0 := by rw [hprint, x.plus_mem_written_iff]
    have hno : v.isPrintedPlain ≠ true := by rw [hscaled]; decide
    refine ⟨x.value, hvalue, fun h => absurd h hno, fun _ h => ?_, fun _ h => ?_⟩
    · exact ⟨_, hpositive (hplus.mp h), x.number?_joined_ne (hplus.mp h)⟩
    · rw [hplus, Decidable.not_not] at h
      exact hnegative h
  · refine ⟨.ofInt (if b then 1 else 0), rfl, fun h => (by cases h), fun _ h => ?_,
      fun _ _ => ofValue_boolName b⟩
    cases b <;> exact absurd h (by decide)

/-- A power of ten that is read as two more digits of the number. -/
theorem ofValue_printed_thousand :
    let v : Value := .decimal (.finite false 1 3)
    v.plain = .ok "1E+3" ∧ ofValue v = .ok (.finite false 1 3) ∧
      ofValue (.text "1E+3") = .ok (.finite false 13 0) ∧
      (Decimal.finite false 13 0).number? ≠ (Decimal.finite false 1 3).number? := by
  refine ⟨by decide, rfl, by decide, fun h => ?_⟩
  have hvalue := Option.some.inj h
  norm_num at hvalue

end Amount

/-! ### The filter -/

namespace Work

variable {w : Work}

/-- The work with a comparison of a field with an amount appended. -/
def withAmount (w : Work) (field : String) (d : Decimal) : Attempt Work :=
  w.withQuery (w.query.append (Frame.compared field " = " (.decimal d)).clause)

/-- The filter `=n` compares with the number that a value is or writes. -/
theorem applyFilter_amount (hr : w.engine.registry = .standard) (field : String) (v : Value) :
    w.applyFilter field (.text "=n") [v] =
      match Amount.ofValue v with
      | .ok d => w.withAmount field d
      | .error e => .fail w e := by
  obtain ⟨op, steps, hb, hready, happly⟩ :=
    applyFilter_of_behavior hr "=n" (b := .numericEquals) (by decide) rfl field [v]
  have hd : op.behavior.decide (w.engine.situation op) field [v] =
      .ofExcept ((Amount.ofValue v).map fun d => .append (.amount d)) := by
    rw [hb]
    rfl
  rw [happly]
  rcases hvalue : Amount.ofValue v with e | d
  · rw [hvalue] at hd
    rw [modifyWithin_of_fail hd, hready]
  · rw [hvalue] at hd
    rw [modifyWithin_of_append hd, hready, Condition.clause_amount]
    rfl

/-- **A number and its text give the same filter when the number is printed without a power
of ten**, as integers are. Any other one is misread: with a plus sign in its text the
filter compares with another number, and without one it fails. -/
theorem applyFilter_printed (hr : w.engine.registry = .standard) (field : String) {v : Value}
    (hv : v.isFinite = true) {s : String} (hs : v.plain = .ok s) :
    ∃ d, Amount.ReadsPrinted v s d ∧
      w.applyFilter field (.text "=n") [v] = w.withAmount field d ∧
      (v.isPrintedPlain = true →
        w.applyFilter field (.text "=n") [.text s] = w.applyFilter field (.text "=n") [v]) ∧
      (v.isPrintedPlain = false → '+' ∈ s.toList → ∃ d', d'.number? ≠ d.number? ∧
        w.applyFilter field (.text "=n") [.text s] = w.withAmount field d') ∧
      (v.isPrintedPlain = false → '+' ∉ s.toList →
        w.applyFilter field (.text "=n") [.text s] = .fail w (.invalidNumber s)) := by
  obtain ⟨d, h⟩ := Amount.exists_readsPrinted hv hs
  have hnumber : w.applyFilter field (.text "=n") [v] = w.withAmount field d := by
    rw [applyFilter_amount hr, h.value]
  refine ⟨d, h, hnumber, fun hplain => ?_, fun hscaled hplus => ?_, fun hscaled hplus => ?_⟩
  · rw [hnumber, applyFilter_amount hr, h.plain hplain]
  · obtain ⟨d', hread, hne⟩ := h.joined hscaled hplus
    exact ⟨d', hne, by rw [applyFilter_amount hr, hread]⟩
  · rw [applyFilter_amount hr, h.unreadable hscaled hplus]

/-- A negative amount with two digits behind the point. -/
theorem applyFilter_printed_negative :
    let w : Work := ⟨.standard ⟨none, none⟩
      ⟨2024, 1, 17, by decide, by decide, by decide, by decide⟩, .empty .postgresql true⟩
    let v : Value := .decimal (.finite true 1250 (-2))
    w.engine.registry = .standard ∧ v.isFinite = true ∧ v.plain = .ok "-12.50" ∧
      v.isPrintedPlain = true ∧
      ∃ d, Amount.ReadsPrinted v "-12.50" d ∧
        w.applyFilter "total" (.text "=n") [.text "-12.50"] = w.withAmount "total" d := by
  intro w v
  have hplain : v.plain = .ok "-12.50" := by decide
  obtain ⟨d, h, hnumber, hsame, -⟩ := applyFilter_printed (w := w) (v := v) rfl "total" rfl hplain
  exact ⟨rfl, rfl, hplain, rfl, d, h, (hsame rfl).trans hnumber⟩

end Work
end ReportFilter
