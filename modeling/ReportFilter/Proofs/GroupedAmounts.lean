/-
# Formatted amounts read back

An amount is formatted by grouping the digits of its whole part in threes from
the right and putting a decimal mark before the digits of its fraction. One
notation groups with commas and marks with a point, the other one swaps them;
people write currencies and spaces wherever they like.

Reading guesses the decimal mark. The guess is right for every figure in the
first notation: a comma counts as the decimal mark only before one or two
digits, and the last group has three. In the second notation it is right for
fractions of one or two digits; a longer one, with no group before it, is
itself taken for a group.

Key definitions: `Amount.Figure`, `Amount.Figure.written`, `Amount.Figure.value`,
`Amount.Shows`.
Key theorems: `Amount.ofValue_written`, `Amount.ofValue_written_of_three_le`,
`Amount.Figure.normalized_written_point`, `Amount.Figure.normalized_written_comma`.
-/
import ReportFilter.Amount

namespace ReportFilter
namespace Text

/-- The value of digits, read as values or as characters. -/
theorem digitsValue_map_toNat (ds : List Char) :
    digitsValue (ds.map fun c => c.toNat - 48) = Nat.ofDigitChars 10 ds 0 := by
  rw [Nat.ofDigitChars_eq_foldl, digitsValue, List.foldl_map]
  rfl

theorem takeDigits_ascii {ds : List Char} (hds : ∀ c ∈ ds, c.isDigit = true) {rest : List Char}
    (hrest : ∀ c r, rest = c :: r → digit? c = none) :
    takeDigits (ds ++ rest) = (ds.map fun c => c.toNat - 48, rest) := by
  refine takeDigits_append ds _ rest ?_ hrest
  rw [List.map_map]
  exact List.map_congr_left fun c hc => digit?_ascii (hds c hc)

end Text

namespace Amount

/-- The sign, the digits of the whole part and those of the fraction of an amount. -/
structure Figure where
  negative : Bool
  whole : List Char
  fraction : List Char
  whole_ne_nil : whole ≠ []
  isDigit_of_mem_whole : ∀ c ∈ whole, c.isDigit = true
  isDigit_of_mem_fraction : ∀ c ∈ fraction, c.isDigit = true

/-- Digits in groups of three from the right, with a mark between the groups. -/
def grouped (mark : Char) : List Char → List Char
  | [] => []
  | c :: s => if s ≠ [] ∧ s.length % 3 = 0 then c :: mark :: grouped mark s else c :: grouped mark s

/-- A text shows an amount if it is the amount with noise in between: characters that are no
decimal digits, points, commas or minus signs. -/
inductive Shows : List Char → List Char → Prop
  | nil : Shows [] []
  | keep (c : Char) {amount s : List Char} : Shows amount s → Shows (c :: amount) (c :: s)
  | noise {c : Char} (digit : Text.isDigit c = false) (mark : c ∉ ['.', ',', '-'])
      {amount s : List Char} : Shows amount s → Shows amount (c :: s)

namespace Figure

/-- The sign in front of a figure. -/
def sign (f : Figure) : List Char := if f.negative then ['-'] else []

/-- The fraction of a figure behind its decimal mark. -/
def tail (mark : Char) (f : Figure) : List Char :=
  if f.fraction = [] then [] else mark :: f.fraction

/-- A figure in a notation, given by what stands between groups and by the decimal mark. -/
def written (group mark : Char) (f : Figure) : List Char :=
  f.sign ++ grouped group f.whole ++ f.tail mark

/-- The decimal number of a figure: all its digits, and how many of them are behind the mark. -/
def value (f : Figure) : Decimal :=
  .finite f.negative (Nat.ofDigitChars 10 (f.whole ++ f.fraction) 0) (-f.fraction.length)

/-- A figure without groups. -/
def plain (f : Figure) : List Char := f.sign ++ f.whole ++ f.tail '.'

end Figure

/-! ### Noise -/

/-- Reading sees nothing of noise. -/
theorem Shows.filter_isSignificant {amount s : List Char} (h : Shows amount s) :
    s.filter isSignificant = amount.filter isSignificant := by
  induction h with
  | nil => rfl
  | keep c _ ih => simp only [List.filter_cons, ih]
  | @noise c hdigit hmark _ _ _ ih =>
    have hc : isSignificant c = false := by
      simp only [List.mem_cons, List.not_mem_nil, or_false, not_or] at hmark
      simp [isSignificant, hdigit, hmark]
    rw [List.filter_cons_of_neg (by simp [hc]), ih]

theorem Shows.filter_self (s : List Char) : Shows (s.filter isSignificant) s := by
  induction s with
  | nil => exact .nil
  | cons c s ih =>
    cases hc : isSignificant c with
    | true => rw [List.filter_cons_of_pos hc]; exact .keep c ih
    | false =>
      rw [List.filter_cons_of_neg (by simp [hc])]
      simp only [isSignificant, Bool.or_eq_false_iff, beq_eq_false_iff_ne] at hc
      obtain ⟨⟨⟨hdigit, hpoint⟩, hcomma⟩, hminus⟩ := hc
      exact .noise hdigit (by simp [hpoint, hcomma, hminus]) ih

theorem isSignificant_of_isDigit {c : Char} (h : c.isDigit = true) : isSignificant c = true := by
  simp [isSignificant, Text.isDigit, Text.digit?_ascii h]

/-! ### Digits in groups -/

theorem mem_grouped {mark c : Char} {s : List Char} (h : c ∈ grouped mark s) :
    c = mark ∨ c ∈ s := by
  induction s with
  | nil => exact .inr h
  | cons d s ih =>
    rw [grouped] at h
    split at h <;> grind

theorem without_append (mark : Char) (s t : List Char) :
    without mark (s ++ t) = without mark s ++ without mark t :=
  List.filter_append ..

theorem without_eq_self {mark : Char} {s : List Char} (h : mark ∉ s) : without mark s = s :=
  List.filter_eq_self.mpr fun c hc => by
    simp only [bne_iff_ne, ne_eq]
    exact fun he => h (he ▸ hc)

/-- The marks between groups are all that grouping adds. -/
theorem without_grouped {mark : Char} {s : List Char} (h : mark ∉ s) :
    without mark (grouped mark s) = s := by
  induction s with
  | nil => rfl
  | cons c s ih =>
    have hc : c ≠ mark := fun he => h (he ▸ List.mem_cons_self)
    have ih := ih fun hm => h (List.mem_cons_of_mem c hm)
    rw [without] at ih
    rw [grouped]
    split <;> simp [without, hc, ih]

theorem grouped_of_length_le (mark : Char) {s : List Char} (h : s.length ≤ 3) :
    grouped mark s = s := by
  induction s with
  | nil => rfl
  | cons c s ih =>
    rw [List.length_cons] at h
    have hone : ¬(s ≠ [] ∧ s.length % 3 = 0) := by
      rintro ⟨hne, hmod⟩
      have := List.length_pos_iff.mpr hne
      omega
    rw [grouped, if_neg hone, ih (by omega)]

/-- Behind the last mark between groups there are three digits. -/
theorem grouped_eq_append (mark : Char) {s : List Char} (h : 3 < s.length) :
    ∃ front last, grouped mark s = front ++ mark :: last ∧ last.length = 3 ∧ last ⊆ s := by
  induction s with
  | nil => simp at h
  | cons c s ih =>
    rw [List.length_cons] at h
    by_cases h3 : s.length = 3
    · have hmore : s ≠ [] ∧ s.length % 3 = 0 := by
        refine ⟨fun he => ?_, by omega⟩
        simp [he] at h3
      refine ⟨[c], s, ?_, h3, List.subset_cons_self c s⟩
      rw [grouped, if_pos hmore, grouped_of_length_le mark (by omega)]
      rfl
    · obtain ⟨front, last, hgrouped, hlast, hsub⟩ := ih (by omega)
      have hsub := List.subset_cons_of_subset c hsub
      rw [grouped]
      split
      · exact ⟨c :: mark :: front, last, by rw [hgrouped]; rfl, hlast, hsub⟩
      · exact ⟨c :: front, last, by rw [hgrouped]; rfl, hlast, hsub⟩

example : grouped ',' "1234567".toList = "1,234,567".toList := by decide

/-! ### The decimal mark that reading guesses -/

theorem takeWhile_reverse_append {last : List Char} (h : ',' ∉ last) (front : List Char) :
    (front ++ ',' :: last).reverse.takeWhile (· != ',') = last.reverse := by
  have hall : ∀ c ∈ last.reverse, (c != ',') = true := fun c hc => by
    simp only [bne_iff_ne, ne_eq]
    exact fun he => h (he ▸ List.mem_reverse.mp hc)
  rw [List.reverse_append, List.reverse_cons, List.append_assoc,
    List.takeWhile_append_of_pos hall]
  simp

theorem lastMark?_append {mark : Char} (hmark : mark = '.' ∨ mark = ',') {last : List Char}
    (hpoint : '.' ∉ last) (hcomma : ',' ∉ last) (front : List Char) :
    lastMark? (front ++ mark :: last) = some mark := by
  have hnone : last.reverse.find? (fun c => c == '.' || c == ',') = none := by
    rw [List.find?_eq_none]
    intro c hc
    rw [List.mem_reverse] at hc
    simp only [Bool.or_eq_true, beq_iff_eq, not_or]
    exact ⟨fun he => hpoint (he ▸ hc), fun he => hcomma (he ▸ hc)⟩
  rw [lastMark?, List.reverse_append, List.reverse_cons, List.append_assoc, List.find?_append,
    hnone]
  rcases hmark with rfl | rfl <;> rfl

/-- Commas group if a point is behind them all, or if three characters or more are behind the
last one. -/
theorem normalized_eq_without {s : List Char} (hpoint : '.' ∈ s → lastMark? s = some '.')
    (hgroup : '.' ∉ s → ',' ∈ s → 3 ≤ (s.reverse.takeWhile (· != ',')).length) :
    normalized s = without ',' s := by
  rw [normalized]
  by_cases hcomma : ',' ∈ s
  · rw [if_pos (List.contains_iff_mem.mpr hcomma)]
    by_cases hp : '.' ∈ s
    · rw [if_pos (List.contains_iff_mem.mpr hp), hpoint hp, if_neg (by decide)]
    · have hlength := hgroup hp hcomma
      rw [if_neg (by simpa using hp), if_neg (by omega)]
  · rw [if_neg (by simpa using hcomma), without_eq_self hcomma]

/-- A comma is the decimal mark if it is the only one and one or two digits are behind it. -/
theorem normalized_eq_pointed {front last : List Char} (hfront : ',' ∉ front)
    (hpoint : '.' ∉ last) (hcomma : ',' ∉ last) (hone : 1 ≤ last.length) (htwo : last.length ≤ 2) :
    normalized (front ++ ',' :: last) = pointed (without '.' (front ++ ',' :: last)) := by
  have hmem : ',' ∈ front ++ ',' :: last := by simp
  rw [normalized, if_pos (List.contains_iff_mem.mpr hmem)]
  by_cases hp : '.' ∈ front ++ ',' :: last
  · rw [if_pos (List.contains_iff_mem.mpr hp), lastMark?_append (.inr rfl) hpoint hcomma,
      if_pos rfl]
  · have hcount : (front ++ ',' :: last).count ',' = 1 := by
      simp [List.count_eq_zero.mpr hfront, List.count_eq_zero.mpr hcomma]
    rw [if_neg (by simpa using hp), takeWhile_reverse_append hcomma, without_eq_self hp]
    simp [hcount, hone, htwo]

theorem pointed_append (s t : List Char) : pointed (s ++ t) = pointed s ++ pointed t :=
  List.map_append

theorem pointed_eq_self {s : List Char} (h : ',' ∉ s) : pointed s = s := by
  refine (List.map_congr_left fun c hc => ?_).trans (List.map_id s)
  have hne : c ≠ ',' := fun he => h (he ▸ hc)
  exact if_neg hne

namespace Figure

variable (f : Figure)

theorem not_mem_whole {c : Char} (hc : c.isDigit = false) : c ∉ f.whole := fun hm => by
  rw [f.isDigit_of_mem_whole c hm] at hc
  cases hc

theorem not_mem_fraction {c : Char} (hc : c.isDigit = false) : c ∉ f.fraction := fun hm => by
  rw [f.isDigit_of_mem_fraction c hm] at hc
  cases hc

theorem eq_of_mem_sign {c : Char} (h : c ∈ f.sign) : c = '-' := by
  rw [sign] at h
  split at h
  · simpa using h
  · cases h

theorem not_mem_sign {c : Char} (hc : c ≠ '-') : c ∉ f.sign := fun h => hc (f.eq_of_mem_sign h)

/-- In front of its decimal mark a figure has no mark but those between the groups. -/
theorem not_mem_front {group c : Char} (hgroup : c ≠ group) (hminus : c ≠ '-')
    (hdigit : c.isDigit = false) : c ∉ f.sign ++ grouped group f.whole := by
  rw [List.mem_append]
  rintro (h | h)
  · exact f.not_mem_sign hminus h
  · exact (mem_grouped h).elim hgroup (f.not_mem_whole hdigit)

theorem filter_written {group mark : Char} (hgroup : isSignificant group = true)
    (hmark : isSignificant mark = true) :
    (f.written group mark).filter isSignificant = f.written group mark := by
  refine List.filter_eq_self.mpr fun c hc => ?_
  rw [written, List.mem_append, List.mem_append] at hc
  rcases hc with (hc | hc) | hc
  · rw [f.eq_of_mem_sign hc]
    rfl
  · rcases mem_grouped hc with rfl | hc
    · exact hgroup
    · exact isSignificant_of_isDigit (f.isDigit_of_mem_whole c hc)
  · rw [tail] at hc
    split at hc
    · cases hc
    · rcases List.mem_cons.mp hc with rfl | hc
      · exact hmark
      · exact isSignificant_of_isDigit (f.isDigit_of_mem_fraction c hc)

theorem without_written {group mark : Char} (hsign : group ≠ '-') (hdigit : group.isDigit = false)
    (hmark : group ≠ mark) :
    without group (f.written group mark) = f.sign ++ f.whole ++ f.tail mark := by
  have htail : group ∉ f.tail mark := by
    rw [tail]
    split
    · simp
    · simp [hmark, f.not_mem_fraction hdigit]
  rw [written, without_append, without_append, without_eq_self (f.not_mem_sign hsign),
    without_grouped (f.not_mem_whole hdigit), without_eq_self htail]

theorem tail_of_ne_nil (mark : Char) (h : f.fraction ≠ []) : f.tail mark = mark :: f.fraction :=
  if_neg h

/-- Commas that group are told from the point that marks, whatever figure it is. -/
theorem normalized_written_point : normalized (f.written ',' '.') = f.plain := by
  have hplain : without ',' (f.written ',' '.') = f.plain :=
    f.without_written (by decide) (by decide) (by decide)
  rw [← hplain]
  by_cases hfraction : f.fraction = []
  · have htail : f.tail '.' = [] := if_pos hfraction
    have hnopoint : '.' ∉ f.written ',' '.' := by
      rw [written, htail, List.append_nil]
      exact f.not_mem_front (by decide) (by decide) (by decide)
    refine normalized_eq_without (fun h => absurd h hnopoint) fun _ hcomma => ?_
    rw [written, htail, List.append_nil] at hcomma ⊢
    -- A comma only stands between groups, so there is more than one of them.
    have hlong : 3 < f.whole.length := by
      refine Nat.lt_of_not_le fun hshort => ?_
      rw [grouped_of_length_le ',' hshort, List.mem_append] at hcomma
      exact hcomma.elim (f.not_mem_sign (by decide)) (f.not_mem_whole (by decide))
    obtain ⟨front, last, hgrouped, hlast, hsub⟩ := grouped_eq_append ',' hlong
    have hnocomma : ',' ∉ last := fun h => f.not_mem_whole (by decide) (hsub h)
    rw [hgrouped, ← List.append_assoc, takeWhile_reverse_append hnocomma, List.length_reverse]
    omega
  · have hwritten : f.written ',' '.' = f.sign ++ grouped ',' f.whole ++ '.' :: f.fraction := by
      rw [written, f.tail_of_ne_nil '.' hfraction]
    refine normalized_eq_without (fun _ => ?_) fun h => absurd ?_ h
    · rw [hwritten]
      exact lastMark?_append (.inl rfl) (f.not_mem_fraction (by decide))
        (f.not_mem_fraction (by decide)) _
    · simp [hwritten]

/-- Points that group are told from the comma that marks a fraction of one or two digits. -/
theorem normalized_written_comma (hone : 1 ≤ f.fraction.length) (htwo : f.fraction.length ≤ 2) :
    normalized (f.written '.' ',') = f.plain := by
  have hfraction : f.fraction ≠ [] := List.length_pos_iff.mp hone
  have hnocomma : ',' ∉ f.sign ++ grouped '.' f.whole :=
    f.not_mem_front (by decide) (by decide) (by decide)
  have hwithout : without '.' (f.written '.' ',') = f.sign ++ f.whole ++ ',' :: f.fraction := by
    rw [f.without_written (by decide) (by decide) (by decide), f.tail_of_ne_nil ',' hfraction]
  have hpointed : pointed (f.sign ++ f.whole ++ ',' :: f.fraction) = f.plain := by
    rw [plain, f.tail_of_ne_nil '.' hfraction, pointed_append, pointed_append,
      pointed_eq_self (f.not_mem_sign (by decide)), pointed_eq_self (f.not_mem_whole (by decide))]
    exact congrArg (f.sign ++ f.whole ++ '.' :: ·)
      (pointed_eq_self (f.not_mem_fraction (by decide)))
  rw [← hpointed, ← hwithout, written, f.tail_of_ne_nil ',' hfraction]
  exact normalized_eq_pointed hnocomma (f.not_mem_fraction (by decide))
    (f.not_mem_fraction (by decide)) hone htwo

/-! ### The number -/

theorem takeSign_sign (rest : List Char) :
    Text.takeSign (f.sign ++ f.whole ++ rest) = (f.negative, f.whole ++ rest) := by
  obtain ⟨c, s, hwhole⟩ := List.exists_cons_of_ne_nil f.whole_ne_nil
  have hc : c.isDigit = true := f.isDigit_of_mem_whole c (hwhole ▸ List.mem_cons_self)
  rw [sign, hwhole]
  cases f.negative with
  | true => rfl
  | false =>
    have hminus : c ≠ '-' := by rintro rfl; exact absurd hc (by decide)
    have hplus : c ≠ '+' := by rintro rfl; exact absurd hc (by decide)
    simp [Text.takeSign, hminus, hplus]

theorem takeFraction_tail :
    Decimal.takeFraction (f.tail '.') = (f.fraction.map fun c => c.toNat - 48, []) := by
  rw [tail]
  split
  · next h => rw [h]; rfl
  · have htake := @Text.takeDigits_ascii f.fraction f.isDigit_of_mem_fraction [] (by simp)
    rwa [List.append_nil] at htake

/-- A plain figure writes its value. -/
theorem read?_plain : Decimal.read? f.plain = some f.value := by
  have htail : ∀ c r, f.tail '.' = c :: r → Text.digit? c = none := by
    intro c r h
    rw [tail] at h
    split at h
    · cases h
    · cases h
      decide
  have hwhole := Text.takeDigits_ascii f.isDigit_of_mem_whole htail
  have hfinite : Decimal.readFinite? f.negative (f.whole ++ f.tail '.') = some f.value := by
    simp only [Decimal.readFinite?, hwhole, f.takeFraction_tail, Decimal.readPower?,
      Option.map_some]
    rw [if_neg (by simp [f.whole_ne_nil]), ← List.map_append, Text.digitsValue_map_toNat,
      List.length_map, Int.zero_sub]
    rfl
  rw [plain, Decimal.read?, f.takeSign_sign]
  simp only [hfinite]

/-- What a text shows is the number it is read as, if its amount is normalized to a figure. -/
theorem ofValue_of_shows {amount : List Char} (hamount : amount.filter isSignificant = amount)
    (hnormalized : normalized amount = f.plain) {s : String} (h : Shows amount s.toList) :
    ofValue (.text s) = .ok f.value := by
  rw [ofValue, Value.plain_text]
  · simp only [bind, Except.bind]
    rw [read, h.filter_isSignificant, hamount, hnormalized, f.read?_plain]
  all_goals simp

end Figure

/-- Every text that shows a figure is read as its value: with commas between the groups and a
point, and for one or two digits behind the mark with points between the groups and a comma. -/
theorem ofValue_written (f : Figure) (s : String) :
    (Shows (f.written ',' '.') s.toList → ofValue (.text s) = .ok f.value) ∧
      (f.fraction.length = 1 ∨ f.fraction.length = 2 → Shows (f.written '.' ',') s.toList →
        ofValue (.text s) = .ok f.value) := by
  constructor
  · exact f.ofValue_of_shows (f.filter_written rfl rfl) f.normalized_written_point
  · intro hlength
    exact f.ofValue_of_shows (f.filter_written rfl rfl)
      (f.normalized_written_comma (by omega) (by omega))

/-- Both notations of a negative amount, with a currency and spaces in them. -/
theorem ofValue_written_negative :
    let f : Figure := ⟨true, "1234567".toList, "50".toList, by decide, by simp, by simp⟩
    Shows (f.written ',' '.') "US$ -1,234,567.50".toList ∧ f.fraction.length = 2 ∧
      Shows (f.written '.' ',') "- 1.234.567,50 €".toList ∧
      ofValue (.text "US$ -1,234,567.50") = .ok (.finite true 123456750 (-2)) ∧
      ofValue (.text "- 1.234.567,50 €") = .ok (.finite true 123456750 (-2)) := by
  intro f
  have hpoint : Shows (f.written ',' '.') "US$ -1,234,567.50".toList :=
    Shows.filter_self "US$ -1,234,567.50".toList
  have hcomma : Shows (f.written '.' ',') "- 1.234.567,50 €".toList :=
    Shows.filter_self "- 1.234.567,50 €".toList
  have hvalue : f.value = .finite true 123456750 (-2) := by decide
  refine ⟨hpoint, rfl, hcomma, ?_, ?_⟩
  · rw [← hvalue]
    exact (ofValue_written f "US$ -1,234,567.50").1 hpoint
  · rw [← hvalue]
    exact (ofValue_written f "- 1.234.567,50 €").2 (.inr rfl) hcomma

/-- A lone comma before three digits or more is taken for a mark between groups, and the whole
part and the fraction for one whole number. -/
theorem ofValue_written_of_three_le (f : Figure) (hwhole : f.whole.length ≤ 3)
    (hfraction : 3 ≤ f.fraction.length) {s : String} (h : Shows (f.written '.' ',') s.toList) :
    ofValue (.text s) =
      .ok (.finite f.negative (Nat.ofDigitChars 10 (f.whole ++ f.fraction) 0) 0) := by
  let joined : Figure :=
    ⟨f.negative, f.whole ++ f.fraction, [], by simp [f.whole_ne_nil],
      fun c hc => (List.mem_append.mp hc).elim (f.isDigit_of_mem_whole c)
        (f.isDigit_of_mem_fraction c), by simp⟩
  have hne : f.fraction ≠ [] := List.length_pos_iff.mp (by omega)
  have hwritten : f.written '.' ',' = f.sign ++ f.whole ++ ',' :: f.fraction := by
    rw [Figure.written, grouped_of_length_le '.' hwhole, f.tail_of_ne_nil ',' hne]
  have hnopoint : '.' ∉ f.written '.' ',' := by
    rw [hwritten]
    simp [f.not_mem_sign, f.not_mem_whole, f.not_mem_fraction]
  have hnormalized : normalized (f.written '.' ',') = joined.plain := by
    rw [normalized_eq_without (fun hp => absurd hp hnopoint) fun _ _ => ?_]
    · have hjoin : without ',' (',' :: f.fraction) = f.fraction :=
        (List.filter_cons_of_neg (by decide)).trans
          (without_eq_self (f.not_mem_fraction (by decide)))
      rw [hwritten, without_append, without_append, without_eq_self (f.not_mem_sign (by decide)),
        without_eq_self (f.not_mem_whole (by decide)), hjoin, List.append_assoc]
      exact (List.append_nil _).symm
    · rw [hwritten, takeWhile_reverse_append (f.not_mem_fraction (by decide)), List.length_reverse]
      exact hfraction
  rw [joined.ofValue_of_shows (f.filter_written rfl rfl) hnormalized h, Figure.value,
    List.append_nil]
  rfl

end Amount
end ReportFilter
