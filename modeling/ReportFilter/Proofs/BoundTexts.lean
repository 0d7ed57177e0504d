/-
# Bounds in text order

A database that keeps timestamps as texts, in the form `YYYY-MM-DD HH:MM:SS`, compares
them as texts. The form is made for that: its places have fixed widths and go from the
year down to the second, so texts are in order exactly when the timestamps are
(`Timestamp.stored_lt_iff`).

The bound of a range of days is written without zeros in front of the year. From the year
1000 on that is the same form. Before it the year is shorter, and its first digits count
for more than they should: `999-12-31` comes behind `1000-01-01`.

Key definitions: `Timestamp.stored`, `Bound.text`, `Bound.AcceptsText`, `RangeEnd`.
Key theorems: `Date.ordinal_lt_iff`, `Timestamp.stored_lt_iff`,
`Date.literalText_append_lt_iff`, `RangeEnd.forall_acceptsText_iff`, `Work.dateRange_sorts`.
-/
import ReportFilter.Proofs.DigitRows

namespace ReportFilter

/-! ### Dates in order -/

namespace Date

theorem daysBeforeMonth_add_le {year month later : Nat} (hpos : 1 ≤ month) (h : month < later) :
    daysBeforeMonth year month + daysInMonth year month ≤ daysBeforeMonth year later := by
  have hle := totalDays_take_add_le ((monthLengths year).take (later - 1)) (month - 1)
  rw [List.take_take, Nat.min_eq_left (by omega), List.getD_eq_getElem?_getD,
    List.getElem?_take_of_lt (by omega), ← List.getD_eq_getElem?_getD] at hle
  unfold daysBeforeMonth daysInMonth
  rw [if_neg (by omega)]
  exact hle

theorem ordinal_lt_of_year_lt {d e : Date} (h : d.year < e.year) : d.ordinal < e.ordinal := by
  have hd := d.ordinal_bounds.2
  have he := e.ordinal_bounds.1
  have hmono : daysBeforeYear (d.year + 1) ≤ daysBeforeYear e.year :=
    daysBeforeYear_mono (by omega) h
  omega

theorem ordinal_lt_of_month_lt {d e : Date} (hy : d.year = e.year) (h : d.month < e.month) :
    d.ordinal < e.ordinal := by
  have hle : daysBeforeMonth d.year d.month + daysInMonth d.year d.month ≤
      daysBeforeMonth d.year e.month := daysBeforeMonth_add_le d.month_pos h
  have hd := d.day_le
  have he := e.day_pos
  unfold ordinal
  rw [← hy]
  omega

/-- **Dates come in the order of their years, months and days.** -/
theorem ordinal_lt_iff {d e : Date} :
    d.ordinal < e.ordinal ↔ d.year < e.year ∨ d.year = e.year ∧
      (d.month < e.month ∨ d.month = e.month ∧ d.day < e.day) := by
  constructor
  · intro h
    by_contra hlex
    rcases Nat.lt_trichotomy d.year e.year with hy | hy | hy
    · exact hlex (.inl hy)
    · rcases Nat.lt_trichotomy d.month e.month with hm | hm | hm
      · exact hlex (.inr ⟨hy, .inl hm⟩)
      · have hday : ¬ d.day < e.day := fun hday => hlex (.inr ⟨hy, .inr ⟨hm, hday⟩⟩)
        unfold ordinal at h
        rw [hy, hm] at h
        omega
      · have := ordinal_lt_of_month_lt hy.symm hm
        omega
    · have := ordinal_lt_of_year_lt hy
      omega
  · rintro (hy | ⟨hy, hm | ⟨hm, hd⟩⟩)
    · exact ordinal_lt_of_year_lt hy
    · exact ordinal_lt_of_month_lt hy hm
    · unfold ordinal
      rw [hy, hm]
      omega

theorem iso_append_lt_iff (d e : Date) (s t : List Char) :
    d.iso ++ s < e.iso ++ t ↔ d.ordinal < e.ordinal ∨ d.ordinal = e.ordinal ∧ s < t := by
  have hsame : d.ordinal = e.ordinal ↔ d.year = e.year ∧ d.month = e.month ∧ d.day = e.day := by
    constructor
    · intro h
      rw [ordinal_injective h]
      exact ⟨rfl, rfl, rfl⟩
    · rintro ⟨hy, hm, hd⟩
      unfold ordinal
      rw [hy, hm, hd]
  rw [iso_append, iso_append,
    Text.padded_append_lt_iff 4 (by decide) d.year_lt e.year_lt, List.cons_lt_cons_self,
    Text.padded_append_lt_iff 2 (by decide) d.month_lt_hundred e.month_lt_hundred,
    List.cons_lt_cons_self,
    Text.padded_append_lt_iff 2 (by decide) d.day_lt_hundred e.day_lt_hundred,
    ordinal_lt_iff, hsame]
  tauto

theorem literalText_append (d : Date) (s : List Char) :
    d.literalText ++ s = Text.numeral d.year ++
      '-' :: (Text.padded 2 d.month ++ '-' :: (Text.padded 2 d.day ++ s)) := by
  simp [literalText]

/-- **Dates without zeros in front of the year are in order** where the year of the earlier
one is not greater than as many leading digits of the year of the later one. -/
theorem literalText_append_lt_iff {d e : Date} (h : d.ordinal < e.ordinal) (s t : List Char) :
    d.literalText ++ s < e.literalText ++ t ↔
      d.year ≤ e.year / 10 ^ ((Text.numeral e.year).length - (Text.numeral d.year).length) := by
  have hlex := ordinal_lt_iff.mp h
  have hlen : (Text.numeral d.year).length ≤ (Text.numeral e.year).length :=
    Text.length_numeral_mono (by omega)
  have hdigits : ∀ n, ∀ c ∈ Text.numeral n, c.isDigit = true := fun n _ hc =>
    Text.isDigit_of_mem_numeral hc
  have hvalue : ∀ n, Nat.ofDigitChars 10 (Text.numeral n) 0 = n := fun n =>
    Nat.ofDigitChars_ten_toDigits
  rw [literalText_append, literalText_append]
  rcases Nat.lt_or_eq_of_le hlen with hlt | heq
  · rw [Text.hyphened_lt_iff _ _ hlt (hdigits _) (hdigits _), hvalue, hvalue]
  · rw [Text.digits_append_lt_iff _ _ heq (hdigits _) (hdigits _), hvalue, hvalue,
      List.cons_lt_cons_self,
      Text.padded_append_lt_iff 2 (by decide) d.month_lt_hundred e.month_lt_hundred,
      List.cons_lt_cons_self,
      Text.padded_append_lt_iff 2 (by decide) d.day_lt_hundred e.day_lt_hundred, heq,
      Nat.sub_self, Nat.pow_zero, Nat.div_one]
    have hyear : d.year ≤ e.year := by omega
    simp only [hyear, iff_true]
    tauto

end Date

/-! ### Timestamps in order -/

namespace TimeOfDay

theorem toSeconds_lt_iff {t u : TimeOfDay} (ht : t.microsecond = 0) (hu : u.microsecond = 0) :
    t.toSeconds < u.toSeconds ↔ t.sinceMidnight < u.sinceMidnight := by
  have htime : ∀ v : TimeOfDay, v.toSeconds = Text.padded 2 v.hour ++
      ':' :: (Text.padded 2 v.minute ++ ':' :: (Text.padded 2 v.second ++ [])) := fun v => by
    rw [v.toSeconds_eq, List.append_nil]
  have hbounds : ∀ v : TimeOfDay, v.hour < 10 ^ 2 ∧ v.minute < 10 ^ 2 ∧ v.second < 10 ^ 2 := by
    intro v
    have := v.hour_lt
    have := v.minute_lt
    have := v.second_lt
    omega
  obtain ⟨hth, htm, hts⟩ := hbounds t
  obtain ⟨huh, hum, hus⟩ := hbounds u
  have := t.minute_lt
  have := t.second_lt
  have := u.minute_lt
  have := u.second_lt
  rw [htime t, htime u, Text.padded_append_lt_iff 2 (by decide) hth huh, List.cons_lt_cons_self,
    Text.padded_append_lt_iff 2 (by decide) htm hum, List.cons_lt_cons_self,
    Text.padded_append_lt_iff 2 (by decide) hts hus]
  simp only [List.not_lt_nil, and_false, or_false]
  unfold sinceMidnight
  omega

end TimeOfDay

namespace Timestamp

/-- The text by which a database keeps a timestamp: `YYYY-MM-DD HH:MM:SS`. -/
def stored (t : Timestamp) : List Char := t.date.iso ++ ' ' :: t.time.toSeconds

/-- **Timestamps to the second are in order as texts.** -/
theorem stored_lt_iff {x y : Timestamp} (hx : x.time.microsecond = 0)
    (hy : y.time.microsecond = 0) : x.stored < y.stored ↔ x.sinceStart < y.sinceStart := by
  have hxday : x.time.sinceMidnight < 86400000000 := x.time.sinceMidnight_lt
  have hyday : y.time.sinceMidnight < 86400000000 := y.time.sinceMidnight_lt
  have hxpos := x.date.ordinal_pos
  have hypos := y.date.ordinal_pos
  unfold stored sinceStart
  rw [Date.iso_append_lt_iff, List.cons_lt_cons_self, TimeOfDay.toSeconds_lt_iff hx hy]
  omega

theorem literalText_eq_stored {t : Timestamp} (h : 1000 ≤ t.date.year) :
    t.literalText = t.stored := by
  rw [literalText, stored, Date.literalText_of_le h]

end Timestamp

/-! ### Bounds on stored texts -/

namespace Bound

/-- What stands between the quotes of a bound's literal. -/
def text (b : Bound) : String := String.ofList b.time.literalText

/-- Whether a stored text meets a bound, compared as texts are. -/
def AcceptsText : Bound → String → Prop
  | after t, s => (after t).text < s
  | upTo t, s => s ≤ (upTo t).text

end Bound

/-- The two ends of a range of days. -/
inductive RangeEnd where
  | first
  | last
  deriving DecidableEq, Repr

namespace RangeEnd

/-- The range that has one end, at a number of days from today. -/
def range : RangeEnd → Int → Option Int × Option Int
  | first, n => (some n, none)
  | last, n => (none, some n)

/-- The ordinal of the day whose last second is the bound. -/
def ordinal (today : Date) : RangeEnd → Int → Int
  | first, n => today.ordinal - 1 + n
  | last, n => today.ordinal + n

/-- The bound by the last second of a day. -/
def bound : RangeEnd → Date → Bound
  | first, d => .after (.endOfDay d)
  | last, d => .upTo (.endOfDay d)

theorem text_bound (r : RangeEnd) (d : Date) :
    (r.bound d).text = String.ofList (Timestamp.endOfDay d).literalText := by
  cases r <;> rfl

/-- **A bound is the last second of a day.** -/
theorem exists_bound {today : Date} {r : RangeEnd} {n : Int} {bs : List Bound}
    (h : DateRange.bounds today (r.range n).1 (r.range n).2 = .ok bs) :
    ∃ d : Date, (d.ordinal : Int) = r.ordinal today n ∧ bs = [r.bound d] := by
  obtain ⟨lower, hlower, h⟩ := exists_of_bind_eq_ok h
  obtain ⟨upper, hupper, h⟩ := exists_of_bind_eq_ok h
  cases h
  cases r with
  | first =>
    cases hupper
    obtain ⟨yesterday, hyesterday, hlower⟩ := exists_of_bind_eq_ok hlower
    obtain ⟨day, hday, hlower⟩ := exists_of_bind_eq_ok hlower
    cases hlower
    have hy := Date.ordinal_of_plusDays hyesterday
    have hd := Date.ordinal_of_plusDays hday
    refine ⟨day, ?_, rfl⟩
    show (day.ordinal : Int) = today.ordinal - 1 + n
    omega
  | last =>
    cases hlower
    obtain ⟨day, hday, hupper⟩ := exists_of_bind_eq_ok hupper
    cases hupper
    exact ⟨day, Date.ordinal_of_plusDays hday, rfl⟩

theorem acceptsText_iff (r : RangeEnd) (d : Date) (x : Timestamp) :
    ((r.bound d).AcceptsText (String.ofList x.stored) ↔ (r.bound d).Accepts x) ↔
      ((Timestamp.endOfDay d).literalText < x.stored ↔
        (Timestamp.endOfDay d).sinceStart < x.sinceStart) := by
  have hlt : String.ofList (Timestamp.endOfDay d).literalText < String.ofList x.stored ↔
      (Timestamp.endOfDay d).literalText < x.stored := by
    rw [String.lt_iff, String.toList_ofList, String.toList_ofList]
  cases r with
  | first =>
    show (String.ofList (Timestamp.endOfDay d).literalText < String.ofList x.stored ↔
      (Timestamp.endOfDay d).sinceStart < x.sinceStart) ↔ _
    rw [hlt]
  | last =>
    show (¬ String.ofList (Timestamp.endOfDay d).literalText < String.ofList x.stored ↔
      x.sinceStart ≤ (Timestamp.endOfDay d).sinceStart) ↔ _
    rw [hlt, ← Nat.not_lt, not_iff_not]

/-- Before the year 1000 the text of the next new year does not come behind the literal of
a bound: the year of the literal compares with less than four digits. -/
theorem not_literalText_lt_newYear {d e : Date} (h : d.year < 1000) (he : e.year = d.year + 1)
    (s : List Char) : ¬ (Timestamp.endOfDay d).literalText < e.iso ++ s := by
  have hlen : (Text.numeral d.year).length ≤ 3 :=
    (Nat.length_toDigits_le_iff (by decide) (by decide)).mpr h
  have hwidth := Text.length_padded 4 (by decide) e.year_lt
  have hvalue : Nat.ofDigitChars 10 (Text.numeral d.year) 0 = d.year :=
    Nat.ofDigitChars_ten_toDigits
  have hpow : 10 ^ 1 ≤ 10 ^ (4 - (Text.numeral d.year).length) :=
    Nat.pow_le_pow_right (by decide) (by omega)
  have hdiv : (d.year + 1) / 10 ^ (4 - (Text.numeral d.year).length) ≤ (d.year + 1) / 10 ^ 1 :=
    Nat.div_le_div_left hpow (by decide)
  have hpos := d.year_pos
  show ¬ d.literalText ++ _ < e.iso ++ s
  rw [Date.literalText_append, Date.iso_append,
    Text.hyphened_lt_iff _ _ (by omega) (fun _ hc => Text.isDigit_of_mem_numeral hc)
      (fun _ hc => Text.isDigit_of_mem_padded hc), Text.ofDigitChars_padded, hwidth, hvalue, he]
  omega

/-- **A bound selects the same rows by text as by time** exactly when its day is of the
year 1000 or later. -/
theorem forall_acceptsText_iff (r : RangeEnd) (d : Date) :
    (∀ x : Timestamp, x.time.microsecond = 0 →
      ((r.bound d).AcceptsText (String.ofList x.stored) ↔ (r.bound d).Accepts x)) ↔
        1000 ≤ d.year := by
  constructor
  · intro h
    by_contra hearly
    have hyear := Nat.not_le.mp hearly
    let next : Date := ⟨d.year + 1, 1, 1, by omega, by omega, by decide, by
      show 1 ≤ 31
      decide⟩
    have hiff := (r.acceptsText_iff d (.beginningOfDay next)).mp (h (.beginningOfDay next) rfl)
    have hlater : d.ordinal < next.ordinal := Date.ordinal_lt_of_year_lt (Nat.lt_succ_self _)
    have htime : (Timestamp.endOfDay d).sinceStart < (Timestamp.beginningOfDay next).sinceStart :=
      (Timestamp.endOfDay_lt_iff rfl).mpr hlater
    exact not_literalText_lt_newYear hyear rfl _ (hiff.mpr htime)
  · intro hyear x hx
    rw [acceptsText_iff, Timestamp.literalText_eq_stored hyear, Timestamp.stored_lt_iff rfl hx]

theorem text_lt_iff (r r' : RangeEnd) {d e : Date} (h : d.ordinal < e.ordinal) :
    (r.bound d).text < (r'.bound e).text ↔
      d.year ≤ e.year / 10 ^ ((Text.numeral e.year).length - (Text.numeral d.year).length) := by
  rw [text_bound, text_bound, String.lt_iff, String.toList_ofList, String.toList_ofList]
  exact Date.literalText_append_lt_iff h _ _

theorem text_lt_of_le (r r' : RangeEnd) {d e : Date} (h : d.ordinal < e.ordinal)
    (hyear : 1000 ≤ d.year) : (r.bound d).text < (r'.bound e).text := by
  have hlex := Date.ordinal_lt_iff.mp h
  rw [text_bound, text_bound, String.lt_iff, String.toList_ofList, String.toList_ofList,
    Timestamp.literalText_eq_stored hyear, Timestamp.literalText_eq_stored (by
      show 1000 ≤ e.year
      omega)]
  exact (Date.iso_append_lt_iff d e _ _).mpr (.inl h)

end RangeEnd

/-! ### Ranges on an inline query -/

namespace Work

/-- A range with one end appends a bound by the last second of a day. -/
def AppendsEnd (w : Work) (field : String) (r : RangeEnd) (n : Int) (d : Date) : Prop :=
  (d.ordinal : Int) = r.ordinal w.engine.today n ∧
    w.dateRange field (r.range n).1 (r.range n).2 = .done { w with
      query := w.query.push (field ++ (r.bound d).comparison ++
        w.query.dialect.textLiteral (r.bound d).text) }

theorem exists_bounds_of_dateRange {w : Work} {field : String} {first last : Option Int}
    (h : (w.dateRange field first last).outcome = .ok ()) :
    ∃ bs, DateRange.bounds w.engine.today first last = .ok bs := by
  rcases hb : DateRange.bounds w.engine.today first last with e | bs
  · have hend := DateRange.ending_of_bounds hb
    simp only [dateRange, hend] at h
    rcases hap : w.append field (DateRange.decide w.engine.today first last) with ⟨v, o⟩
    rw [hap] at h
    cases o <;> cases h
  · exact ⟨bs, rfl⟩

/-- **A range with one end that does not fail appends its bound.** -/
theorem exists_appendsEnd {w : Work} (hi : w.query.parameterized = false) {field : String}
    {r : RangeEnd} {n : Int}
    (h : (w.dateRange field (r.range n).1 (r.range n).2).outcome = .ok ()) :
    ∃ d, w.AppendsEnd field r n d := by
  obtain ⟨bs, hbounds⟩ := exists_bounds_of_dateRange h
  obtain ⟨d, hordinal, rfl⟩ := RangeEnd.exists_bound hbounds
  refine ⟨d, hordinal, ?_⟩
  have happend := Query.appendAll_bounds_inline field [r.bound d] w.query hi
  simp only [dateRange, DateRange.decide_of_bounds hbounds, append, List.map_map,
    Function.comp_def, happend]
  rfl

/-- **Bounds sort as texts the way they sort as time from the year 1000 on.** Two ranges
with one end, the second for a later day, append literals of two days in order. As texts
the literals are in order exactly when the first year is not greater than as many leading
digits of the second one, and so always when it has four digits. On texts of the form
`YYYY-MM-DD HH:MM:SS` a bound selects the same rows as on timestamps exactly when its year
has four digits. -/
theorem dateRange_sorts {w : Work} (hi : w.query.parameterized = false) (field : String)
    {r r' : RangeEnd} (hr : r = .last → r' = .last) {i j : Int} (hij : i < j)
    (hfirst : (w.dateRange field (r.range i).1 (r.range i).2).outcome = .ok ())
    (hsecond : (w.dateRange field (r'.range j).1 (r'.range j).2).outcome = .ok ()) :
    ∃ d e : Date, w.AppendsEnd field r i d ∧ w.AppendsEnd field r' j e ∧
      ((r.bound d).text < (r'.bound e).text ↔
        d.year ≤ e.year / 10 ^ ((Text.numeral e.year).length - (Text.numeral d.year).length)) ∧
      (1000 ≤ d.year → (r.bound d).text < (r'.bound e).text) ∧
      ∀ b ∈ [(r, d), (r', e)],
        (∀ x : Timestamp, x.time.microsecond = 0 →
          ((b.1.bound b.2).AcceptsText (String.ofList x.stored) ↔ (b.1.bound b.2).Accepts x)) ↔
            1000 ≤ b.2.year := by
  obtain ⟨d, hd⟩ := exists_appendsEnd hi hfirst
  obtain ⟨e, he⟩ := exists_appendsEnd hi hsecond
  have hlater : d.ordinal < e.ordinal := by
    have hordinal := hd.1
    have hordinal' := he.1
    cases r with
    | first => cases r' <;> simp only [RangeEnd.ordinal] at hordinal hordinal' <;> omega
    | last =>
      rw [hr rfl] at hordinal'
      simp only [RangeEnd.ordinal] at hordinal hordinal'
      omega
  exact ⟨d, e, hd, he, r.text_lt_iff r' hlater, r.text_lt_of_le r' hlater,
    fun b _ => b.1.forall_acceptsText_iff b.2⟩

/-- From three days ago to the end of tomorrow, across a leap day. -/
theorem dateRange_sorts_leapDay :
    let w : Work := ⟨.standard ⟨none, none⟩
      ⟨2024, 3, 1, by decide, by decide, by decide, by decide⟩, .empty .sqlite false⟩
    (w.dateRange "due" (some (-3)) none).outcome = .ok () ∧
      (w.dateRange "due" none (some 1)).outcome = .ok () ∧
      ∃ d e : Date, w.AppendsEnd "due" .first (-3) d ∧ w.AppendsEnd "due" .last 1 e ∧
        (1000 ≤ d.year → (RangeEnd.first.bound d).text < (RangeEnd.last.bound e).text) := by
  intro w
  have hfirst : (w.dateRange "due" (some (-3)) none).outcome = .ok () :=
    Attempt.failure?_eq_none_iff.mp (by decide +kernel)
  have hsecond : (w.dateRange "due" none (some 1)).outcome = .ok () :=
    Attempt.failure?_eq_none_iff.mp (by decide +kernel)
  obtain ⟨d, e, hd, he, -, hsorts, -⟩ := @dateRange_sorts w rfl "due" .first .last
    (fun h => by cases h) (-3) 1 (by decide) hfirst hsecond
  exact ⟨hfirst, hsecond, d, e, hd, he, hsorts⟩

/-- The bound for the last day of the year 999 comes behind that for the day after. -/
theorem dateRange_yearThousand :
    let w : Work := ⟨.standard ⟨none, none⟩
      ⟨2024, 1, 17, by decide, by decide, by decide, by decide⟩, .empty .sqlite false⟩
    (w.dateRange "due" none (some (-374025))).state.query.predicates =
        ["due <= '999-12-31 23:59:59'"] ∧
      (w.dateRange "due" none (some (-374024))).state.query.predicates =
        ["due <= '1000-01-01 23:59:59'"] ∧
      ¬ "999-12-31 23:59:59" < "1000-01-01 23:59:59" := by
  refine ⟨by decide +kernel, by decide +kernel, ?_⟩
  rw [String.lt_iff]
  decide

end Work
end ReportFilter
