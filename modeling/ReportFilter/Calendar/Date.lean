/-
# Dates

Dates of the Gregorian calendar from 0001-01-01 to 9999-12-31, and their
numbering by ordinal: the first has ordinal 1, and the next day has the next
ordinal. Arithmetic goes through the ordinals.

Key definitions: `Date`, `Date.ordinal`, `Date.ofOrdinal?`, `Date.addDays?`.
Key theorems: `Date.ofOrdinal?_ordinal`, `Date.ordinal_of_ofOrdinal?`,
`Date.ofOrdinal?_isSome_iff`, `Date.ordinal_injective`.
-/

namespace ReportFilter

/-- Whether a year has a 29th of February. -/
def isLeapYear (year : Nat) : Bool :=
  year % 4 = 0 && (year % 100 != 0 || year % 400 = 0)

/-- The lengths of a year's months. -/
def monthLengths (year : Nat) : List Nat :=
  [31, if isLeapYear year then 29 else 28, 31, 30, 31, 30, 31, 31, 30, 31, 30, 31]

/-- The days of several months. -/
def totalDays : List Nat → Nat
  | [] => 0
  | days :: rest => days + totalDays rest

@[simp] theorem totalDays_nil : totalDays [] = 0 := rfl

@[simp] theorem totalDays_cons (days : Nat) (rest : List Nat) :
    totalDays (days :: rest) = days + totalDays rest := rfl

/-- The length of a month; there is no day in a month that does not exist. -/
def daysInMonth (year month : Nat) : Nat :=
  if month = 0 then 0 else (monthLengths year).getD (month - 1) 0

/-- A date. -/
structure Date where
  year : Nat
  month : Nat
  day : Nat
  year_pos : 1 ≤ year
  year_le : year ≤ 9999
  day_pos : 1 ≤ day
  day_le : day ≤ daysInMonth year month
  deriving DecidableEq, Repr

namespace Date

/-- The date with the given parts, if there is one. -/
def ofParts? (year month day : Nat) : Option Date :=
  if h : 1 ≤ year ∧ year ≤ 9999 ∧ 1 ≤ day ∧ day ≤ daysInMonth year month then
    some ⟨year, month, day, h.1, h.2.1, h.2.2.1, h.2.2.2⟩
  else none

theorem ofParts?_self (d : Date) : ofParts? d.year d.month d.day = some d := by
  simp [ofParts?, d.year_pos, d.year_le, d.day_pos, d.day_le]

theorem ofParts?_eq_some {y m dd : Nat} {d : Date} (h : ofParts? y m dd = some d) :
    d.year = y ∧ d.month = m ∧ d.day = dd := by
  simp only [ofParts?] at h
  split at h
  · injection h with h; subst h; exact ⟨rfl, rfl, rfl⟩
  · cases h

theorem month_pos (d : Date) : 1 ≤ d.month := by
  rcases Nat.eq_zero_or_pos d.month with h | h
  · have := d.day_le; have := d.day_pos; simp [daysInMonth, h] at *; omega
  · exact h

theorem month_le (d : Date) : d.month ≤ 12 := by
  rcases Nat.lt_or_ge 12 d.month with h | h
  · have h1 := d.day_le
    have h2 := d.day_pos
    have h3 : daysInMonth d.year d.month = 0 := by
      simp only [daysInMonth, monthLengths]
      rw [if_neg (by omega), List.getD_eq_getElem?_getD, List.getElem?_eq_none (by simp; omega)]
      rfl
    omega
  · exact h

/-! ### Ordinals -/

/-- The number of days before a year. -/
def daysBeforeYear (year : Nat) : Nat :=
  365 * (year - 1) + (year - 1) / 4 - (year - 1) / 100 + (year - 1) / 400

/-- The number of days of a year before a month. -/
def daysBeforeMonth (year month : Nat) : Nat :=
  totalDays ((monthLengths year).take (month - 1))

/-- The number of a date, counted from 0001-01-01 as 1. -/
def ordinal (d : Date) : Nat :=
  daysBeforeYear d.year + daysBeforeMonth d.year d.month + d.day

/-- The ordinal of 9999-12-31. -/
def lastOrdinal : Nat := 3652059

/-- The year of an ordinal. A year lasts 146097/400 days on average; the guess
from the average is off by at most one. -/
def yearOf (n : Nat) : Nat :=
  let guess := (n - 1) * 400 / 146097 + 1
  if n ≤ daysBeforeYear guess then guess - 1
  else if daysBeforeYear (guess + 1) < n then guess + 1
  else guess

/-- The month and the day of the month that a day of the year falls on, for
months of the given lengths, the first of which is number `month`. -/
def monthDay : Nat → List Nat → Nat → Nat × Nat
  | month, [], n => (month, n)
  | month, len :: rest, n => if n ≤ len then (month, n) else monthDay (month + 1) rest (n - len)

/-- The date of an ordinal, if it is in range. -/
def ofOrdinal? (n : Int) : Option Date :=
  if 1 ≤ n ∧ n ≤ lastOrdinal then
    let year := yearOf n.toNat
    let (month, day) := monthDay 1 (monthLengths year) (n.toNat - daysBeforeYear year)
    ofParts? year month day
  else none

/-- The date a number of days later, if the calendar has it. -/
def addDays? (d : Date) (days : Int) : Option Date := ofOrdinal? (d.ordinal + days)

/-! ### The two directions agree -/

theorem totalDays_monthLengths (year : Nat) :
    totalDays (monthLengths year) = if isLeapYear year then 366 else 365 := by
  simp only [monthLengths]; split <;> rfl

theorem daysBeforeYear_succ {year : Nat} (h : 1 ≤ year) :
    daysBeforeYear (year + 1) = daysBeforeYear year + totalDays (monthLengths year) := by
  obtain ⟨p, rfl⟩ : ∃ p, year = p + 1 := ⟨year - 1, by omega⟩
  have h4 : (p + 1) / 4 = p / 4 + if (p + 1) % 4 = 0 then 1 else 0 := by split <;> omega
  have h100 : (p + 1) / 100 = p / 100 + if (p + 1) % 100 = 0 then 1 else 0 := by split <;> omega
  have h400 : (p + 1) / 400 = p / 400 + if (p + 1) % 400 = 0 then 1 else 0 := by split <;> omega
  have i4 : (p + 1) % 100 = 0 → (p + 1) % 4 = 0 := by omega
  have i100 : (p + 1) % 400 = 0 → (p + 1) % 100 = 0 := by omega
  have hle : p / 100 ≤ p / 4 := by omega
  rw [totalDays_monthLengths]
  simp only [daysBeforeYear, isLeapYear, Nat.add_sub_cancel, h4, h100, h400]
  clear h4 h100 h400
  by_cases c4 : (p + 1) % 4 = 0
  · by_cases c100 : (p + 1) % 100 = 0
    · by_cases c400 : (p + 1) % 400 = 0
      · simp [c4, c100, c400]; omega
      · simp [c4, c100, c400]; omega
    · simp [c4, c100, mt i100 c100]; omega
  · simp [c4, mt i4 c4, mt i100 (mt i4 c4)]; omega

theorem daysBeforeYear_mono {a b : Nat} (ha : 1 ≤ a) (h : a ≤ b) :
    daysBeforeYear a ≤ daysBeforeYear b := by
  induction h with
  | refl => exact Nat.le_refl _
  | @step m hm ih =>
    exact Nat.le_trans ih (daysBeforeYear_succ (Nat.le_trans ha hm) ▸ Nat.le_add_right _ _)

/-- The days before a year are within two days of the average. -/
theorem daysBeforeYear_near (p : Nat) :
    146097 * p ≤ 400 * daysBeforeYear (p + 1) + 699 ∧
      400 * daysBeforeYear (p + 1) ≤ 146097 * p + 396 := by
  simp only [daysBeforeYear, Nat.add_sub_cancel]
  omega

/-- An ordinal lies within its year. -/
theorem yearOf_bounds {n : Nat} (h : 1 ≤ n) :
    1 ≤ yearOf n ∧ daysBeforeYear (yearOf n) < n ∧ n ≤ daysBeforeYear (yearOf n + 1) := by
  simp only [yearOf]
  have hp1 : 146097 * ((n - 1) * 400 / 146097) ≤ (n - 1) * 400 := Nat.mul_div_le _ _
  have hp2 : (n - 1) * 400 < 146097 * ((n - 1) * 400 / 146097) + 146097 := by omega
  generalize (n - 1) * 400 / 146097 = p at *
  split
  · rename_i hc
    rcases p with _ | p
    · simp [daysBeforeYear] at hc; omega
    · have := daysBeforeYear_near p
      simp only [Nat.add_sub_cancel]
      omega
  · rename_i hc
    split
    · rename_i hc'
      have h2 : 146097 * (p + 2) ≤ 400 * daysBeforeYear (p + 1 + 1 + 1) + 699 :=
        (daysBeforeYear_near (p + 2)).1
      omega
    · omega

theorem yearOf_eq {n year : Nat} (h1 : daysBeforeYear year < n)
    (h2 : n ≤ daysBeforeYear (year + 1)) : yearOf n = year := by
  obtain ⟨_, h4, h5⟩ := yearOf_bounds (n := n) (by omega)
  rcases Nat.lt_trichotomy (yearOf n) year with h | h | h
  · have : daysBeforeYear (yearOf n + 1) ≤ daysBeforeYear year := daysBeforeYear_mono (by omega) h
    omega
  · exact h
  · have : daysBeforeYear (year + 1) ≤ daysBeforeYear (yearOf n) :=
      daysBeforeYear_mono (by omega) h
    omega

/-- The days before a month and the day of the month add up to the day of the
year. -/
theorem monthDay_spec (ls : List Nat) (first n : Nat) (hn : 1 ≤ n) (hs : n ≤ totalDays ls) :
    ∃ k, k < ls.length ∧ monthDay first ls n = (first + k, n - totalDays (ls.take k)) ∧
      totalDays (ls.take k) < n ∧ n - totalDays (ls.take k) ≤ ls.getD k 0 := by
  induction ls generalizing first n with
  | nil => simp at hs; omega
  | cons len rest ih =>
    by_cases h : n ≤ len
    · exact ⟨0, by simp, by simp [monthDay, h], by simp; omega, by simpa using h⟩
    · simp only [totalDays_cons] at hs
      obtain ⟨k, h1, h2, h3, h4⟩ := ih (first + 1) (n - len) (by omega) (by omega)
      refine ⟨k + 1, by simpa using h1, ?_, ?_, ?_⟩
      · simp only [monthDay, h, if_false, h2, List.take_succ_cons, totalDays_cons]
        rw [Nat.sub_sub, Nat.add_assoc, Nat.add_comm 1 k]
      · simp only [List.take_succ_cons, totalDays_cons]; omega
      · simp only [List.take_succ_cons, totalDays_cons, List.getD_cons_succ]; omega

theorem monthDay_take (ls : List Nat) (first k day : Nat) (hk : k < ls.length) (hd : 1 ≤ day)
    (hl : day ≤ ls.getD k 0) :
    monthDay first ls (totalDays (ls.take k) + day) = (first + k, day) := by
  induction ls generalizing first k with
  | nil => simp at hk
  | cons len rest ih =>
    cases k with
    | zero => simp at hl; simp [monthDay, hl]
    | succ k =>
      simp only [List.length_cons, Nat.add_lt_add_iff_right] at hk
      simp only [List.getD_cons_succ] at hl
      have hs : totalDays ((len :: rest).take (k + 1)) = len + totalDays (rest.take k) := by simp
      rw [hs, monthDay, if_neg (by omega),
        show len + totalDays (rest.take k) + day - len = totalDays (rest.take k) + day by omega,
        ih (first + 1) k hk hl, Nat.add_assoc, Nat.add_comm 1 k]

theorem totalDays_take_add_le (ls : List Nat) (k : Nat) :
    totalDays (ls.take k) + ls.getD k 0 ≤ totalDays ls := by
  induction ls generalizing k with
  | nil => simp
  | cons a ls ih =>
    cases k with
    | zero => simp
    | succ k =>
      have := ih k
      simp only [List.take_succ_cons, totalDays_cons, List.getD_cons_succ]
      omega

/-- A date lies within its year. -/
theorem ordinal_bounds (d : Date) :
    daysBeforeYear d.year < d.ordinal ∧ d.ordinal ≤ daysBeforeYear (d.year + 1) := by
  have h1 := d.day_pos
  have h2 := d.day_le
  have h3 := d.month_pos
  have h4 := totalDays_take_add_le (monthLengths d.year) (d.month - 1)
  rw [daysBeforeYear_succ d.year_pos]
  simp only [ordinal, daysBeforeMonth]
  simp only [daysInMonth] at h2
  rw [if_neg (by omega)] at h2
  omega

theorem ordinal_pos (d : Date) : 1 ≤ d.ordinal := by have := d.ordinal_bounds; omega

theorem ordinal_le (d : Date) : d.ordinal ≤ lastOrdinal := by
  have h := d.ordinal_bounds.2
  have h' := daysBeforeYear_mono (b := 10000) (show 1 ≤ d.year + 1 by omega)
    (by have := d.year_le; omega)
  have : daysBeforeYear 10000 = lastOrdinal := by decide
  omega

/-- **Every date is the date of its ordinal.** -/
theorem ofOrdinal?_ordinal (d : Date) : ofOrdinal? d.ordinal = some d := by
  have h1 := d.ordinal_bounds
  have h2 := d.ordinal_pos
  have h3 := d.ordinal_le
  have hy := yearOf_eq h1.1 h1.2
  have hm := d.month_pos
  have hl := d.day_le
  simp only [daysInMonth] at hl
  rw [if_neg (by omega)] at hl
  have h12 := d.month_le
  simp only [ofOrdinal?]
  rw [if_pos (by omega)]
  simp only [Int.toNat_natCast, hy]
  rw [show d.ordinal - daysBeforeYear d.year =
    totalDays ((monthLengths d.year).take (d.month - 1)) + d.day by
      simp [ordinal, daysBeforeMonth]; omega]
  rw [monthDay_take _ _ _ _ (by simp [monthLengths]; omega) d.day_pos hl]
  simp only [show 1 + (d.month - 1) = d.month by omega]
  exact ofParts?_self d

/-- The parts of an ordinal in range are those of a date with that ordinal. -/
theorem exists_date_of_ordinal {n : Nat} (h : 1 ≤ n) (h' : n ≤ lastOrdinal) :
    ∃ d, ofOrdinal? n = some d ∧ d.ordinal = n := by
  obtain ⟨h1, h2, h3⟩ := yearOf_bounds h
  rw [daysBeforeYear_succ h1] at h3
  obtain ⟨k, hk, he, hlt, hle⟩ :=
    monthDay_spec (monthLengths (yearOf n)) 1 (n - daysBeforeYear (yearOf n)) (by omega) (by omega)
  have hy : yearOf n ≤ 9999 := by
    rcases Nat.lt_or_ge 9999 (yearOf n) with hc | hc
    · have hb := daysBeforeYear_mono (show 1 ≤ 10000 by decide) (show 10000 ≤ yearOf n from hc)
      have : daysBeforeYear 10000 = lastOrdinal := by decide
      omega
    · exact hc
  have hv : 1 ≤ yearOf n ∧ yearOf n ≤ 9999 ∧
      1 ≤ n - daysBeforeYear (yearOf n) - totalDays ((monthLengths (yearOf n)).take k) ∧
      n - daysBeforeYear (yearOf n) - totalDays ((monthLengths (yearOf n)).take k) ≤
        daysInMonth (yearOf n) (1 + k) := by
    refine ⟨h1, hy, by omega, ?_⟩
    simp only [daysInMonth]
    rw [if_neg (by omega), show 1 + k - 1 = k by omega]
    exact hle
  refine ⟨⟨yearOf n, 1 + k, _, hv.1, hv.2.1, hv.2.2.1, hv.2.2.2⟩, ?_, ?_⟩
  · simp only [ofOrdinal?]
    rw [if_pos (by omega)]
    simp only [Int.toNat_natCast, he, ofParts?]
    rw [dif_pos hv]
  · simp only [ordinal, daysBeforeMonth, show 1 + k - 1 = k by omega]
    omega

/-- **The date of an ordinal has that ordinal.** -/
theorem ordinal_of_ofOrdinal? {n : Int} {d : Date} (h : ofOrdinal? n = some d) :
    (d.ordinal : Int) = n := by
  have hr : 1 ≤ n ∧ n ≤ lastOrdinal := by
    by_cases hr : 1 ≤ n ∧ n ≤ lastOrdinal
    · exact hr
    · simp [ofOrdinal?, hr] at h
  obtain ⟨m, rfl⟩ := Int.eq_ofNat_of_zero_le (show 0 ≤ n by omega)
  obtain ⟨e, he, ho⟩ := exists_date_of_ordinal (n := m) (by omega) (by omega)
  rw [he] at h
  injection h with h
  rw [← h, ho]

/-- The ordinals of dates are those from the first to the last. -/
theorem ofOrdinal?_isSome_iff {n : Int} :
    (ofOrdinal? n).isSome = true ↔ 1 ≤ n ∧ n ≤ lastOrdinal := by
  constructor
  · intro h
    by_cases hr : 1 ≤ n ∧ n ≤ lastOrdinal
    · exact hr
    · simp [ofOrdinal?, hr] at h
  · intro h
    obtain ⟨m, rfl⟩ := Int.eq_ofNat_of_zero_le (show 0 ≤ n by omega)
    obtain ⟨e, he, _⟩ := exists_date_of_ordinal (n := m) (by omega) (by omega)
    simp [he]

theorem ordinal_injective {a b : Date} (h : a.ordinal = b.ordinal) : a = b := by
  have ha := ofOrdinal?_ordinal a
  rw [h, ofOrdinal?_ordinal b] at ha
  exact (Option.some.inj ha).symm

/-- A later date's ordinal is larger by the number of days. -/
theorem ordinal_of_addDays? {d e : Date} {days : Int} (h : d.addDays? days = some e) :
    (e.ordinal : Int) = d.ordinal + days := ordinal_of_ofOrdinal? h

end Date
end ReportFilter
