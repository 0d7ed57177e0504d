/-
# Literals of dates read back

A literal shows a date in the ISO form, and a timestamp to the second, without its
offset. Both are made of numbers of a fixed width, and a number of a fixed width
reads back (`Iso.takeNumber_padded`), so date, time of day and timestamp read back one
after the other. The year has its four digits from 1000 on.

So the literal that a filter on dates writes into an inline query denotes, to the
second, the date that the same filter binds in the other mode
(`Work.date_of_literal`).

Key definitions: `Timestamp.wholeSecond`, `Moment.wholeSecond`, `Moment.literalText`.
Key theorems: `Iso.takeNumber_padded`, `Iso.readDate?_iso`, `Iso.readTimestamp?_iso`,
`Moment.readText?_literalText`, `Work.date_of_literal`.
-/
import Mathlib.Algebra.Group.Nat.Defs
import Mathlib.Data.List.TakeWhile
import ReportFilter.Proofs.DateFilters

namespace ReportFilter

/-! ### Numbers of a fixed width -/

namespace Text

theorem length_padded (width : Nat) {n : Nat} (hw : 0 < width) (hn : n < 10 ^ width) :
    (padded width n).length = width := by
  have hle : (numeral n).length ≤ width := (Nat.length_toDigits_le_iff (by decide) hw).mpr hn
  rw [padded, List.length_append, List.length_replicate]
  omega

theorem isDigit_of_mem_padded {width n : Nat} {c : Char} (h : c ∈ padded width n) :
    c.isDigit = true := by
  rcases List.mem_append.mp h with h | h
  · rw [List.eq_of_mem_replicate h]
    decide
  · exact Nat.isDigit_of_mem_toDigits (by decide) (by decide) h

theorem padded_ne_nil (width n : Nat) : padded width n ≠ [] := by
  rw [padded, Ne, List.append_eq_nil_iff]
  exact fun h => Nat.toDigits_ne_nil h.2

theorem exists_digit_padded (width n : Nat) :
    ∃ c s, padded width n = c :: s ∧ c.isDigit = true := by
  obtain ⟨c, s, h⟩ := List.exists_cons_of_ne_nil (padded_ne_nil width n)
  exact ⟨c, s, h, isDigit_of_mem_padded (h ▸ List.mem_cons_self)⟩

/-- Zeros in front do not change the number. -/
theorem ofDigitChars_padded (width n : Nat) : Nat.ofDigitChars 10 (padded width n) 0 = n := by
  rw [padded, Nat.ofDigitChars_append, Nat.ofDigitChars_replicate_zero, Nat.mul_zero]
  exact Nat.ofDigitChars_ten_toDigits

/-- A number that fills its width has no zeros in front. -/
theorem padded_succ_of_le (width : Nat) {n : Nat} (h : 10 ^ width ≤ n) :
    padded (width + 1) n = numeral n := by
  have hlength : width + 1 ≤ (numeral n).length := by
    by_contra hlt
    rcases Nat.eq_zero_or_pos width with rfl | hw
    · have := Nat.length_toDigits_pos (b := 10) (n := n)
      rw [numeral] at hlt
      omega
    · have hn : n < 10 ^ width := (Nat.length_toDigits_le_iff (by decide) hw).mp (by
        rw [numeral] at hlt
        omega)
      omega
  rw [padded, Nat.sub_eq_zero_of_le hlength]
  rfl

end Text

namespace Iso

theorem takeNumber_append (s : List Char) : ∀ (ds : List Char) (value : Nat),
    (∀ c ∈ ds, c.isDigit = true) →
      takeNumber ds.length value (ds ++ s) = some (Nat.ofDigitChars 10 ds value, s)
  | [], _, _ => rfl
  | c :: ds, value, h => by
    have hc := h c List.mem_cons_self
    have ih := takeNumber_append s ds (10 * value + (c.toNat - '0'.toNat)) fun x hx =>
      h x (List.mem_cons_of_mem _ hx)
    rw [List.length_cons, List.cons_append, takeNumber, if_pos hc, ih, Nat.ofDigitChars_cons]

/-- **A number of a fixed width reads back.** -/
theorem takeNumber_padded (width : Nat) {n : Nat} (hw : 0 < width) (hn : n < 10 ^ width)
    (s : List Char) : takeNumber width 0 (Text.padded width n ++ s) = some (n, s) := by
  have h := takeNumber_append s (Text.padded width n) 0 fun c hc => Text.isDigit_of_mem_padded hc
  rwa [Text.length_padded width hw hn, Text.ofDigitChars_padded] at h

/-- A text of characters of one octet has as many places. -/
theorem octets_of_ascii {s : List Char} (h : ∀ c ∈ s, c.utf8Size = 1) : octets s = s := by
  induction s with
  | nil => rfl
  | cons c s ih =>
    have ih := ih fun x hx => h x (List.mem_cons_of_mem _ hx)
    rw [octets] at ih ⊢
    rw [List.flatMap_cons, ih, h c List.mem_cons_self]
    rfl

theorem utf8Size_of_isDigit {c : Char} (h : c.isDigit = true) : c.utf8Size = 1 := by
  have h57 : c.val.toNat ≤ 57 := (Char.isDigit_iff_toNat.mp h).2
  refine Char.utf8Size_eq_one_iff.mpr ?_
  show c.val.toNat ≤ 127
  omega

theorem utf8Size_of_mem_padded {width n : Nat} : ∀ c ∈ Text.padded width n, c.utf8Size = 1 :=
  fun _ hc => utf8Size_of_isDigit (Text.isDigit_of_mem_padded hc)

end Iso

/-! ### Dates -/

namespace Date

theorem day_lt_hundred (d : Date) : d.day < 100 := by
  have hlengths : ∀ days ∈ monthLengths d.year, days ≤ 31 := by
    intro days hdays
    simp only [monthLengths, List.mem_cons, List.not_mem_nil, or_false] at hdays
    split at hdays <;> omega
  have hle : daysInMonth d.year d.month ≤ 31 := by
    unfold daysInMonth
    split
    · omega
    · rw [List.getD_eq_getElem?_getD]
      rcases hget : (monthLengths d.year)[d.month - 1]? with _ | days
      · exact Nat.zero_le _
      · exact hlengths days (List.mem_of_getElem? hget)
  have := d.day_le
  omega

theorem month_lt_hundred (d : Date) : d.month < 100 := by
  have := d.month_le
  omega

theorem year_lt (d : Date) : d.year < 10 ^ 4 := by
  have := d.year_le
  omega

theorem iso_append (d : Date) (s : List Char) :
    d.iso ++ s = Text.padded 4 d.year ++
      '-' :: (Text.padded 2 d.month ++ '-' :: (Text.padded 2 d.day ++ s)) := by
  simp [iso]

theorem length_iso (d : Date) : d.iso.length = 10 := by
  have hy := Text.length_padded 4 (by decide) d.year_lt
  have hm := Text.length_padded 2 (by decide) d.month_lt_hundred
  have hd := Text.length_padded 2 (by decide) d.day_lt_hundred
  simp only [iso, List.length_append, List.length_cons, hy, hm, hd]

/-- From the year 1000 on the form that a database reads is the ISO form. -/
theorem literalText_of_le {d : Date} (h : 1000 ≤ d.year) : d.literalText = d.iso := by
  rw [literalText, iso, Text.padded_succ_of_le 3 h]

end Date

namespace Iso

theorem utf8Size_of_mem_iso (d : Date) : ∀ c ∈ d.iso, c.utf8Size = 1 := by
  intro c hc
  rw [Date.iso] at hc
  simp only [List.mem_append, List.mem_cons] at hc
  rcases hc with (hc | rfl | hc) | rfl | hc
  · exact utf8Size_of_mem_padded c hc
  · decide
  · exact utf8Size_of_mem_padded c hc
  · decide
  · exact utf8Size_of_mem_padded c hc

/-- **A date in the ISO form reads back**, whatever follows it. -/
theorem readDate?_iso (d : Date) (rest : List Char) :
    readDate? 10 (d.iso ++ rest) = some d := by
  obtain ⟨c, s, hc, hdigit⟩ := Text.exists_digit_padded 2 d.month
  have hy := takeNumber_padded 4 (by decide) d.year_lt
  have hm := takeNumber_padded 2 (by decide) d.month_lt_hundred
  have hd := takeNumber_padded 2 (by decide) d.day_lt_hundred
  have hW : c ≠ 'W' := by
    rintro rfl
    cases hdigit
  rw [d.iso_append, readDate?, hy]
  simp only [Option.bind_eq_bind, Option.bind_some, List.head?_cons, decide_true, if_true,
    List.drop_one, List.tail_cons]
  -- a W behind the year would start the number of a week
  rw [hc, List.cons_append]
  split
  · rename_i h
    exact absurd (List.cons.inj h).1 hW
  · rw [← List.cons_append, ← hc, hm]
    simp only [Option.bind_some, dropHyphen?, if_true, hd]
    exact d.ofParts?_self

end Iso

/-! ### Times -/

namespace TimeOfDay

/-- A time of day without its fraction of a second. -/
def wholeSecond (t : TimeOfDay) : TimeOfDay :=
  { t with microsecond := 0, microsecond_lt := Nat.succ_pos 999999 }

theorem toSeconds_eq (t : TimeOfDay) :
    t.toSeconds = Text.padded 2 t.hour ++
      ':' :: (Text.padded 2 t.minute ++ ':' :: Text.padded 2 t.second) := by
  simp [toSeconds]

/-- A time of day is written with digits and colons. -/
theorem of_mem_toSeconds {t : TimeOfDay} {c : Char} (h : c ∈ t.toSeconds) :
    c.isDigit = true ∨ c = ':' := by
  rw [toSeconds_eq] at h
  simp only [List.mem_append, List.mem_cons] at h
  rcases h with h | rfl | h | rfl | h
  · exact .inl (Text.isDigit_of_mem_padded h)
  · exact .inr rfl
  · exact .inl (Text.isDigit_of_mem_padded h)
  · exact .inr rfl
  · exact .inl (Text.isDigit_of_mem_padded h)

end TimeOfDay

namespace Iso

theorem readParts?_colon {n : Nat} (hn : n < 100) (left : Nat) {colons : Option Bool}
    (hcolons : colons.getD true = true) {s : List Char} (hs : s ≠ []) :
    readParts? (left + 1) colons (Text.padded 2 n ++ ':' :: s) =
      (readParts? left (some true) s).map fun y => (n :: y.1, y.2) := by
  obtain ⟨c, s', rfl⟩ := List.exists_cons_of_ne_nil hs
  have hn := takeNumber_padded 2 (by decide) hn (':' :: c :: s')
  rw [readParts?, hn]
  simp only [Option.bind_eq_bind, Option.bind_some, hcolons, beq_self_eq_true, Bool.and_self,
    if_true]
  cases readParts? left (some true) (c :: s') <;> rfl

theorem readParts?_last {n : Nat} (hn : n < 100) (left : Nat) (colons : Option Bool) :
    readParts? (left + 1) colons (Text.padded 2 n) = some ([n], 0, true) := by
  have hn := takeNumber_padded 2 (by decide) hn []
  rw [List.append_nil] at hn
  rw [readParts?, hn]
  rfl

theorem not_isZoneMark_of_isDigit {c : Char} (h : c.isDigit = true) : (!isZoneMark c) = true := by
  rw [isZoneMark, Bool.not_eq_true', Bool.or_eq_false_iff, Bool.or_eq_false_iff]
  refine ⟨⟨?_, ?_⟩, ?_⟩ <;>
    · rw [beq_eq_false_iff_ne]
      rintro rfl
      cases h

/-- **A time of day in writing reads back** to the second. -/
theorem readTime?_toSeconds (t : TimeOfDay) :
    readTime? t.toSeconds = some (t.wholeSecond, none) := by
  have hmark : ∀ c ∈ t.toSeconds, (!isZoneMark c) = true := by
    intro c hc
    rcases TimeOfDay.of_mem_toSeconds hc with hdigit | rfl
    · exact not_isZoneMark_of_isDigit hdigit
    · decide
  have htake : t.toSeconds.takeWhile (!isZoneMark ·) = t.toSeconds :=
    List.takeWhile_eq_self_iff.mpr hmark
  have hdrop : t.toSeconds.dropWhile (!isZoneMark ·) = [] := List.dropWhile_eq_nil_iff.mpr hmark
  have hhour := t.hour_lt
  have hminute := t.minute_lt
  have hsecond := t.second_lt
  have hclock : readClock? t.toSeconds = some ((t.hour, t.minute, t.second, 0), true) := by
    rw [readClock?, TimeOfDay.toSeconds_eq, readParts?_colon (by omega) 2 rfl (by simp),
      readParts?_colon (by omega) 1 rfl (Text.padded_ne_nil 2 t.second),
      readParts?_last (by omega)]
    rfl
  have hparts : TimeOfDay.ofParts? t.hour t.minute t.second 0 = some t.wholeSecond :=
    t.wholeSecond.ofParts?_self
  rw [readTime?, htake, hdrop, hclock]
  simp only [Option.bind_eq_bind, Option.bind_some, if_true, hparts]

end Iso

/-! ### Timestamps -/

/-- A timestamp without its fraction of a second and its offset. -/
def Timestamp.wholeSecond (t : Timestamp) : Timestamp := ⟨t.date, t.time.wholeSecond, none⟩

namespace Iso

/-- A timestamp starts with ten places of its date in the ISO form. -/
theorem dateLength?_iso (d : Date) (s : List Char) :
    dateLength? (d.iso ++ s) = some 10 := by
  have hlength : (d.iso ++ s).length ≠ 7 := by
    rw [List.length_append, d.length_iso]
    omega
  obtain ⟨c, m, hc, hdigit⟩ := Text.exists_digit_padded 2 d.month
  have hyear := Text.length_padded 4 (by decide) d.year_lt
  have hhyphen : (d.iso ++ s)[4]? = some '-' := by
    rw [d.iso_append, List.getElem?_append_right (by omega), hyear]
    rfl
  have hmonth : (d.iso ++ s)[5]? = some c := by
    rw [d.iso_append, List.getElem?_append_right (by omega), hyear, hc]
    rfl
  have hW : some c ≠ some 'W' := by
    rintro ⟨⟩
    cases hdigit
  simp only [dateLength?]
  rw [if_neg hlength, if_pos hhyphen, hmonth, if_neg hW]

/-- **A timestamp in writing reads back** to the second. -/
theorem readTimestamp?_iso (d : Date) (t : TimeOfDay) :
    readTimestamp? (d.iso ++ ' ' :: t.toSeconds) = some ⟨d, t.wholeSecond, none⟩ := by
  have hdrop : (d.iso ++ ' ' :: t.toSeconds).drop 10 = ' ' :: t.toSeconds :=
    List.drop_left' d.length_iso
  have hsep : t.toSeconds.drop ((' ').utf8Size - 1) = t.toSeconds := rfl
  rw [readTimestamp?, dateLength?_iso]
  simp only [Option.bind_eq_bind, Option.bind_some, readDate?_iso, hdrop, hsep,
    readTime?_toSeconds]

end Iso

/-! ### Literals -/

namespace Text

theorem isBlank_of_isDigit {c : Char} (h : c.isDigit = true) : isBlank c = false := by
  have h48 : 48 ≤ c.toNat := (Char.isDigit_iff_toNat.mp h).1
  have h57 : c.toNat ≤ 57 := (Char.isDigit_iff_toNat.mp h).2
  have hranges : ∀ r ∈ blankRanges, r.2 < 48 ∨ 57 < r.1 := by decide
  rw [isBlank, Bool.eq_false_iff]
  intro hwithin
  obtain ⟨r, hr, hfirst, hlast⟩ := within_iff.mp hwithin
  have := hranges r hr
  omega

/-- White space is cut off neither in front of digits nor behind them. -/
theorem trim_between_digits {a b : List Char} (s : List Char) (ha : a ≠ []) (hb : b ≠ [])
    (hda : ∀ c ∈ a, c.isDigit = true) (hdb : ∀ c ∈ b, c.isDigit = true) :
    trim (a ++ s ++ b) = a ++ s ++ b := by
  have hkeep : ∀ l r : List Char, l ≠ [] → (∀ c ∈ l, c.isDigit = true) →
      (l ++ r).dropWhile isBlank = l ++ r := by
    intro l r hl hd
    obtain ⟨c, l, rfl⟩ := List.exists_cons_of_ne_nil hl
    have hc := isBlank_of_isDigit (hd c List.mem_cons_self)
    exact List.dropWhile_cons_of_neg (by rw [hc]; decide)
  have hreverse : (a ++ s ++ b).reverse = b.reverse ++ (a ++ s).reverse := List.reverse_append
  rw [trim, List.append_assoc, hkeep a (s ++ b) ha hda, ← List.append_assoc, hreverse,
    hkeep b.reverse _ (by simpa using hb) (by simpa using hdb), ← hreverse, List.reverse_reverse]

end Text

namespace Moment

/-- What a literal shows of a moment: a timestamp has neither fraction nor offset. -/
def wholeSecond : Moment → Moment
  | date d => date d
  | timestamp t => timestamp t.wholeSecond

/-- The text of a literal. -/
def literalText : Moment → List Char
  | date d => d.literalText
  | timestamp t => t.literalText

theorem literal_toValue (d : Dialect) (m : Moment) :
    d.literal m.toValue = .ok (d.textLiteral (String.ofList m.literalText)) := by
  cases m <;> rfl

theorem trim_literalText (m : Moment) : Text.trim m.literalText = m.literalText := by
  have hends : ∀ (year n : Nat) (s : List Char),
      Text.trim (Text.numeral year ++ s ++ Text.padded 2 n) =
        Text.numeral year ++ s ++ Text.padded 2 n := fun year n s =>
    Text.trim_between_digits s Nat.toDigits_ne_nil (Text.padded_ne_nil 2 n)
      (fun _ hc => Nat.isDigit_of_mem_toDigits (by decide) (by decide) hc)
      fun _ hc => Text.isDigit_of_mem_padded hc
  cases m with
  | date d =>
    have h := hends d.year d.day ('-' :: Text.padded 2 d.month ++ ['-'])
    simpa [literalText, Date.literalText] using h
  | timestamp t =>
    have h := hends t.date.year t.time.second ('-' :: Text.padded 2 t.date.month ++ '-' ::
      Text.padded 2 t.date.day ++ ' ' :: Text.padded 2 t.time.hour ++ ':' ::
        Text.padded 2 t.time.minute ++ [':'])
    simpa [literalText, Timestamp.literalText, Date.literalText, TimeOfDay.toSeconds] using h

/-- **A literal of a date or a timestamp reads back** to the second, when the year has
its four digits. -/
theorem readText?_literalText {m : Moment} (h : 1000 ≤ m.day.year) :
    DateInput.readText? m.literalText = some m.wholeSecond := by
  have htrim := m.trim_literalText
  cases m with
  | date d =>
    have hiso : literalText (date d) = d.iso := Date.literalText_of_le h
    have hoctets : Iso.octets d.iso = d.iso := Iso.octets_of_ascii (Iso.utf8Size_of_mem_iso d)
    have hread := Iso.readDate?_iso d []
    rw [List.append_nil] at hread
    rw [DateInput.readText?, htrim, hiso]
    simp only [d.length_iso, if_true, Date.readIso?, hoctets, hread]
    rfl
  | timestamp t =>
    have hiso : literalText (timestamp t) = t.date.iso ++ ' ' :: t.time.toSeconds := by
      rw [literalText, Timestamp.literalText, Date.literalText_of_le (d := t.date) h]
    have hlength : (t.date.iso ++ ' ' :: t.time.toSeconds).length ≠ 10 := by
      simp [t.date.length_iso]
    have hoctets : Iso.octets (t.date.iso ++ ' ' :: t.time.toSeconds) =
        t.date.iso ++ ' ' :: t.time.toSeconds := by
      refine Iso.octets_of_ascii fun c hc => ?_
      rcases List.mem_append.mp hc with hc | hc
      · exact Iso.utf8Size_of_mem_iso _ c hc
      rcases List.mem_cons.mp hc with rfl | hc
      · decide
      rcases TimeOfDay.of_mem_toSeconds hc with hdigit | rfl
      · exact Iso.utf8Size_of_isDigit hdigit
      · decide
    rw [DateInput.readText?, htrim, hiso]
    simp only [hlength, if_false, Timestamp.readIso?, hoctets, Iso.readTimestamp?_iso]
    rfl

end Moment

/-! ### The filter -/

/-- Values that all read as dates pass the validator. -/
theorem Validator.checkDates_of_moments : ∀ {values : List Value} {moments : List Moment},
    (∀ v ∈ values, v.isBlank = .ok false) → values.mapM DateInput.read = .ok moments →
      checkDates values = .ok ()
  | [], _, _, _ => rfl
  | v :: values, moments, hthere, hread => by
    rw [List.mapM_cons] at hread
    obtain ⟨m, hm, hread⟩ := exists_of_bind_eq_ok hread
    obtain ⟨rest, hrest, -⟩ := exists_of_bind_eq_ok hread
    have ih := checkDates_of_moments (fun u hu => hthere u (List.mem_cons_of_mem _ hu)) hrest
    rw [checkDates, hthere v List.mem_cons_self, hm, ih]
    rfl

theorem DateInput.read_text (s : String) :
    read (.text s) = (readText? s.toList).elim (.error (.invalidDate (.text s))) .ok :=
  read_of_plain rfl (Value.plain_text s)

/-- A text that reads as a date is not blank. -/
theorem Value.isBlank_of_read {s : String} {m : Moment} (h : DateInput.read (.text s) = .ok m) :
    (Value.text s).isBlank = .ok false := by
  have hblank : (Value.text s).isBlank = .ok (s.toList.all Text.isBlank) := rfl
  rw [hblank]
  congr 1
  by_contra hall
  have htrim : Text.trim s.toList = [] := Text.trim_eq_nil_iff.mpr (by simpa using hall)
  have hnone : DateInput.readText? s.toList = Option.none := by
    rw [DateInput.readText?, htrim]
    rfl
  rw [DateInput.read_text, hnone] at h
  cases h

namespace Work

/-- Dates pass the validator and become one predicate. -/
theorem applyFilter_of_moments {w : Work} (hr : w.engine.registry = .standard)
    (hdates : w.engine.validators.get "dates" = .ok .dates) {f : DateFilter} {op : Operator}
    (hget : Registry.standard.get? f.operator = some op) (field : String) {values : List Value}
    (hlen : values.length = f.count) (hthere : ∀ v ∈ values, v.isBlank = .ok false)
    {moments : List Moment} (hread : values.mapM DateInput.read = .ok moments) :
    ∃ q, w.query.States (f.frame field moments) q ∧
      w.applyFilter field (.text f.operator) values = .done { w with query := q } := by
  obtain ⟨hop, -, -⟩ := DateFilter.of_get? hget
  have hfind : w.engine.registry.find (.text f.operator) = .ok op := by
    rw [hr]
    exact Registry.find_of_get? hget
  have hvalidate : w.validate op values = .done w := by
    rw [validate_dates hdates hop, Validator.checkDates_of_moments hthere hread]
    rfl
  obtain ⟨-, q, hstates, hmodify⟩ := modify_of_moments hr hget field hlen hthere hread
  refine ⟨q, hstates, ?_⟩
  rw [applyFilter_of_find hfind, hvalidate, Attempt.andThen_done, hmodify]

/-- A text that reads as a date becomes the bound of a comparison. -/
theorem applyFilter_upTo {w : Work} (hr : w.engine.registry = .standard)
    (hdates : w.engine.validators.get "dates" = .ok .dates) (field : String) {s : String}
    {m : Moment} (hs : DateInput.read (.text s) = .ok m) :
    ∃ q, w.query.States (.compared field " <= " m.toValue) q ∧
      w.applyFilter field (.text "<d") [.text s] = .done { w with query := q } := by
  obtain ⟨op, hget⟩ := Option.isSome_iff_exists.mp
    (show (Registry.standard.get? DateFilter.upTo.operator).isSome = true by decide)
  have hread : [Value.text s].mapM DateInput.read = .ok [m] := by
    rw [List.mapM_cons, hs]
    rfl
  have hthere : ∀ v ∈ [Value.text s], v.isBlank = .ok false := by
    intro v hv
    rw [List.mem_singleton.mp hv]
    exact Value.isBlank_of_read hs
  have hframe : DateFilter.upTo.frame field [m] = .compared field " <= " m.toValue := rfl
  obtain ⟨q, hstates, happly⟩ := applyFilter_of_moments hr hdates hget field rfl hthere hread
  rw [hframe] at hstates
  exact ⟨q, hstates, happly⟩

/-- **The literal of a date is the date that the other mode binds**, to the second. The
filter's predicate on an inline query ends with a literal, and the content of the
literal reads as the date that the filter keeps on a query with bind parameters,
without its fraction of a second and its offset. -/
theorem date_of_literal {w v : Work} (hr : w.engine.registry = .standard)
    (hdates : w.engine.validators.get "dates" = .ok .dates) (he : v.engine = w.engine)
    (hw : w.query.parameterized = false) (hv : v.query.parameterized = true) (field : String)
    {s : String} {m : Moment} (hs : DateInput.read (.text s) = .ok m)
    (hyear : 1000 ≤ m.day.year) :
    ∃ literal content : String,
      w.applyFilter field (.text "<d") [.text s] = .done { w with query := { w.query with
        predicates := w.query.predicates ++ [field ++ " <= " ++ literal] } } ∧
      w.query.dialect.literalRule.read literal.toList = some (content.toList, []) ∧
      v.applyFilter field (.text "<d") [.text s] = .done { v with query := { v.query with
        predicates := v.query.predicates ++
          [field ++ " <= " ++ v.query.dialect.placeholder (v.query.parameters.length + 1 : Nat)]
        parameters := v.query.parameters ++ [m.toValue] } } ∧
      DateInput.read (.text content) = .ok m.wholeSecond := by
  obtain ⟨q, hq, hinline⟩ := applyFilter_upTo hr hdates field hs
  obtain ⟨p, hp, hbound⟩ := applyFilter_upTo (w := v) (by rwa [he]) (by rwa [he]) field hs
  refine ⟨w.query.dialect.textLiteral (String.ofList m.literalText),
    String.ofList m.literalText, ?_, ?_, ?_, ?_⟩
  · rw [Query.States, if_neg (by rw [hw]; decide), Frame.inline_compared,
      Moment.literal_toValue] at hq
    obtain ⟨predicate, hpredicate, rfl⟩ := hq
    cases hpredicate
    exact hinline
  · have h := LiteralRule.read_quoted w.query.dialect m.literalText (t := []) (by decide)
    rw [List.append_nil] at h
    rw [Dialect.toList_textLiteral, String.toList_ofList]
    exact h
  · rw [Query.States, if_pos hv] at hp
    subst hp
    rw [hbound, Frame.numbered_compared]
    rfl
  · rw [DateInput.read_text, String.toList_ofList, Moment.readText?_literalText hyear]
    rfl

/-- A week, whose date stands in the literal. -/
theorem date_of_literal_week :
    let e := Engine.standard ⟨none, none⟩ ⟨2024, 1, 17, by decide, by decide, by decide, by decide⟩
    let w : Work := ⟨e, .empty .mysql false⟩
    let v : Work := ⟨e, .empty .mysql true⟩
    let m : Moment := .timestamp
      ⟨⟨2024, 2, 29, by decide, by decide, by decide, by decide⟩,
        ⟨8, 15, 0, 0, by decide, by decide, by decide, by decide⟩, some .zero⟩
    w.engine.registry = .standard ∧ w.engine.validators.get "dates" = .ok .dates ∧
      v.engine = w.engine ∧ w.query.parameterized = false ∧ v.query.parameterized = true ∧
      DateInput.read (.text " 2024-W09-4T08:15Z") = .ok m ∧ 1000 ≤ m.day.year ∧
      ∃ literal content : String,
        w.applyFilter "created" (.text "<d") [.text " 2024-W09-4T08:15Z"] =
          .done { w with query := { w.query with
            predicates := w.query.predicates ++ ["created" ++ " <= " ++ literal] } } ∧
        w.query.dialect.literalRule.read literal.toList = some (content.toList, []) ∧
        v.applyFilter "created" (.text "<d") [.text " 2024-W09-4T08:15Z"] =
          .done { v with query := { v.query with
            predicates := v.query.predicates ++ ["created" ++ " <= " ++
              v.query.dialect.placeholder (v.query.parameters.length + 1 : Nat)]
            parameters := v.query.parameters ++ [m.toValue] } } ∧
        DateInput.read (.text content) = .ok m.wholeSecond := by
  intro e w v m
  have hs : DateInput.read (.text " 2024-W09-4T08:15Z") = .ok m := by decide +kernel
  have hyear : 1000 ≤ m.day.year := by decide
  exact ⟨rfl, rfl, rfl, rfl, rfl, hs, hyear,
    date_of_literal (w := w) (v := v) rfl rfl rfl rfl rfl "created" hs hyear⟩

/-- The fraction of a second is not in the literal. -/
theorem literal_withoutFraction :
    let e := Engine.standard ⟨none, none⟩ ⟨2024, 1, 17, by decide, by decide, by decide, by decide⟩
    let w : Work := ⟨e, .empty .postgresql false⟩
    let v : Work := ⟨e, .empty .postgresql true⟩
    let s := "2024-01-31 08:15:30.5"
    (∃ m, DateInput.read (.text s) = .ok m) ∧
      ¬ ∃ (literal content : String) (m : Moment),
        (w.applyFilter "created" (.text "<d") [.text s]).state.query.predicates =
          ["created <= " ++ literal] ∧
        w.query.dialect.literalRule.read literal.toList = some (content.toList, []) ∧
        (v.applyFilter "created" (.text "<d") [.text s]).state.query.parameters = [m.toValue] ∧
        DateInput.read (.text content) = .ok m := by
  intro e w v s
  let m₀ : Moment := .timestamp ⟨⟨2024, 1, 31, by decide, by decide, by decide, by decide⟩,
    ⟨8, 15, 30, 500000, by decide, by decide, by decide, by decide⟩, none⟩
  have hs : DateInput.read (.text s) = .ok m₀ := by decide +kernel
  have hpredicates : (w.applyFilter "created" (.text "<d") [.text s]).state.query.predicates =
      ["created <= " ++ "'2024-01-31 08:15:30'"] := by decide +kernel
  have hcontent : w.query.dialect.literalRule.read "'2024-01-31 08:15:30'".toList =
      some ("2024-01-31 08:15:30".toList, []) := by decide +kernel
  have hparameters : (v.applyFilter "created" (.text "<d") [.text s]).state.query.parameters =
      [m₀.toValue] := by decide +kernel
  have hread : DateInput.read (.text "2024-01-31 08:15:30") = .ok m₀.wholeSecond := by
    decide +kernel
  refine ⟨⟨m₀, hs⟩, ?_⟩
  rintro ⟨literal, content, m, hliteral, hreads, hbound, hdenotes⟩
  rw [hpredicates, List.singleton_inj, String.append_right_inj] at hliteral
  subst hliteral
  rw [hcontent, Option.some_inj, Prod.mk.injEq, String.toList_inj] at hreads
  rw [hparameters, List.singleton_inj] at hbound
  rw [← hreads.1, hread] at hdenotes
  cases hdenotes
  exact absurd hbound (by decide)

end Work
end ReportFilter
