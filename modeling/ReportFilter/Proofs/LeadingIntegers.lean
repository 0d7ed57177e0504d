/-
# Leading integers of texts

The integer that a text starts with is written by an optional sign and a row of digits,
behind white space and up to a character that is no digit (`LeadingInteger.Lead`). Digits
are those of every script, worth their place in the block of ten that they come from.
They are neither white space nor signs, so a text has at most one such beginning
(`LeadingInteger.startsWithInteger_iff`), and it does not matter that white space, sign and
digits are taken off in one pass: cutting out sign and digits first and reading them as
an integer, the way a setting is read, gives the same number
(`LeadingInteger.Lead.integer?_written`).

Key definitions: `LeadingInteger.Lead`, `LeadingInteger.StartsWithInteger`.
Key theorems: `LeadingInteger.Lead.read_text`, `LeadingInteger.Lead.integer?_written`,
`LeadingInteger.read_of_not_startsWithInteger`, `LeadingInteger.ofValue_text_eq`.
-/
import ReportFilter.LeadingInteger
import ReportFilter.Proofs.DateLiterals
import ReportFilter.Proofs.GroupedAmounts
import ReportFilter.Text.Grouped

namespace ReportFilter

/-! ### Digits, white space and signs -/

namespace Text

theorem exists_zero_of_isDigit {c : Char} (h : isDigit c = true) :
    ∃ z ∈ digitZeros, z ≤ c.toNat ∧ c.toNat < z + 10 := by
  obtain ⟨d, hd⟩ := Option.isSome_iff_exists.mp h
  obtain ⟨z, hz, -⟩ := Option.map_eq_some_iff.mp hd
  have hrange := List.find?_some hz
  simp only [Bool.and_eq_true, decide_eq_true_eq] at hrange
  exact ⟨z, List.mem_of_find?_eq_some hz, hrange⟩

/-- No block of digits meets a range of white space. -/
theorem not_isBlank_of_isDigit {c : Char} (h : isDigit c = true) : isBlank c = false := by
  have hapart : ∀ z ∈ digitZeros, ∀ r ∈ blankRanges, r.2 < z ∨ z + 10 ≤ r.1 := by decide
  obtain ⟨z, hz, hfirst, hlast⟩ := exists_zero_of_isDigit h
  rw [isBlank, Bool.eq_false_iff]
  intro hblank
  obtain ⟨r, hr, hle, hle'⟩ := within_iff.mp hblank
  have := hapart z hz r hr
  omega

theorem isBlank_of_isMargin {c : Char} (h : isMargin c = true) : isBlank c = true := by
  unfold isMargin at h
  split at h
  · simp only [Bool.or_eq_true, beq_iff_eq, Bool.and_eq_true, decide_eq_true_eq] at h
    rcases h with rfl | ⟨hfirst, hlast⟩
    · decide
    · exact within_iff.mpr ⟨(0x9, 0xd), by decide, hfirst, hlast⟩
  · exact h

theorem isDigit_of_ascii {c : Char} (h : c.isDigit = true) : isDigit c = true := by
  rw [isDigit, digit?_ascii h]
  rfl

theorem filterMap_digit?_ascii {ds : List Char} (h : ∀ c ∈ ds, c.isDigit = true) :
    ds.filterMap digit? = ds.map fun c => c.toNat - 48 := by
  rw [← List.filterMap_eq_map]
  exact List.filterMap_congr fun c hc => digit?_ascii (h c hc)

/-- Every digit of a row has a value. -/
theorem map_digit?_of_isDigit : ∀ {ds : List Char}, (∀ c ∈ ds, isDigit c = true) →
    ds.map digit? = (ds.filterMap digit?).map some
  | [], _ => rfl
  | c :: ds, h => by
    obtain ⟨v, hv⟩ := Option.isSome_iff_exists.mp (h c List.mem_cons_self)
    have ih := map_digit?_of_isDigit fun x hx => h x (List.mem_cons_of_mem c hx)
    rw [List.map_cons, List.filterMap_cons_some hv, List.map_cons, ih, hv]

theorem length_filterMap_digit? {ds : List Char} (h : ∀ c ∈ ds, isDigit c = true) :
    (ds.filterMap digit?).length = ds.length := by
  have hlen := congrArg List.length (map_digit?_of_isDigit h)
  rw [List.length_map, List.length_map] at hlen
  exact hlen.symm

/-- A row of digits is taken with the values of its digits. -/
theorem takeDigits_of_isDigit {ds rest : List Char} (hds : ∀ c ∈ ds, isDigit c = true)
    (hrest : ∀ c ∈ rest.head?, isDigit c = false) :
    takeDigits (ds ++ rest) = (ds.filterMap digit?, rest) := by
  refine takeDigits_append ds _ rest (map_digit?_of_isDigit hds) fun c r hr => ?_
  have hc := hrest c (by rw [hr]; rfl)
  exact Option.not_isSome_iff_eq_none.mp (by rw [← isDigit, hc]; decide)

theorem dropWhile_of_head {p : Char → Bool} {s : List Char} (h : ∀ c ∈ s.head?, p c = false) :
    s.dropWhile p = s := by
  cases s with
  | nil => rfl
  | cons c s => exact List.dropWhile_cons_of_neg (by rw [h c rfl]; decide)

theorem takeWhile_of_head {p : Char → Bool} {s : List Char} (h : ∀ c ∈ s.head?, p c = false) :
    s.takeWhile p = [] := by
  cases s with
  | nil => rfl
  | cons c s => exact List.takeWhile_cons_of_neg (by rw [h c rfl]; decide)

/-- A text with no white space at either end stays as it is. -/
theorem unspaced_of_ends {s : List Char} (hfirst : ∀ c ∈ s.head?, isMargin c = false)
    (hlast : ∀ c ∈ s.getLast?, isMargin c = false) : unspaced s = s := by
  rw [unspaced, dropWhile_of_head hfirst,
    dropWhile_of_head (by rwa [List.head?_reverse]), List.reverse_reverse]

end Text

namespace LeadingInteger

/-! ### Texts that start with an integer -/

/-- What may stand for a sign. -/
def signs : List (List Char) := [[], ['+'], ['-']]

/-- A text starts with white space, a sign and a digit, of which the first two may be
missing. -/
def StartsWithInteger (s : List Char) : Prop :=
  ∃ before sign c rest, (∀ x ∈ before, Text.isBlank x = true) ∧ sign ∈ signs ∧
    Text.isDigit c = true ∧ s = before ++ sign ++ c :: rest

/-- A text around the integer that it starts with: the white space before it, its sign,
all its digits, and what comes behind them. -/
@[ext] structure Lead where
  before : List Char
  sign : List Char
  digits : List Char
  after : List Char
  isBlank_of_mem_before : ∀ c ∈ before, Text.isBlank c = true
  sign_mem : sign ∈ signs
  digits_ne_nil : digits ≠ []
  isDigit_of_mem_digits : ∀ c ∈ digits, Text.isDigit c = true
  not_isDigit_after : ∀ c ∈ after.head?, Text.isDigit c = false

theorem not_isDigit_of_mem_sign {sign : List Char} (h : sign ∈ signs) {c : Char} (hc : c ∈ sign) :
    Text.isDigit c = false ∧ Text.isBlank c = false ∧ c ≠ '_' := by
  simp only [signs, List.mem_cons, List.not_mem_nil, or_false] at h
  rcases h with rfl | rfl | rfl
  · cases hc
  · obtain rfl := List.mem_singleton.mp hc
    decide
  · obtain rfl := List.mem_singleton.mp hc
    decide

/-- A sign is taken off a text that goes on with a digit. -/
theorem takeSign_append {sign : List Char} (h : sign ∈ signs) {c : Char}
    (hc : Text.isDigit c = true) (rest : List Char) :
    Text.takeSign (sign ++ c :: rest) = (decide (sign = ['-']), c :: rest) := by
  have hplus : c ≠ '+' := by
    rintro rfl
    exact absurd hc (by decide)
  have hminus : c ≠ '-' := by
    rintro rfl
    exact absurd hc (by decide)
  simp only [signs, List.mem_cons, List.not_mem_nil, or_false] at h
  rcases h with rfl | rfl | rfl
  · unfold Text.takeSign
    split
    · next hs => exact absurd (List.cons.inj hs).1 hminus
    · next hs => exact absurd (List.cons.inj hs).1 hplus
    · rfl
  · rfl
  · rfl

/-- What is taken off the front of a text is a sign. -/
theorem exists_sign (s : List Char) : ∃ sign ∈ signs, s = sign ++ (Text.takeSign s).2 := by
  unfold Text.takeSign
  split
  · exact ⟨['-'], by decide, rfl⟩
  · exact ⟨['+'], by decide, rfl⟩
  · exact ⟨[], by decide, rfl⟩

namespace Lead

variable (l : Lead)

/-- The sign and the digits. -/
def written : List Char := l.sign ++ l.digits

/-- The whole text. -/
def text : List Char := l.before ++ l.written ++ l.after

/-- The integer, each digit of which is worth its distance from the zero of its script. -/
def number : Int :=
  if l.sign = ['-'] then -Text.digitsValue (l.digits.filterMap Text.digit?)
  else Text.digitsValue (l.digits.filterMap Text.digit?)

theorem exists_digits : ∃ c r, l.digits = c :: r ∧ Text.isDigit c = true := by
  obtain ⟨c, r, hcr⟩ := List.exists_cons_of_ne_nil l.digits_ne_nil
  exact ⟨c, r, hcr, l.isDigit_of_mem_digits c (by rw [hcr]; exact List.mem_cons_self)⟩

theorem digitValues_ne_nil : l.digits.filterMap Text.digit? ≠ [] := by
  rw [← List.length_pos_iff, Text.length_filterMap_digit? l.isDigit_of_mem_digits,
    List.length_pos_iff]
  exact l.digits_ne_nil

theorem of_mem_written {c : Char} (h : c ∈ l.written) : Text.isBlank c = false ∧ c ≠ '_' := by
  rcases List.mem_append.mp h with hs | hd
  · exact (not_isDigit_of_mem_sign l.sign_mem hs).2
  · have hdigit := l.isDigit_of_mem_digits c hd
    refine ⟨Text.not_isBlank_of_isDigit hdigit, ?_⟩
    rintro rfl
    exact absurd hdigit (by decide)

theorem takeSign_written (rest : List Char) :
    Text.takeSign (l.written ++ rest) = (decide (l.sign = ['-']), l.digits ++ rest) := by
  obtain ⟨c, r, hcr, hc⟩ := l.exists_digits
  rw [written, hcr, List.append_assoc, List.cons_append]
  exact takeSign_append l.sign_mem hc (r ++ rest)

/-- White space is skipped up to the sign, or the digits. -/
theorem dropWhile_text : l.text.dropWhile Text.isBlank = l.written ++ l.after := by
  rw [text, List.append_assoc, List.dropWhile_append_of_pos l.isBlank_of_mem_before]
  apply Text.dropWhile_of_head
  intro c hc
  have hne : l.written ≠ [] := by simp [written, l.digits_ne_nil]
  rw [List.head?_append_of_ne_nil _ hne] at hc
  exact (l.of_mem_written (List.mem_of_mem_head? hc)).1

/-- **The integer at the start of a text is read**, unless it has too many digits. -/
theorem read_text :
    read l.text = if Text.digitLimit < l.digits.length then .error .tooManyDigits
      else .ok l.number := by
  have hdigits := Text.takeDigits_of_isDigit l.isDigit_of_mem_digits l.not_isDigit_after
  simp only [read, l.dropWhile_text, l.takeSign_written, hdigits, decide_eq_true_eq,
    Text.length_filterMap_digit? l.isDigit_of_mem_digits]
  rfl

/-- **Sign and digits alone are that integer**, with the same limit. -/
theorem integer?_written :
    Text.integer? l.written =
      if Text.digitLimit < l.digits.length then none else some l.number := by
  have hmargin : ∀ c ∈ l.written, Text.isMargin c = false := fun c hc => by
    rw [Bool.eq_false_iff]
    intro hm
    have hblank := Text.isBlank_of_isMargin hm
    rw [(l.of_mem_written hc).1] at hblank
    cases hblank
  have hunspaced : Text.unspaced l.written = l.written :=
    Text.unspaced_of_ends (fun c hc => hmargin c (List.mem_of_mem_head? hc))
      fun c hc => hmargin c (List.mem_of_mem_getLast? hc)
  have hungrouped : Text.ungrouped? l.written = some l.written :=
    Text.ungrouped?_of_plain fun c hc => (l.of_mem_written hc).2
  have hsign := l.takeSign_written []
  have hdigits := Text.takeDigits_of_isDigit l.isDigit_of_mem_digits
    (show ∀ c ∈ ([] : List Char).head?, Text.isDigit c = false from fun c hc => by cases hc)
  rw [List.append_nil, List.append_nil] at hsign
  rw [List.append_nil] at hdigits
  rw [Text.integer?, hunspaced, hungrouped]
  simp only [Option.bind_eq_bind, Option.bind_some, hsign, hdigits, l.digitValues_ne_nil, false_or,
    Text.length_filterMap_digit? l.isDigit_of_mem_digits, decide_eq_true_eq]
  rfl

/-- **A text has one integer at its start**: white space, sign and digits end where they
have to. -/
theorem text_injective {k l : Lead} (h : k.text = l.text) : k = l := by
  have hwritten : k.written ++ k.after = l.written ++ l.after := by
    rw [← k.dropWhile_text, ← l.dropWhile_text, h]
  have hbefore : k.before = l.before := by
    rw [text, text, List.append_assoc, List.append_assoc, hwritten] at h
    exact List.append_cancel_right h
  have hsigns := congrArg Text.takeSign hwritten
  rw [k.takeSign_written, l.takeSign_written, Prod.mk.injEq] at hsigns
  have htake : ∀ m : Lead, (m.digits ++ m.after).takeWhile Text.isDigit = m.digits := fun m => by
    rw [List.takeWhile_append_of_pos m.isDigit_of_mem_digits,
      Text.takeWhile_of_head m.not_isDigit_after, List.append_nil]
  have hdigits : k.digits = l.digits := by
    rw [← htake k, ← htake l, hsigns.2]
  have hafter : k.after = l.after := by
    have := hsigns.2
    rw [hdigits] at this
    exact List.append_cancel_left this
  have hsign : k.sign = l.sign := by
    rw [written, written, hdigits, hafter] at hwritten
    exact List.append_cancel_right (List.append_cancel_right hwritten)
  exact Lead.ext hbefore hsign hdigits hafter

end Lead

/-- A text starts with an integer when it is one with something around it, in one way
only. -/
theorem startsWithInteger_iff {s : List Char} :
    StartsWithInteger s ↔ ∃! l : Lead, l.text = s := by
  constructor
  · rintro ⟨before, sign, c, rest, hbefore, hsign, hc, rfl⟩
    have hdigits : ∀ x ∈ c :: rest.takeWhile Text.isDigit, Text.isDigit x = true := by
      intro x hx
      rcases List.mem_cons.mp hx with rfl | hx
      · exact hc
      · exact List.mem_takeWhile_imp hx
    have hafter : ∀ x ∈ (rest.dropWhile Text.isDigit).head?, Text.isDigit x = false := by
      intro x hx
      have hnot := List.head?_dropWhile_not Text.isDigit rest
      rwa [hx] at hnot
    let l : Lead := ⟨before, sign, c :: rest.takeWhile Text.isDigit,
      rest.dropWhile Text.isDigit, hbefore, hsign, List.cons_ne_nil _ _, hdigits, hafter⟩
    have htext : l.text = before ++ sign ++ c :: rest := by
      show before ++ (sign ++ c :: rest.takeWhile Text.isDigit) ++ rest.dropWhile Text.isDigit = _
      simp [List.takeWhile_append_dropWhile]
    exact ⟨l, htext, fun k hk => Lead.text_injective (hk.trans htext.symm)⟩
  · rintro ⟨l, rfl, -⟩
    obtain ⟨c, r, hcr, hc⟩ := l.exists_digits
    refine ⟨l.before, l.sign, c, r ++ l.after, l.isBlank_of_mem_before, l.sign_mem, hc, ?_⟩
    simp [Lead.text, Lead.written, hcr]

/-- Whether a text starts with an integer is seen when white space and sign are taken off. -/
theorem startsWithInteger_iff_takeDigits {s : List Char} :
    StartsWithInteger s ↔
      (Text.takeDigits (Text.takeSign (s.dropWhile Text.isBlank)).2).1 ≠ [] := by
  constructor
  · intro h
    obtain ⟨l, rfl, -⟩ := startsWithInteger_iff.mp h
    rw [l.dropWhile_text, l.takeSign_written,
      Text.takeDigits_of_isDigit l.isDigit_of_mem_digits l.not_isDigit_after]
    exact l.digitValues_ne_nil
  · intro hne
    obtain ⟨sign, hsign, heq⟩ := exists_sign (s.dropWhile Text.isBlank)
    cases hrest : (Text.takeSign (s.dropWhile Text.isBlank)).2 with
    | nil =>
      rw [hrest] at hne
      exact absurd rfl hne
    | cons c rest =>
      rw [hrest] at hne heq
      have hc : Text.isDigit c = true := by
        by_contra hno
        have hnone : Text.digit? c = none := Option.not_isSome_iff_eq_none.mp hno
        simp [Text.takeDigits, hnone] at hne
      refine ⟨s.takeWhile Text.isBlank, sign, c, rest, fun x hx => List.mem_takeWhile_imp hx,
        hsign, hc, ?_⟩
      rw [List.append_assoc, ← heq, List.takeWhile_append_dropWhile]

instance : DecidablePred StartsWithInteger := fun _ =>
  decidable_of_iff _ startsWithInteger_iff_takeDigits.symm

/-- **A text that starts with no integer counts as zero.** -/
theorem read_of_not_startsWithInteger {s : List Char} (h : ¬ StartsWithInteger s) :
    read s = .ok 0 :=
  read_eq_zero (not_not.mp (mt startsWithInteger_iff_takeDigits.mpr h))

theorem ofValue_text (s : String) : ofValue (.text s) = read s.toList := rfl

/-- Reading fails only on too many digits. -/
theorem exists_read_iff {s : List Char} :
    (∃ n, read s = .ok n) ↔ ∀ l : Lead, l.text = s → l.digits.length ≤ Text.digitLimit := by
  constructor
  · rintro ⟨n, hn⟩ l rfl
    by_contra hmany
    rw [l.read_text, if_pos (Nat.lt_of_not_le hmany)] at hn
    cases hn
  · intro hfew
    by_cases hs : StartsWithInteger s
    · obtain ⟨l, rfl, -⟩ := startsWithInteger_iff.mp hs
      exact ⟨l.number, by rw [l.read_text, if_neg (Nat.not_lt.mpr (hfew l rfl))]⟩
    · exact ⟨0, read_of_not_startsWithInteger hs⟩

/-! ### Printed integers -/

/-- The signs that an integer may be written with. -/
def signsOf (n : Int) : List (List Char) := if n < 0 then [['-']] else [[], ['+']]

theorem mem_signs_of_mem_signsOf {n : Int} {sign : List Char} (h : sign ∈ signsOf n) :
    sign ∈ signs := by
  have hall : ∀ sign ∈ [['-']] ++ [[], ['+']], sign ∈ signs := by decide
  unfold signsOf at h
  split at h
  · exact hall sign (List.mem_append_left _ h)
  · exact hall sign (List.mem_append_right _ h)

theorem signed_eq (n : Int) :
    ∃ sign ∈ signsOf n, Text.signed n = sign ++ Text.padded 0 n.natAbs := by
  have hpadded : ∀ m, Text.padded 0 m = Text.numeral m := fun m => by
    rw [Text.padded, Nat.zero_sub, List.replicate_zero, List.nil_append]
  rw [hpadded]
  cases n with
  | ofNat m =>
    have hpos : ¬ Int.ofNat m < 0 := Int.not_lt.mpr (Int.natCast_nonneg m)
    exact ⟨[], by rw [signsOf, if_neg hpos]; decide, rfl⟩
  | negSucc m =>
    exact ⟨['-'], by rw [signsOf, if_pos (Int.negSucc_lt_zero m)]; decide, rfl⟩

/-- An integer written with a sign and zeros in front of it, inside a text. -/
def Lead.printed {before after : List Char} (hbefore : ∀ c ∈ before, Text.isBlank c = true)
    (hafter : ∀ c ∈ after.head?, Text.isDigit c = false) {n : Int} {sign : List Char}
    (hsign : sign ∈ signsOf n) (width : Nat) : Lead where
  before := before
  sign := sign
  digits := Text.padded width n.natAbs
  after := after
  isBlank_of_mem_before := hbefore
  sign_mem := mem_signs_of_mem_signsOf hsign
  digits_ne_nil := Text.padded_ne_nil width n.natAbs
  isDigit_of_mem_digits := fun _ hc => Text.isDigit_of_ascii (Text.isDigit_of_mem_padded hc)
  not_isDigit_after := hafter

/-- **A printed integer is read back**, whatever sign and zeros it is written with. -/
theorem read_printed {before after : List Char} (hbefore : ∀ c ∈ before, Text.isBlank c = true)
    (hafter : ∀ c ∈ after.head?, Text.isDigit c = false) {n : Int} {sign : List Char}
    (hsign : sign ∈ signsOf n) {width : Nat} (hwidth : width ≤ Text.digitLimit)
    (hn : (Text.numeral n.natAbs).length ≤ Text.digitLimit) :
    read (before ++ (sign ++ Text.padded width n.natAbs) ++ after) = .ok n := by
  let l := Lead.printed hbefore hafter hsign width
  have hfew : ¬ Text.digitLimit < l.digits.length := by
    show ¬ Text.digitLimit < (Text.padded width n.natAbs).length
    rw [Text.padded, List.length_append, List.length_replicate]
    omega
  have hvalue : Text.digitsValue (l.digits.filterMap Text.digit?) = n.natAbs := by
    show Text.digitsValue ((Text.padded width n.natAbs).filterMap Text.digit?) = n.natAbs
    rw [Text.filterMap_digit?_ascii fun _ hc => Text.isDigit_of_mem_padded hc,
      Text.digitsValue_map_toNat]
    exact Text.ofDigitChars_padded width n.natAbs
  have hnumber : l.number = n := by
    have hsign' : l.sign ∈ signsOf n := hsign
    unfold signsOf at hsign'
    rw [Lead.number, hvalue]
    split at hsign'
    · rw [if_pos (List.mem_singleton.mp hsign')]
      omega
    · have hplus : l.sign ≠ ['-'] := by
        intro hminus
        rw [hminus] at hsign'
        exact absurd hsign' (by decide)
      rw [if_neg hplus]
      omega
  have hread := l.read_text
  rw [if_neg hfew, hnumber] at hread
  exact hread

/-- **The number of days is the integer that a text starts with.** A printed integer with
white space before it and no digit behind it is read back, with a plus sign and with zeros
in front as well, as long as it has at most 4300 digits. A text that does not start with
white space, a sign and a digit counts as zero; otherwise the integer that it starts with
is unique. Its digits may be those of any script, and both ways of reading it agree: in
one pass, or by cutting out sign and digits and reading these as an integer. Only more
than 4300 digits are refused. -/
theorem ofValue_text_eq :
    (∀ (before after : String) (n : Int), (∀ c ∈ before.toList, Text.isBlank c = true) →
      (∀ c ∈ after.toList.head?, Text.isDigit c = false) →
      (Text.numeral n.natAbs).length ≤ Text.digitLimit →
        (∃ s, (Value.int n).plain = .ok s ∧ ofValue (.text (before ++ s ++ after)) = .ok n) ∧
        ∀ sign ∈ signsOf n, ∀ width ≤ Text.digitLimit,
          ofValue (.text (before ++ String.ofList (sign ++ Text.padded width n.natAbs) ++ after)) =
            .ok n) ∧
    (∀ s : String, (¬ StartsWithInteger s.toList → ofValue (.text s) = .ok 0) ∧
      (StartsWithInteger s.toList ↔ ∃! l : Lead, l.text = s.toList) ∧
      ((∃ n, ofValue (.text s) = .ok n) ↔
        ∀ l : Lead, l.text = s.toList → l.digits.length ≤ Text.digitLimit)) ∧
    ∀ l : Lead,
      (ofValue (.text (String.ofList l.text)) =
        if Text.digitLimit < l.digits.length then .error .tooManyDigits else .ok l.number) ∧
      Text.integer? l.written =
        if Text.digitLimit < l.digits.length then none else some l.number := by
  refine ⟨fun before after n hbefore hafter hn => ⟨?_, fun sign hsign width hwidth => ?_⟩,
    fun s => ⟨read_of_not_startsWithInteger, startsWithInteger_iff, exists_read_iff⟩,
    fun l => ⟨?_, l.integer?_written⟩⟩
  · obtain ⟨sign, hsign, hsigned⟩ := signed_eq n
    refine ⟨String.ofList (Text.signed n), ?_, ?_⟩
    · rw [Value.plain, if_neg (Nat.not_lt.mpr hn)]
    · rw [ofValue_text, String.toList_append, String.toList_append, String.toList_ofList, hsigned]
      exact read_printed hbefore hafter hsign (Nat.zero_le _) hn
  · rw [ofValue_text, String.toList_append, String.toList_append, String.toList_ofList]
    exact read_printed hbefore hafter hsign hwidth hn
  · rw [ofValue_text, String.toList_ofList, l.read_text]

/-- Seven days ago with zeros in front, behind a space that does not break, and thirty-four
in Arabic and ASCII digits. -/
theorem ofValue_text_eq_scripts :
    let l : Lead := ⟨[' '], ['+'], ['\u0663', '4'], ['°'],
      List.all_eq_true.mp (by decide), by decide, by decide, List.all_eq_true.mp (by decide),
      fun c hc => by cases hc; decide⟩
    (∀ c ∈ ("\u00a0" : String).toList, Text.isBlank c = true) ∧
      (∀ c ∈ (" days" : String).toList.head?, Text.isDigit c = false) ∧
      (Text.numeral (-7 : Int).natAbs).length ≤ Text.digitLimit ∧ ['-'] ∈ signsOf (-7) ∧
      ofValue (.text ("\u00a0" ++ String.ofList (['-'] ++ Text.padded 3 (-7 : Int).natAbs) ++
        " days")) = .ok (-7) ∧
      ¬ StartsWithInteger ("day 3" : String).toList ∧ ofValue (.text "day 3") = .ok 0 ∧
      ofValue (.text (String.ofList l.text)) = .ok 34 ∧ Text.integer? l.written = some 34 := by
  intro l
  obtain ⟨hprinted, hany, hlead⟩ := ofValue_text_eq
  have hbefore : ∀ c ∈ ("\u00a0" : String).toList, Text.isBlank c = true :=
    List.all_eq_true.mp (by decide)
  have hafter : ∀ c ∈ (" days" : String).toList.head?, Text.isDigit c = false := by
    intro c hc
    cases hc
    decide
  have hfew : (Text.numeral (-7 : Int).natAbs).length ≤ Text.digitLimit := by decide
  have hsign : ['-'] ∈ signsOf (-7) := by decide
  have hday : ¬ StartsWithInteger ("day 3" : String).toList := by decide
  have hnumber : l.number = 34 := by decide
  obtain ⟨hread, hwritten⟩ := hlead l
  rw [if_neg (by decide), hnumber] at hread hwritten
  exact ⟨hbefore, hafter, hfew, hsign,
    (hprinted _ _ (-7) hbefore hafter hfew).2 _ hsign 3 (by decide), hday, (hany _).1 hday,
    hread, hwritten⟩

end LeadingInteger
end ReportFilter
