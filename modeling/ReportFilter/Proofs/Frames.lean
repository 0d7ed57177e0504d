/-
# Frames

A frame is a text with values in it. Appending its clause to a query gives the
frame's text with the values as literals, or with numbered bind parameters in
their places, and nothing else: percent signs in the text are escaped and come
out again, and each value lands in its own place.

A clause of a frame without values is not filled, so nothing is escaped in it.
Every clause without values is the clause of a frame, and a clause with values
is one exactly when its fragment is made of text, doubled percent signs and one
plain slot for each value. Every condition is stated by such a clause.

Only integers with too many digits have no literal. A framed clause without them
is always appended.

Key definitions: `Frame`, `Frame.fill`, `Frame.inline`, `Frame.numbered`,
`Frame.clause`, `Clause.IsFramed`, `Value.IsShort`.
Key theorems: `Frame.fill_fragment`, `Query.append_clause`,
`Condition.isFramed_clause`, `Query.append_framed`, `Query.append_short`.
-/
import ReportFilter.Condition

namespace ReportFilter

/-! ### Results that may fail -/

theorem length_of_mapM {α β : Type} {f : α → Except Failure β} : ∀ {xs : List α} {ys : List β},
    xs.mapM f = .ok ys → ys.length = xs.length
  | [], ys, h => by
    cases h
    rfl
  | x :: xs, ys, h => by
    rw [List.mapM_cons] at h
    obtain ⟨y, -, h⟩ := exists_of_bind_eq_ok h
    obtain ⟨rest, hr, h⟩ := exists_of_bind_eq_ok h
    cases h
    rw [List.length_cons, List.length_cons, length_of_mapM hr]

/-- Each result is one of an element. -/
theorem mem_of_mapM {α β : Type} {f : α → Except Failure β} : ∀ {xs : List α} {ys : List β},
    xs.mapM f = .ok ys → ∀ y ∈ ys, ∃ x ∈ xs, f x = .ok y
  | [], ys, h, y, hy => by
    cases h
    cases hy
  | x :: xs, ys, h, y, hy => by
    rw [List.mapM_cons] at h
    obtain ⟨y', hx, h⟩ := exists_of_bind_eq_ok h
    obtain ⟨rest, hr, h⟩ := exists_of_bind_eq_ok h
    cases h
    rcases List.mem_cons.mp hy with rfl | hy
    · exact ⟨x, List.mem_cons_self, hx⟩
    · obtain ⟨x', hx', hf⟩ := mem_of_mapM hr y hy
      exact ⟨x', List.mem_cons_of_mem _ hx', hf⟩

/-! ### Fragments -/

namespace Fragment

theorem toList_escape (s : String) : (escape s).toList = s.toList.flatMap escapeChar := by
  rw [escape, String.toList_ofList]

theorem escape_append (a b : String) : escape (a ++ b) = escape a ++ escape b := by
  rw [← String.toList_inj, String.toList_append]
  simp only [toList_escape, String.toList_append, List.flatMap_append]

/-- A text without percent signs is not changed. -/
theorem escape_of_plain {s : String} (h : '%' ∉ s.toList) : escape s = s := by
  have hflat : ∀ l : List Char, '%' ∉ l → l.flatMap escapeChar = l := by
    intro l hl
    induction l with
    | nil => rfl
    | cons c l ih =>
      have hc : c ≠ '%' := fun e => hl (e ▸ List.mem_cons_self)
      rw [List.flatMap_cons, ih fun e => hl (List.mem_cons_of_mem _ e)]
      simp [escapeChar, hc]
  rw [escape, hflat _ h, String.ofList_toList]

/-- A plain slot takes its argument as it is. -/
theorem fillPieces_slot (ps : List Piece) (a : List Char) (arguments : List (List Char)) :
    fillPieces (.slot .plain 's' :: ps) (a :: arguments) =
      (fillPieces ps arguments).map (a ++ ·) := by
  have harrange : Layout.plain.arrange 's' a = .ok a := by
    simp [Layout.arrange, Layout.plain, Text.widthLimit]
  simp only [fillPieces, convert, if_true]
  show (Layout.plain.arrange 's' a >>= fun s => _) = _
  rw [harrange]
  cases fillPieces ps arguments <;> rfl

end Fragment

/-! ### Frames -/

/-- A text with values in it: the text in front, and each value with the text
behind it. -/
structure Frame where
  head : String
  slots : List (Value × String)
  deriving DecidableEq, Repr

namespace Frame

/-- The values. -/
def values (f : Frame) : List Value := f.slots.map (·.1)

/-- The texts behind the values. -/
def texts (f : Frame) : List String := f.slots.map (·.2)

/-- Arguments with a text behind each. -/
def weave : List String → List String → String
  | t :: ts, a :: arguments => a ++ t ++ weave ts arguments
  | _, _ => ""

/-- The text with arguments in the places of the values. -/
def fill (f : Frame) (arguments : List String) : String := f.head ++ weave f.texts arguments

/-- The text with the values as literals. -/
def inline (d : Dialect) (f : Frame) : Except Failure String :=
  (f.values.mapM d.literal).map f.fill

/-- The text with bind parameters for the values, numbered behind the first
`count` ones. -/
def numbered (d : Dialect) (count : Nat) (f : Frame) : String :=
  f.fill ((List.range f.values.length).map fun i => d.placeholder (count + i + 1 : Nat))

/-- A slot for each of the texts, which are escaped behind them. -/
def slotted : List String → String
  | [] => ""
  | t :: ts => "%s" ++ Fragment.escape t ++ slotted ts

/-- The fragment with a slot for each value. -/
def fragment (f : Frame) : String :=
  if f.slots = [] then f.head else Fragment.escape f.head ++ slotted f.texts

/-- The clause that states a frame. -/
def clause (f : Frame) : Clause := ⟨f.fragment, f.values⟩

@[simp] theorem length_texts (f : Frame) : f.texts.length = f.values.length := by
  simp [texts, values]

theorem pieces_slotted_cons (t : String) (ts : List String) :
    Fragment.pieces (slotted (t :: ts)).toList =
      .slot .plain 's' :: (t.toList.map .text ++ Fragment.pieces (slotted ts).toList) := by
  have hsplit : (slotted (t :: ts)).toList =
      '%' :: 's' :: (t.toList.flatMap Fragment.escapeChar ++ (slotted ts).toList) := by
    simp [slotted, Fragment.toList_escape]
  rw [hsplit, Fragment.pieces, Fragment.pieces, ← Fragment.piecesFrom_escape]
  rfl

/-- Slots filled: each argument in its own place. -/
theorem fillPieces_slotted : ∀ ts arguments : List String, arguments.length = ts.length →
    Fragment.fillPieces (Fragment.pieces (slotted ts).toList) (arguments.map String.toList) =
      .ok (weave ts arguments).toList
  | [], [], _ => rfl
  | t :: ts, a :: arguments, h => by
    have ih := fillPieces_slotted ts arguments (by simpa using h)
    rw [pieces_slotted_cons, List.map_cons, Fragment.fillPieces_slot,
      Fragment.fillPieces_texts, ih]
    simp [Except.map, weave]

/-- **A frame's fragment is filled to its text.** -/
theorem fill_fragment {f : Frame} (hs : f.slots ≠ []) {arguments : List String}
    (h : arguments.length = f.values.length) :
    Fragment.fill f.fragment arguments = .ok (f.fill arguments) := by
  have hpieces : Fragment.pieces f.fragment.toList =
      f.head.toList.map .text ++ Fragment.pieces (slotted f.texts).toList := by
    simp only [fragment, hs, if_false, String.toList_append, Fragment.toList_escape,
      Fragment.pieces, Fragment.piecesFrom_escape]
  rw [Fragment.fill, hpieces, Fragment.fillPieces_texts,
    fillPieces_slotted _ _ (by rw [h, length_texts])]
  simp [Except.map, fill]

theorem fill_of_no_slots {f : Frame} (hs : f.slots = []) (arguments : List String) :
    f.fill arguments = f.head := by
  simp [fill, texts, hs, weave]

end Frame

/-! ### Clauses of frames -/

namespace Query

/-- Bind parameters are numbered one by one. -/
theorem placeholders_eq (d : Dialect) : ∀ (vs : List Value) (count : Nat),
    placeholders d count vs =
      (List.range vs.length).map fun i => d.placeholder (count + i + 1 : Nat)
  | [], count => rfl
  | v :: vs, count => by
    rw [placeholders, placeholders_eq d vs (count + 1), List.length_cons, List.range_succ_eq_map,
      List.map_cons, List.map_map]
    congr 1
    refine List.map_congr_left fun i _ => ?_
    simp only [Function.comp_apply]
    rw [show count + 1 + i + 1 = count + (i + 1) + 1 by omega]

/-- **A frame's clause appended.** Inline, its text with literals is the new
predicate, unless a value has none, and then nothing happens. Otherwise its
text with bind parameters is, and its values are kept. -/
theorem append_clause (q : Query) (f : Frame) :
    q.append f.clause =
      if q.parameterized then
        .done ({ q with parameters := q.parameters ++ f.values }.push
          (f.numbered q.dialect q.parameters.length))
      else
        match f.inline q.dialect with
        | .ok predicate => .done (q.push predicate)
        | .error e => .fail q e := by
  by_cases hs : f.slots = []
  · have hv : f.values = [] := by simp [Frame.values, hs]
    have hfill := Frame.fill_of_no_slots hs
    have hf : f.fragment = f.head := by simp [Frame.fragment, hs]
    obtain ⟨d, parameterized, predicates, parameters⟩ := q
    simp only [append, Frame.clause, hv, if_true, hf, Frame.inline, Frame.numbered, List.mapM_nil,
      List.append_nil, hfill]
    cases parameterized <;> simp [Except.map, pure, Except.pure, hfill]
  · have hv : f.values ≠ [] := by simpa [Frame.values] using hs
    simp only [append, Frame.clause, hv, if_false]
    cases hp : q.parameterized
    · simp only [Bool.false_eq_true, if_false, Frame.inline]
      rcases hl : f.values.mapM q.dialect.literal with e | ls
      · rfl
      · simp [Except.map, pushFilled, Frame.fill_fragment hs (length_of_mapM hl)]
    · simp only [if_true, pushFilled]
      rw [placeholders_eq, Frame.fill_fragment hs (by simp)]
      rfl

end Query

/-! ### Conditions as frames -/

namespace Frame

/-- Values in a row, the last with `close` behind it. -/
def row (close : String) : List Value → List (Value × String)
  | [] => []
  | [v] => [(v, close)]
  | v :: w :: vs => (v, ", ") :: row close (w :: vs)

/-- A row of values in a text. -/
def listed (head close : String) (vs : List Value) : Frame := ⟨head, row close vs⟩

theorem values_row (close : String) : ∀ vs : List Value, (row close vs).map (·.1) = vs
  | [] => rfl
  | [v] => rfl
  | v :: w :: vs => by rw [row, List.map_cons, values_row close (w :: vs)]

@[simp] theorem values_listed (head close : String) (vs : List Value) :
    (listed head close vs).values = vs := values_row close vs

theorem slotted_row {close : String} (hc : '%' ∉ close.toList) : ∀ vs : List Value, vs ≠ [] →
    slotted ((row close vs).map (·.2)) =
      ", ".intercalate (List.replicate vs.length "%s") ++ close
  | [], h => absurd rfl h
  | [v], _ => by simp [row, slotted, Fragment.escape_of_plain hc]
  | v :: w :: vs, _ => by
    have ih := slotted_row hc (w :: vs) (by simp)
    have hsep : Fragment.escape ", " = ", " := Fragment.escape_of_plain (by decide)
    rw [row, List.map_cons, slotted, ih, hsep]
    simp only [List.length_cons, List.replicate_succ, String.intercalate_cons_cons,
      String.append_assoc]

/-- The fragment of a row of values has their slots between the two texts. -/
theorem fragment_listed {head close : String} {vs : List Value} (hv : vs ≠ [])
    (hc : '%' ∉ close.toList) :
    (listed head close vs).fragment = Fragment.escape head ++
      (", ".intercalate (List.replicate vs.length "%s") ++ close) := by
  have hs : row close vs ≠ [] := by
    intro h
    have := values_row close vs
    rw [h] at this
    exact hv this.symm
  simp only [fragment, listed, texts, hs, if_false, slotted_row hc vs hv]

/-- A text, one value, and a text. -/
def single (head : String) (v : Value) (close : String) : Frame := ⟨head, [(v, close)]⟩

theorem clause_single {close : String} (hc : '%' ∉ close.toList) (head : String) (v : Value) :
    (single head v close).clause = ⟨Fragment.escape head ++ "%s" ++ close, [v]⟩ := by
  simp [clause, fragment, values, texts, single, slotted, Fragment.escape_of_plain hc,
    String.append_assoc]

theorem inline_single (d : Dialect) (head : String) (v : Value) (close : String) :
    (single head v close).inline d = (d.literal v).map fun l => head ++ (l ++ close) := by
  simp only [inline, values, single, List.map_cons, List.map_nil, List.mapM_cons, List.mapM_nil]
  rcases d.literal v with e | l
  · rfl
  · simp [bind, Except.bind, pure, Except.pure, Except.map, fill, texts, weave]

/-- Arguments for a row of values have commas between them. -/
theorem weave_row (close : String) : ∀ (vs : List Value) (arguments : List String), vs ≠ [] →
    arguments.length = vs.length →
      weave ((row close vs).map (·.2)) arguments = ", ".intercalate arguments ++ close
  | [], _, h, _ => absurd rfl h
  | [v], [a], _, _ => by simp [row, weave]
  | v :: w :: vs, a :: b :: arguments, _, h => by
    have ih := weave_row close (w :: vs) (b :: arguments) (by simp) (by simpa using h)
    rw [row, List.map_cons, weave, ih, String.intercalate_cons_cons]
    simp only [String.append_assoc]

theorem inline_listed (d : Dialect) (head close : String) {vs : List Value} (hv : vs ≠ []) :
    (listed head close vs).inline d =
      (vs.mapM d.literal).map fun ls => head ++ (", ".intercalate ls ++ close) := by
  rw [inline, values_listed]
  rcases hl : vs.mapM d.literal with e | ls
  · rfl
  · show Except.ok (head ++ weave ((row close vs).map (·.2)) ls) = _
    rw [weave_row close vs ls hv (length_of_mapM hl)]
    rfl

/-- A text without values needs no literals. -/
theorem inline_text (d : Dialect) (text : String) : (mk text []).inline d = .ok text := by
  show Except.ok (text ++ "") = _
  rw [String.append_empty]

/-- Two values with a text between. -/
theorem inline_pair (d : Dialect) (head middle : String) (a b : Value) :
    (mk head [(a, middle), (b, "")]).inline d =
      (d.literal a).bind fun first => (d.literal b).map fun last =>
        head ++ first ++ middle ++ last := by
  simp only [inline, values, List.map_cons, List.map_nil, List.mapM_cons, List.mapM_nil]
  rcases d.literal a with e | first
  · rfl
  · rcases d.literal b with e | last
    · rfl
    · simp [bind, Except.bind, pure, Except.pure, Except.map, fill, texts, weave,
        String.append_assoc]

/-- A comparison of a field with one value. -/
def compared (field comparison : String) (v : Value) : Frame := single (field ++ comparison) v ""

theorem clause_compared {comparison : String} (hc : '%' ∉ comparison.toList) (field : String)
    (v : Value) :
    (compared field comparison v).clause = ⟨Fragment.escape field ++ comparison ++ "%s", [v]⟩ := by
  rw [compared, clause_single (by decide), Fragment.escape_append, Fragment.escape_of_plain hc]
  simp

theorem inline_compared (d : Dialect) (field comparison : String) (v : Value) :
    (compared field comparison v).inline d = (d.literal v).map (field ++ comparison ++ ·) := by
  rw [compared, inline_single]
  simp only [String.append_empty]

theorem numbered_compared (d : Dialect) (count : Nat) (field comparison : String) (v : Value) :
    (compared field comparison v).numbered d count =
      field ++ comparison ++ d.placeholder (count + 1 : Nat) := by
  simp [numbered, compared, single, fill, values, texts, weave]

end Frame

namespace Condition

theorem clause_oneOf (d : Dialect) (field : String) {vs : List Value} (hv : vs ≠ []) :
    (oneOf vs).clause d field = (Frame.listed (field ++ " IN (") ")" vs).clause := by
  have hin : Fragment.escape " IN (" = " IN " ++ "(" := Fragment.escape_of_plain (by decide)
  rw [Frame.clause, Frame.values_listed, Frame.fragment_listed hv (by decide),
    Fragment.escape_append, hin]
  simp only [clause, fragment, values, Fragment.slotList, String.append_assoc, Int.toNat_natCast]

theorem clause_noneOf (d : Dialect) (field : String) {vs : List Value} (hv : vs ≠ []) :
    (noneOf vs).clause d field =
      (Frame.listed ("(" ++ field ++ " IS NULL OR " ++ field ++ " NOT IN (") "))" vs).clause := by
  have hopen : Fragment.escape "(" = "(" := Fragment.escape_of_plain (by decide)
  have hor : Fragment.escape " IS NULL OR " = " IS NULL OR " :=
    Fragment.escape_of_plain (by decide)
  have hin : Fragment.escape " NOT IN (" = " NOT IN " ++ "(" :=
    Fragment.escape_of_plain (by decide)
  have hclose : ("))" : String) = ")" ++ ")" := rfl
  rw [Frame.clause, Frame.values_listed, Frame.fragment_listed hv (by decide)]
  simp only [clause, fragment, values, Fragment.slotList, Fragment.escape_append, hopen, hor, hin,
    hclose, String.append_assoc, Int.toNat_natCast]

theorem clause_amount (d : Dialect) (field : String) (x : Decimal) :
    (amount x).clause d field = (Frame.compared field " = " (.decimal x)).clause := by
  rw [Frame.clause_compared (by decide), String.append_assoc]
  rfl

theorem clause_after (d : Dialect) (field : String) (t : Timestamp) :
    (after t).clause d field = (Frame.compared field " > " (.timestamp t)).clause := by
  rw [Frame.clause_compared (by decide), String.append_assoc]
  rfl

theorem clause_upTo (d : Dialect) (field : String) (t : Timestamp) :
    (upTo t).clause d field = (Frame.compared field " <= " (.timestamp t)).clause := by
  rw [Frame.clause_compared (by decide), String.append_assoc]
  rfl

theorem clause_between (d : Dialect) (field : String) (a b : Moment) :
    (between a b).clause d field =
      (Frame.mk (field ++ " BETWEEN ") [(a.toValue, " AND "), (b.toValue, "")]).clause := by
  have hb : Fragment.escape " BETWEEN " = " BETWEEN " := Fragment.escape_of_plain (by decide)
  have hand : Fragment.escape " AND " = " AND " := Fragment.escape_of_plain (by decide)
  have hnil : Fragment.escape "" = "" := rfl
  have hall : (" BETWEEN %s AND %s" : String) = " BETWEEN " ++ ("%s" ++ (" AND " ++ "%s")) := rfl
  simp [clause, fragment, values, Frame.clause, Frame.fragment, Frame.values, Frame.texts,
    Frame.slotted, Fragment.escape_append, hb, hand, hnil, hall, String.append_assoc]

/-- A search is one comparison with a pattern, and what declares the escape
character behind it. -/
theorem search_eq (d : Dialect) (comparison field pattern : String)
    (hc : '%' ∉ comparison.toList) :
    (Clause.mk (search d comparison (Fragment.escape field)) [.text pattern]) =
      (Frame.single ("LOWER(" ++ field ++ ") " ++ comparison ++ " ") (.text pattern)
        d.likeEscape).clause := by
  have hl : Fragment.escape "LOWER(" = "LOWER(" := Fragment.escape_of_plain (by decide)
  have hr : Fragment.escape ") " = ") " := Fragment.escape_of_plain (by decide)
  have hb : Fragment.escape " " = " " := Fragment.escape_of_plain (by decide)
  have hall : (" %s" : String) = " " ++ "%s" := rfl
  rw [Frame.clause_single (by cases d <;> decide)]
  simp only [search, Fragment.escape_append, hl, hr, hb, Fragment.escape_of_plain hc, hall,
    String.append_assoc]

theorem clause_contains (d : Dialect) (field s : String) :
    (contains s).clause d field = (Frame.single ("LOWER(" ++ field ++ ") " ++ "LIKE" ++ " ")
      (.text (Like.containing s)) d.likeEscape).clause :=
  search_eq d "LIKE" field (Like.containing s) (by decide)

theorem clause_lacks (d : Dialect) (field s : String) :
    (lacks s).clause d field = (Frame.single ("LOWER(" ++ field ++ ") " ++ "NOT LIKE" ++ " ")
      (.text (Like.containing s)) d.likeEscape).clause :=
  search_eq d "NOT LIKE" field (Like.containing s) (by decide)

end Condition

/-- A clause that states a frame: it has no values, or its fragment is made of
text, doubled percent signs, and one plain slot for each value. -/
def Clause.IsFramed (c : Clause) : Prop := ∃ f : Frame, f.clause = c

theorem Clause.isFramed_of_no_values {c : Clause} (h : c.values = []) : c.IsFramed := by
  obtain ⟨fragment, values⟩ := c
  subst h
  exact ⟨⟨fragment, []⟩, rfl⟩

/-- Every condition is stated by a frame, if what a template states is. -/
theorem Condition.isFramed_clause (d : Dialect) (field : String) (c : Condition)
    (h : ∀ s, c = .stated s → s.IsFramed) : (c.clause d field).IsFramed := by
  cases c with
  | never | always | missing => exact Clause.isFramed_of_no_values rfl
  | oneOf vs =>
    by_cases hv : vs = []
    · exact Clause.isFramed_of_no_values hv
    · exact ⟨_, (clause_oneOf d field hv).symm⟩
  | noneOf vs =>
    by_cases hv : vs = []
    · exact Clause.isFramed_of_no_values hv
    · exact ⟨_, (clause_noneOf d field hv).symm⟩
  | amount x => exact ⟨_, (clause_amount d field x).symm⟩
  | after t => exact ⟨_, (clause_after d field t).symm⟩
  | upTo t => exact ⟨_, (clause_upTo d field t).symm⟩
  | between a b => exact ⟨_, (clause_between d field a b).symm⟩
  | contains s => exact ⟨_, (clause_contains d field s).symm⟩
  | lacks s => exact ⟨_, (clause_lacks d field s).symm⟩
  | stated s => exact h s rfl

/-! ### Values with literals -/

/-- A value that is no integer, or one of no more than 4300 digits. -/
def Value.IsShort (v : Value) : Prop :=
  ∀ n, v = .int n → (Text.numeral n.natAbs).length ≤ Text.digitLimit

instance : ∀ v : Value, Decidable v.IsShort
  | .int n => decidable_of_iff ((Text.numeral n.natAbs).length ≤ Text.digitLimit)
      ⟨fun h _ hm => Value.int.inj hm ▸ h, fun h => h n rfl⟩
  | .none | .bool _ | .date _ | .timestamp _ | .text _ | .float _ | .decimal _ =>
    isTrue fun _ h => nomatch h

namespace Dialect

theorem literal_of_isShort (d : Dialect) {v : Value} (h : v.IsShort) :
    ∃ l, d.literal v = .ok l := by
  cases v with
  | int n =>
    have hn : ¬ Text.digitLimit < (Text.numeral n.natAbs).length := Nat.not_lt.mpr (h n rfl)
    exact ⟨_, by simp [literal, Value.plain, hn]; rfl⟩
  | none | bool _ | date _ | timestamp _ | text _ | float _ | decimal _ => exact ⟨_, rfl⟩

theorem literals_of_isShort (d : Dialect) : ∀ {vs : List Value}, (∀ v ∈ vs, v.IsShort) →
    ∃ ls, vs.mapM d.literal = .ok ls
  | [], _ => ⟨[], rfl⟩
  | v :: vs, h => by
    obtain ⟨l, hl⟩ := d.literal_of_isShort (h v List.mem_cons_self)
    obtain ⟨ls, hls⟩ := d.literals_of_isShort fun w hw => h w (List.mem_cons_of_mem _ hw)
    exact ⟨l :: ls, by rw [List.mapM_cons, hl, hls]; rfl⟩

end Dialect

/-- A frame can be written inline if its values have literals. -/
theorem Frame.exists_inline (d : Dialect) {f : Frame} (hv : ∀ v ∈ f.values, v.IsShort) :
    ∃ predicate, f.inline d = .ok predicate := by
  obtain ⟨ls, hls⟩ := d.literals_of_isShort hv
  refine ⟨f.fill ls, ?_⟩
  rw [inline, hls]
  rfl

namespace Query

/-- A framed clause is appended, or nothing happens. -/
theorem append_framed (q : Query) {c : Clause} (hc : c.IsFramed) :
    (∃ q', q.append c = .done q') ∨ ∃ e, q.append c = .fail q e := by
  obtain ⟨f, rfl⟩ := hc
  rw [append_clause]
  split
  · exact .inl ⟨_, rfl⟩
  · split
    · exact .inl ⟨_, rfl⟩
    · exact .inr ⟨_, rfl⟩

/-- It is appended if its values have literals. -/
theorem append_short (q : Query) {c : Clause} (hc : c.IsFramed) (hv : ∀ v ∈ c.values, v.IsShort) :
    ∃ q', q.append c = .done q' ∧ q'.predicates.length = q.predicates.length + 1 := by
  obtain ⟨f, rfl⟩ := hc
  obtain ⟨predicate, hin⟩ := Frame.exists_inline q.dialect hv
  rw [append_clause]
  split
  · exact ⟨_, rfl, by simp [push]⟩
  · rw [hin]
    exact ⟨_, rfl, by simp [push]⟩

/-- So are several of them. -/
theorem appendAll_short : ∀ (cs : List Clause) (q : Query),
    (∀ c ∈ cs, c.IsFramed ∧ ∀ v ∈ c.values, v.IsShort) →
      ∃ q', q.appendAll cs = .done q' ∧ q'.predicates.length = q.predicates.length + cs.length
  | [], q, _ => ⟨q, rfl, rfl⟩
  | c :: cs, q, h => by
    obtain ⟨hc, hv⟩ := h c List.mem_cons_self
    obtain ⟨q', hq', hlen⟩ := q.append_short hc hv
    obtain ⟨q'', hq'', hlen'⟩ := appendAll_short cs q' fun c hc => h c (List.mem_cons_of_mem _ hc)
    refine ⟨q'', ?_, ?_⟩
    · rw [appendAll, hq', Attempt.andThen_done, hq'']
    · rw [hlen', hlen, List.length_cons]
      omega

end Query
end ReportFilter
