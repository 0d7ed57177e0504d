/-
# Plain templates

A plain template is made of text without braces and of bare slots, which give
a name and neither a conversion nor a layout. Rendering one puts a text in the
place of each slot and changes nothing else.

Key definitions: `Template.Mark`, `Template.spelled`.
Key theorems: `Template.items_spelled`, `Template.render_spelled`.
-/
import ReportFilter.Template

namespace ReportFilter
namespace Template

/-- A piece of a plain template. -/
inductive Mark where
  | text (s : List Char)
  | slot (name : List Char)
  deriving DecidableEq, Repr

namespace Mark

/-- Whether text has no braces, and a name only characters of names. -/
def IsPlain : Mark → Prop
  | text s => ∀ c ∈ s, c ≠ '{' ∧ c ≠ '}'
  | slot name => ∀ c ∈ name, c ≠ '{' ∧ c ≠ '[' ∧ c ≠ '}' ∧ c ≠ ':' ∧ c ≠ '!'

/-- How a piece is written. -/
def spelled : Mark → List Char
  | text s => s
  | slot name => '{' :: (name ++ ['}'])

/-- The items that a piece is read as. -/
def items : Mark → List Item
  | text s => s.map .text
  | slot name => [.slot name none [] false]

/-- What comes out for a piece. -/
def filled (value : List Char → List Char) : Mark → List Char
  | text s => s
  | slot name => value name

end Mark

/-- How a plain template is written. -/
def spelled (ms : List Mark) : List Char := ms.flatMap Mark.spelled

/-- A slot's name is read up to the brace that closes it. -/
theorem itemsFrom_name (rest : List Char) : ∀ name seen : List Char,
    (∀ c ∈ name, c ≠ '{' ∧ c ≠ '[' ∧ c ≠ '}' ∧ c ≠ ':' ∧ c ≠ '!') →
    itemsFrom (.name seen) (name ++ '}' :: rest) =
      .slot (seen.reverse ++ name) none [] false :: itemsFrom .text rest
  | [], seen, _ => by simp [itemsFrom, step, stepName]
  | c :: name, seen, h => by
    obtain ⟨h1, h2, h3, h4, h5⟩ := h c List.mem_cons_self
    have hstep : step (.name seen) c = .next (.name (c :: seen)) := by
      simp [step, stepName, h1, h2, h3, h4, h5]
    simp only [List.cons_append, itemsFrom, hstep]
    rw [itemsFrom_name rest name (c :: seen) fun x hx => h x (List.mem_cons_of_mem _ hx)]
    simp

theorem itemsFrom_slot (name rest : List Char)
    (h : ∀ c ∈ name, c ≠ '{' ∧ c ≠ '[' ∧ c ≠ '}' ∧ c ≠ ':' ∧ c ≠ '!') :
    itemsFrom .text ('{' :: (name ++ '}' :: rest)) =
      .slot name none [] false :: itemsFrom .text rest := by
  have hopen : itemsFrom .text ('{' :: (name ++ '}' :: rest)) =
      itemsFrom .opened (name ++ '}' :: rest) := by
    simp [itemsFrom, step]
  rw [hopen]
  -- the first character of a name is read behind the brace, the others in the name
  cases name with
  | nil => simp [itemsFrom, step, stepName]
  | cons c name =>
    obtain ⟨h1, h2, h3, h4, h5⟩ := h c List.mem_cons_self
    have hstep : step .opened c = .next (.name [c]) := by
      simp [step, stepName, h1, h2, h3, h4, h5]
    simp only [List.cons_append, itemsFrom, hstep]
    rw [itemsFrom_name rest name [c] fun x hx => h x (List.mem_cons_of_mem _ hx)]
    simp

theorem items_spelled : ∀ ms : List Mark, (∀ m ∈ ms, m.IsPlain) →
    items (spelled ms) = ms.flatMap Mark.items
  | [], _ => rfl
  | m :: ms, h => by
    have ih := items_spelled ms fun x hx => h x (List.mem_cons_of_mem _ hx)
    have hm := h m List.mem_cons_self
    simp only [items, spelled, List.flatMap_cons] at ih ⊢
    cases m with
    | text s => rw [Mark.spelled, itemsFrom_of_plain s _ hm, ih, Mark.items]
    | slot name =>
      rw [Mark.spelled, List.cons_append, List.append_assoc, List.singleton_append,
        itemsFrom_slot name _ hm, ih, Mark.items, List.singleton_append]

theorem mapM_render {slots : List (String × List Char)} {value : List Char → List Char}
    (nest : List Char → Except Failure (List Char)) :
    ∀ ms : List Mark, (∀ name, .slot name ∈ ms → look slots name = .ok (.text (value name))) →
      ∃ parts, (ms.flatMap Mark.items).mapM (Item.render slots nest) = .ok parts ∧
        parts.flatten = ms.flatMap (Mark.filled value)
  | [], _ => ⟨[], rfl, rfl⟩
  | .text s :: ms, h => by
    obtain ⟨parts, hp, hf⟩ := mapM_render nest ms fun n hn => h n (List.mem_cons_of_mem _ hn)
    have htext : ∀ s : List Char,
        (s.map Item.text).mapM (Item.render slots nest) = .ok (s.map fun c => [c]) := by
      intro s
      induction s with
      | nil => rfl
      | cons c s ih =>
        rw [List.map_cons, List.mapM_cons, ih]
        rfl
    refine ⟨s.map (fun c => [c]) ++ parts, ?_, ?_⟩
    · rw [List.flatMap_cons, Mark.items, List.mapM_append, htext, hp]
      rfl
    · rw [List.flatten_append, hf, List.flatMap_cons, Mark.filled, ← List.flatMap_def,
        List.flatMap_singleton']
  | .slot name :: ms, h => by
    obtain ⟨parts, hp, hf⟩ := mapM_render nest ms fun n hn => h n (List.mem_cons_of_mem _ hn)
    have hr : Item.render slots nest (.slot name none [] false) = .ok (value name) := by
      simp only [Item.render, h name List.mem_cons_self]
      rfl
    refine ⟨value name :: parts, ?_, ?_⟩
    · rw [List.flatMap_cons, Mark.items, List.singleton_append, List.mapM_cons, hr, hp]
      rfl
    · rw [List.flatten_cons, hf, List.flatMap_cons, Mark.filled]

/-- **A plain template renders to its text with the slots filled.** -/
theorem render_spelled {template : String} {ms : List Mark} (ht : template.toList = spelled ms)
    (hms : ∀ m ∈ ms, m.IsPlain) (slots : List (String × String)) (value : List Char → List Char)
    (hv : ∀ name, .slot name ∈ ms →
      look (slots.map fun s => (s.1, s.2.toList)) name = .ok (.text (value name))) :
    render template slots = .ok (String.ofList (ms.flatMap (Mark.filled value))) := by
  obtain ⟨parts, hp, hf⟩ := mapM_render
    (renderNested (slots.map fun s => (s.1, s.2.toList)) 1) ms hv
  have hrender : renderNested (slots.map fun s => (s.1, s.2.toList)) 2 template.toList =
      .ok (ms.flatMap (Mark.filled value)) := by
    rw [renderNested, ht, items_spelled ms hms, hp, ← hf]
    rfl
  rw [render, hrender]
  rfl

end Template
end ReportFilter
