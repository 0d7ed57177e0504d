/-
# Templates

A template is text with slots in braces; two braces of a kind stand for one. A
slot gives a name, which may go on to a part (`.name`) or an item (`[index]`)
of the text that is named, then a conversion after `!` (the text, or the text
in quotes) and a layout after `:`, which may hold slots itself. Only texts have
layouts.

A template is read as a row of items. What is wrong with it is an item too, so
of several faults the leftmost counts.

Key definitions: `Template.items`, `Template.render`.
Key theorem: `Template.itemsFrom_of_plain`.
-/
import ReportFilter.Template.Layout
import ReportFilter.Template.Part
import ReportFilter.Text.Search

namespace ReportFilter
namespace Template

/-- An item of a template. -/
inductive Item where
  /-- A character that stands for itself. -/
  | text (c : Char)
  /-- A slot; `nested` tells that its layout has slots. -/
  | slot (name : List Char) (conversion : Option Char) (layout : List Char) (nested : Bool)
  /-- A brace without partner, or a slot that breaks off. -/
  | malformed
  deriving DecidableEq, Repr

/-- Where in a template a character stands. What has been read of a slot is
kept last character first. -/
inductive Place where
  | text
  /-- Behind a brace that opens. -/
  | opened
  /-- Behind a brace that closes. -/
  | closed
  /-- In the name. -/
  | name (name : List Char)
  /-- In the name, between brackets. -/
  | bracket (name : List Char)
  /-- Behind the exclamation mark. -/
  | mark (name : List Char)
  /-- Behind the conversion. -/
  | conversion (name : List Char) (c : Char)
  /-- In the layout, inside `depth` braces more than the slot's own. -/
  | layout (name : List Char) (conversion : Option Char) (layout : List Char) (depth : Nat)
      (nested : Bool)
  deriving DecidableEq, Repr

/-- What a character leads to. -/
inductive Step where
  /-- The character belongs to a slot or to a pair of braces. -/
  | next (place : Place)
  /-- An item is complete. -/
  | finish (item : Item)
  /-- The template is malformed. -/
  | fault
  deriving DecidableEq, Repr

/-- A character of a slot's name. -/
def stepName (name : List Char) (c : Char) : Step :=
  if c = '{' then .fault
  else if c = '[' then .next (.bracket (c :: name))
  else if c = '}' then .finish (.slot name.reverse none [] false)
  else if c = ':' then .next (.layout name none [] 0 false)
  else if c = '!' then .next (.mark name)
  else .next (.name (c :: name))

/-- A character of a slot's layout. -/
def stepLayout (name : List Char) (conversion : Option Char) (layout : List Char) (depth : Nat)
    (nested : Bool) (c : Char) : Step :=
  if c = '{' then .next (.layout name conversion (c :: layout) (depth + 1) true)
  else if c = '}' then
    match depth with
    | 0 => .finish (.slot name.reverse conversion layout.reverse nested)
    | depth + 1 => .next (.layout name conversion (c :: layout) depth nested)
  else .next (.layout name conversion (c :: layout) depth nested)

/-- One character of a template. -/
def step : Place → Char → Step
  | .text, c =>
    if c = '{' then .next .opened
    else if c = '}' then .next .closed
    else .finish (.text c)
  | .opened, c => if c = '{' then .finish (.text c) else stepName [] c
  | .closed, c => if c = '}' then .finish (.text c) else .fault
  | .name name, c => stepName name c
  | .bracket name, c =>
    .next (if c = ']' then .name (c :: name) else .bracket (c :: name))
  | .mark name, c => .next (.conversion name c)
  | .conversion name d, c =>
    if c = '}' then .finish (.slot name.reverse (some d) [] false)
    else if c = ':' then .next (.layout name (some d) [] 0 false)
    else .fault
  | .layout name conversion layout depth nested, c =>
    stepLayout name conversion layout depth nested c

/-- The items of a text that starts at a place of a template. A fault ends the
row. -/
def itemsFrom : Place → List Char → List Item
  | .text, [] => []
  | _, [] => [.malformed]
  | place, c :: s =>
    match step place c with
    | .next place => itemsFrom place s
    | .finish item => item :: itemsFrom .text s
    | .fault => [.malformed]

/-- The items of a template. -/
def items (s : List Char) : List Item := itemsFrom .text s

/-! ### Names -/

/-- What stands between brackets or at the start of a name. -/
inductive Index where
  | number (n : Nat)
  | word
  | tooLarge
  deriving DecidableEq, Repr

/-- A row of digits as a number, continuing the digits `value`. The first
character that is no digit makes it a word, unless the number is already too
large. -/
def Index.read : (value : Nat) → List Char → Index
  | value, [] => .number value
  | value, c :: s =>
    match Text.digit? c with
    | none => .word
    | some d => if numberLimit < 10 * value + d then .tooLarge else read (10 * value + d) s

/-- A step from a text to something in it. -/
inductive Selector where
  /-- A part, by name. -/
  | part (name : List Char)
  /-- An item, by position or name. -/
  | item (index : List Char)
  | malformed
  deriving DecidableEq, Repr

/-- Where in a path a character stands; what has been read is kept last
character first. -/
inductive Segment where
  | between
  | part (name : List Char)
  | item (index : List Char)
  deriving DecidableEq, Repr

/-- The selectors of a path that starts in a segment. -/
def selectors : Segment → List Char → List Selector
  | .between, [] => []
  | .part name, [] => [.part name.reverse]
  | .item _, [] => [.malformed]
  | .between, c :: s =>
    if c = '.' then selectors (.part []) s
    else if c = '[' then selectors (.item []) s
    else [.malformed]
  | .part name, c :: s =>
    if c = '.' then .part name.reverse :: selectors (.part []) s
    else if c = '[' then .part name.reverse :: selectors (.item []) s
    else selectors (.part (c :: name)) s
  | .item index, c :: s =>
    if c = ']' then .item index.reverse :: selectors .between s
    else selectors (.item (c :: index)) s

/-- What a selector finds in a part. Items are found by position. -/
def Selector.select (p : Part) : Selector → Except Failure Part
  | part name =>
    if name = [] then .error .template
    else
      match p.part? (String.ofList name) with
      | some p => .ok p
      | none => .error .slotPart
  | item index =>
    match Index.read 0 index with
    | .tooLarge => .error .template
    | .word => .error .slotItem
    | .number n => if index = [] then .error .template else p.item n
  | malformed => .error .template

/-- What a name stands for. Slots by position have nothing to stand for. -/
def look (slots : List (String × List Char)) (name : List Char) : Except Failure Part := do
  let isPath := fun c => c == '.' || c == '['
  let first := name.takeWhile (!isPath ·)
  if first = [] then .error .slotPosition
  match Index.read 0 first with
  | .tooLarge => .error .template
  | .number _ => .error .slotPosition
  | .word =>
    match slots.lookup (String.ofList first) with
    | none => .error .slotName
    | some s =>
      (selectors .between (name.dropWhile (!isPath ·))).foldlM Selector.select (.text s)

/-- A part as a conversion shows it. The null character is no conversion. -/
def convert (p : Part) : Option Char → Except Failure Part
  | none | some '\x00' => .ok p
  | some 's' => .ok (.text p.plain)
  | some 'r' => .ok (.text p.shown)
  | some 'a' => .ok (.text p.asciiShown)
  | some _ => .error .template

/-- A part in a layout. -/
def arrangePart (layout : List Char) (p : Part) : Except Failure (List Char) :=
  if layout = [] then .ok p.plain
  else
    match p with
    | .text s => arrange layout s
    | _ => .error .slotLayout

/-! ### Rendering -/

/-- An item with its slot filled; `nest` renders the slots of its layout. -/
def Item.render (slots : List (String × List Char))
    (nest : List Char → Except Failure (List Char)) : Item → Except Failure (List Char)
  | .text c => .ok [c]
  | .malformed => .error .template
  | .slot name conversion layout nested => do
    let p ← look slots name
    let p ← convert p conversion
    let layout ← if nested then nest layout else .ok layout
    arrangePart layout p

/-- A template with its slots filled, where layouts may be nested to a depth. -/
def renderNested (slots : List (String × List Char)) :
    (depth : Nat) → List Char → Except Failure (List Char)
  | 0, _ => .error .template
  | depth + 1, s => do
    let parts ← (items s).mapM (Item.render slots (renderNested slots depth))
    .ok parts.flatten

/-- A template with its slots filled. A layout may have slots, but not the
layout of such a slot. -/
def render (template : String) (slots : List (String × String)) : Except Failure String :=
  (renderNested (slots.map fun s => (s.1, s.2.toList)) 2 template.toList).map String.ofList

/-- Whether a template has the slot `{name}`, written just so. -/
def hasSlot (template : String) (name : String) : Bool :=
  Text.occursIn ('{' :: name.toList ++ ['}']) template.toList

/-- A template without braces reads as its text. -/
theorem itemsFrom_of_plain (s rest : List Char) (h : ∀ c ∈ s, c ≠ '{' ∧ c ≠ '}') :
    itemsFrom .text (s ++ rest) = s.map .text ++ itemsFrom .text rest := by
  induction s with
  | nil => rfl
  | cons c s ih =>
    have hc := h c (by simp)
    simp [itemsFrom, step, hc.1, hc.2, ih fun d hd => h d (by simp [hd])]

end Template
end ReportFilter
