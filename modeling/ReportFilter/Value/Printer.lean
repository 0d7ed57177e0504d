/-
# Values in writing

The text of a value, which blank tests, searches and literals start from, and
the form in which a message shows a value. An integer of more than 4300 digits
has no text.

Key definitions: `Value.plain`, `Value.shown`, `Value.isBlank`, `compact`.
Key theorem: `Value.plain_text`.
-/
import ReportFilter.Binary64.Shortest
import ReportFilter.Calendar.Printer
import ReportFilter.Failure
import ReportFilter.Text.Blank
import ReportFilter.Text.Quoted

namespace ReportFilter

namespace Value

/-- The name of a truth value. -/
def boolName (b : Bool) : String := if b then "True" else "False"

/-- The text of a value. -/
def plain : Value → Except Failure String
  | none => .ok "None"
  | bool b => .ok (boolName b)
  | int n =>
    if Text.digitLimit < (Text.numeral n.natAbs).length then .error .tooManyDigits
    else .ok (String.ofList (Text.signed n))
  | float x => .ok (String.ofList x.print)
  | decimal d => .ok (String.ofList d.print)
  | text s => .ok s
  | date d => .ok (String.ofList d.iso)
  | timestamp t => .ok (String.ofList (t.iso ' '))

/-- A value in a message. -/
def shown : Value → String
  | none => "None"
  | bool b => boolName b
  | int n => String.ofList (Text.signed n)
  | float x => String.ofList x.print
  | decimal d => String.ofList ("Decimal('".toList ++ d.print ++ "')".toList)
  | text s => String.ofList (Text.quoted s.toList)
  | date d => String.ofList d.shown
  | timestamp t => String.ofList t.shown

/-- Whether a value is nothing, or its text is empty or white space. -/
def isBlank : Value → Except Failure Bool
  | none => .ok true
  | v => v.plain.map fun s => s.toList.all Text.isBlank

@[simp] theorem plain_text (s : String) : plain (text s) = .ok s := rfl

end Value

/-- A text in a message. -/
def shownText (s : String) : String := (Value.text s).shown

/-- The values that are not blank, in order. -/
def compact : List Value → Except Failure (List Value)
  | [] => .ok []
  | v :: vs => do
    let blank ← v.isBlank
    let rest ← compact vs
    .ok (if blank then rest else v :: rest)

theorem of_mem_compact : ∀ {vs ws : List Value}, compact vs = .ok ws →
    ∀ v ∈ ws, v ∈ vs ∧ v.isBlank = .ok false
  | [], ws, h, v, hv => by
    cases h
    cases hv
  | u :: vs, ws, h, v, hv => by
    obtain ⟨blank, hblank, h⟩ := exists_of_bind_eq_ok h
    obtain ⟨rest, hrest, h⟩ := exists_of_bind_eq_ok h
    cases h
    cases blank with
    | true => exact (of_mem_compact hrest v hv).imp_left (List.mem_cons_of_mem u)
    | false =>
      rcases List.mem_cons.mp hv with rfl | hv
      · exact ⟨List.mem_cons_self, hblank⟩
      · exact (of_mem_compact hrest v hv).imp_left (List.mem_cons_of_mem u)

end ReportFilter
