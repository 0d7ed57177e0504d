/-
# Attempts

An operation that may fail half way leaves a state behind whether it fails or
not. An attempt is that state with the outcome.

Key definitions: `Attempt`, `Attempt.andThen`.
Key theorems: `Attempt.failure?_eq_none_iff`, `Attempt.andThen_assoc`.
-/
import ReportFilter.Failure

namespace ReportFilter

/-- The state that an operation leaves, and its outcome. -/
structure Attempt (σ : Type) where
  state : σ
  outcome : Except Failure Unit

namespace Attempt

variable {σ : Type}

/-- Nothing more to do. -/
def done (s : σ) : Attempt σ := ⟨s, .ok ()⟩

/-- A failure, with the state as it is. -/
def fail (s : σ) (e : Failure) : Attempt σ := ⟨s, .error e⟩

/-- One operation after another; a failure ends it. -/
def andThen (a : Attempt σ) (next : σ → Attempt σ) : Attempt σ :=
  match a.outcome with
  | .ok () => next a.state
  | .error _ => a

/-- The failure, if there is one. -/
def failure? (a : Attempt σ) : Option Failure :=
  match a.outcome with
  | .ok () => none
  | .error e => some e

/-- An attempt as part of a larger state. -/
def map {τ : Type} (f : σ → τ) (a : Attempt σ) : Attempt τ := ⟨f a.state, a.outcome⟩

@[simp] theorem andThen_done (s : σ) (next : σ → Attempt σ) : (done s).andThen next = next s := rfl

theorem failure?_eq_none_iff {a : Attempt σ} : a.failure? = none ↔ a.outcome = .ok () := by
  obtain ⟨s, r⟩ := a
  cases r <;> simp [failure?]

/-- What two operations keep one after the other, they keep together, as far as they
get. -/
theorem state_andThen {P : σ → Prop} {a : Attempt σ} {next : σ → Attempt σ}
    (ha : P a.state) (h : ∀ s, P s → P (next s).state) : P (a.andThen next).state := by
  obtain ⟨s, e | u⟩ := a
  · exact ha
  · exact h s ha

/-- How operations are grouped does not matter. -/
theorem andThen_assoc (a : Attempt σ) (f g : σ → Attempt σ) :
    (a.andThen f).andThen g = a.andThen fun s => (f s).andThen g := by
  obtain ⟨s, r⟩ := a
  cases r <;> rfl

end Attempt
end ReportFilter
