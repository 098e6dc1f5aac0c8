import Mathlib.Data.List.Basic
set_option autoImplicit false

/-!
# Steps that may fail

What follows from the result of some steps for each of them, and what a sequence of steps
fails with.
-/

namespace MountainRange

/-! ## Results of steps -/

section Results

variable {ε ε' α β : Type} {x : Except ε α}

/-- A step that comes to a value passed through an intermediate one. -/
theorem bind_eq_ok_iff {f : α → Except ε β} {b : β} :
    x >>= f = .ok b ↔ ∃ a, x = .ok a ∧ f a = .ok b := by
  cases x with
  | error e => simp [bind, Except.bind]
  | ok a => simp [bind, Except.bind]

/-- A step that fails does so at once or behind an intermediate value. -/
theorem bind_eq_error_iff {f : α → Except ε β} {e : ε} :
    x >>= f = .error e ↔ x = .error e ∨ ∃ a, x = .ok a ∧ f a = .error e := by
  cases x with
  | error e' => simp [bind, Except.bind]
  | ok a => simp [bind, Except.bind]

theorem bind_eq_error {f : α → Except ε β} {e : ε} (h : x >>= f = .error e) :
    x = .error e ∨ ∃ a, x = .ok a ∧ f a = .error e := bind_eq_error_iff.mp h

theorem map_eq_ok {f : α → β} {b : β} (h : f <$> x = .ok b) : ∃ a, x = .ok a ∧ f a = b := by
  cases x with
  | error e => cases h
  | ok a =>
      cases h
      exact ⟨a, rfl, rfl⟩

theorem mapError_eq_ok {f : ε → ε'} {a : α} (h : x.mapError f = .ok a) : x = .ok a := by
  cases x with
  | error e => cases h
  | ok b =>
      cases h
      rfl

theorem mapError_eq_error_iff {f : ε → ε'} {e' : ε'} :
    x.mapError f = .error e' ↔ ∃ e, x = .error e ∧ f e = e' := by
  cases x with
  | error e => simp [Except.mapError]
  | ok a => simp [Except.mapError]

end Results

/-! ## Failures of steps -/

/-- Whatever a step fails with has some property. -/
def FailsWith {ε α : Type} (P : ε → Prop) (x : Except ε α) : Prop := ∀ e, x = .error e → P e

namespace FailsWith

variable {ε ε' α β : Type} {P : ε → Prop} {x : Except ε α}

theorem ok (a : α) : FailsWith P (.ok a : Except ε α) := nofun

theorem error {e : ε} (h : P e) : FailsWith P (.error e : Except ε α) := by
  rintro e' ⟨⟩
  exact h

theorem map {g : α → β} (h : FailsWith P x) : FailsWith P (x.map g) := by
  cases x with
  | error e => exact .error (h e rfl)
  | ok a => exact .ok _

theorem mapError {Q : ε' → Prop} {f : ε → ε'} (h : ∀ e, Q (f e)) :
    FailsWith Q (x.mapError f) := by
  cases x with
  | error e => exact .error (h e)
  | ok a => exact .ok _

theorem bind {f : α → Except ε β} (h : FailsWith P x) (hf : ∀ a, FailsWith P (f a)) :
    FailsWith P (x >>= f) := by
  intro e he
  rcases bind_eq_error he with he | ⟨a, -, he⟩
  · exact h e he
  · exact hf a e he

theorem mapM {f : α → Except ε β} (hf : ∀ a, FailsWith P (f a)) (items : List α) :
    FailsWith P (items.mapM f) := by
  induction items with
  | nil => exact .ok _
  | cons a items ih =>
      rw [List.mapM_cons]
      exact (hf a).bind fun _ => ih.bind fun _ => .ok _

end FailsWith

end MountainRange
