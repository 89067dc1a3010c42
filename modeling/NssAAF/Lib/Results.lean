import Mathlib.Tactic.Common

/-!
# Results that may be errors

Small rules for `Except`: how a result of a computation in steps comes about, and when it is one.
-/

namespace Results

variable {ε α β : Type}

theorem not_exists_ok {err : ε} : ¬ ∃ a, (Except.error err : Except ε α) = .ok a := by
  rintro ⟨a, h⟩
  cases h

/-- A result of two steps is one of the second from one of the first. -/
theorem of_bind_ok {x : Except ε α} {f : α → Except ε β} {b : β} (h : x >>= f = .ok b) :
    ∃ a, x = .ok a ∧ f a = .ok b := by
  cases x with
  | error err => cases h
  | ok a => exact ⟨a, rfl, h⟩

theorem bind_eq_ok_iff {x : Except ε α} {f : α → Except ε β} {b : β} :
    x >>= f = .ok b ↔ ∃ a, x = .ok a ∧ f a = .ok b := by
  refine ⟨of_bind_ok, ?_⟩
  rintro ⟨a, rfl, h⟩
  exact h

theorem of_bind_error {x : Except ε α} {f : α → Except ε β} {err : ε} (h : x >>= f = .error err) :
    x = .error err ∨ ∃ a, x = .ok a ∧ f a = .error err := by
  cases x with
  | error err' => exact Or.inl (congrArg Except.error (Except.error.inj h))
  | ok a => exact Or.inr ⟨a, rfl, h⟩

theorem of_mapError_error {ε' : Type} {x : Except ε α} {f : ε → ε'} {err : ε'}
    (h : x.mapError f = .error err) : ∃ err', x = .error err' ∧ f err' = err := by
  cases x with
  | error err' => exact ⟨err', rfl, Except.error.inj h⟩
  | ok a => cases h

theorem mapError_eq_ok_iff {ε' : Type} {x : Except ε α} {f : ε → ε'} {a : α} :
    x.mapError f = .ok a ↔ x = .ok a := by
  cases x with
  | error err => exact iff_of_false nofun nofun
  | ok b => exact ⟨fun h => by cases h; rfl, fun h => by cases h; rfl⟩

theorem of_map_ok {x : Except ε α} {f : α → β} {b : β} (h : x.map f = .ok b) :
    ∃ a, x = .ok a ∧ f a = b := by
  cases x with
  | error err => cases h
  | ok a => exact ⟨a, rfl, Except.ok.inj h⟩

theorem exists_map_ok {x : Except ε α} {f : α → β} : (∃ b, x.map f = .ok b) ↔ ∃ a, x = .ok a := by
  cases x with
  | error err => exact iff_of_false not_exists_ok not_exists_ok
  | ok a => exact iff_of_true ⟨f a, rfl⟩ ⟨a, rfl⟩

end Results
