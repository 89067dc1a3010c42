import NssAAF.Lib.Results

/-!
# Computations with a log of their calls

A `Logged κ ε α` is a computation that may fail, together with the calls it makes, in their order.
What follows a failure is not called. `bind_ok` and `bind_error` say what two steps come to, and
`result_bind` that their result is that of the two results.
-/

/-- The calls that a computation makes, and what comes of it. -/
structure Logged (κ ε α : Type) where
  calls : List κ
  result : Except ε α

namespace Logged

variable {κ ε α β : Type}

instance : Monad (Logged κ ε) where
  pure a := ⟨[], .ok a⟩
  bind x f :=
    match x.result with
    | .error err => ⟨x.calls, .error err⟩
    | .ok a => ⟨x.calls ++ (f a).calls, (f a).result⟩

/-- A failure without a call. -/
def fail (err : ε) : Logged κ ε α := ⟨[], .error err⟩

/-- One call, and what comes of it. -/
def call (k : κ) (result : Except ε α) : Logged κ ε α := ⟨[k], result⟩

@[simp] theorem result_fail (err : ε) : (fail err : Logged κ ε α).result = .error err := rfl

variable {x : Logged κ ε α} {f : α → Logged κ ε β}

theorem bind_ok {a : α} (h : x.result = .ok a) :
    x >>= f = ⟨x.calls ++ (f a).calls, (f a).result⟩ := by
  simp only [bind, h]

theorem bind_error {err : ε} (h : x.result = .error err) : x >>= f = ⟨x.calls, .error err⟩ := by
  simp only [bind, h]

theorem result_bind : (x >>= f).result = x.result >>= fun a => (f a).result := by
  cases h : x.result with
  | error err => rw [bind_error h]; rfl
  | ok a => rw [bind_ok h]; rfl

/-- A result of two steps is one of the second from one of the first. -/
theorem result_bind_eq_ok {b : β} :
    (x >>= f).result = .ok b ↔ ∃ a, x.result = .ok a ∧ (f a).result = .ok b := by
  rw [result_bind, Results.bind_eq_ok_iff]

end Logged
