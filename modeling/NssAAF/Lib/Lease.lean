import Mathlib.Tactic.Common
import Mathlib.Data.Int.Basic

/-!
# Leases

A cell is free or leased to a token up to a time. The lease is over when the clock has passed that
time. A lease is claimed if the cell is free or its lease over, and only its own token releases or
renews it.

A store that counts milliseconds keeps a key up to and including its last one (`lastMillis`), by a
clock that is in nanoseconds.

While a token holds the lease, a claim and the operations of every other token leave the cell as it
is (`claim_of_holds`, `release_of_holds`, `renew_of_holds`).
-/

namespace Lease

def millis (now : ℤ) : ℤ := now / 1000000

/-- The last millisecond of a key that is set at `now` for a positive `ttl`. The clients send whole
milliseconds, and at least one. -/
def lastMillis (now ttl : ℤ) : ℤ := millis now + max 1 (ttl / 1000000)

variable {τ : Type*}

structure Grant (τ : Type*) where
  holder : τ
  expiresAt : ℤ
  deriving DecidableEq

/-- What the cell holds at a time. -/
def live (now : ℤ) (cell : Option (Grant τ)) : Option (Grant τ) :=
  cell.filter fun g => now ≤ g.expiresAt

/-- Leases the cell to the token for `ttl`, unless it is leased. -/
def claim (now ttl : ℤ) (token : τ) (cell : Option (Grant τ)) : Bool × Option (Grant τ) :=
  match live now cell with
  | some _ => (false, cell)
  | none => (true, some ⟨token, now + ttl⟩)

/-- Frees the cell if the token holds it. -/
def release [DecidableEq τ] (now : ℤ) (token : τ) (cell : Option (Grant τ)) :
    Bool × Option (Grant τ) :=
  match live now cell with
  | some g => if g.holder = token then (true, none) else (false, cell)
  | none => (false, cell)

/-- Leases the cell for another `ttl` if the token holds it. -/
def renew [DecidableEq τ] (now ttl : ℤ) (token : τ) (cell : Option (Grant τ)) :
    Bool × Option (Grant τ) :=
  match live now cell with
  | some g => if g.holder = token then (true, some ⟨token, now + ttl⟩) else (false, cell)
  | none => (false, cell)

/-- The cell is leased to the token at least up to `t`. -/
def Holds (token : τ) (t : ℤ) (cell : Option (Grant τ)) : Prop :=
  ∃ g, cell = some g ∧ g.holder = token ∧ t ≤ g.expiresAt

variable {token other : τ} {t now ttl : ℤ} {cell : Option (Grant τ)}

theorem Holds.unique (h : Holds token t cell) {t' : ℤ} (h' : Holds other t' cell) :
    other = token := by
  obtain ⟨g, rfl, rfl, -⟩ := h
  obtain ⟨g', hg', rfl, -⟩ := h'
  rw [Option.some.inj hg']

theorem Holds.live_eq (h : Holds token t cell) (hnow : now ≤ t) :
    ∃ g, live now cell = some g ∧ g.holder = token := by
  obtain ⟨g, rfl, hholder, ht⟩ := h
  refine ⟨g, ?_, hholder⟩
  unfold live
  rw [Option.filter_some, if_pos (decide_eq_true (Int.le_trans hnow ht))]

theorem claim_of_holds (h : Holds token t cell) (hnow : now ≤ t) (ttl : ℤ) (other : τ) :
    claim now ttl other cell = (false, cell) := by
  obtain ⟨g, hlive, -⟩ := h.live_eq hnow
  unfold claim
  rw [hlive]

theorem holds_of_claim (h : (claim now ttl token cell).1 = true) :
    Holds token (now + ttl) (claim now ttl token cell).2 := by
  unfold claim at h ⊢
  split at h
  · cases h
  · exact ⟨_, rfl, rfl, Int.le_refl _⟩

variable [DecidableEq τ]

theorem release_of_holds (h : Holds token t cell) (hnow : now ≤ t) (hne : other ≠ token) :
    release now other cell = (false, cell) := by
  obtain ⟨g, hlive, hholder⟩ := h.live_eq hnow
  unfold release
  rw [hlive]
  exact if_neg fun heq => hne (heq.symm.trans hholder)

theorem renew_of_holds (h : Holds token t cell) (hnow : now ≤ t) (hne : other ≠ token) (ttl : ℤ) :
    renew now ttl other cell = (false, cell) := by
  obtain ⟨g, hlive, hholder⟩ := h.live_eq hnow
  unfold renew
  rw [hlive]
  exact if_neg fun heq => hne (heq.symm.trans hholder)

/-- Whoever renews the lease, it lasts as long as before or longer. -/
theorem Holds.renew (h : Holds token t cell) (hnow : now ≤ t) (ht : t ≤ now + ttl) (other : τ) :
    Holds token t (Lease.renew now ttl other cell).2 := by
  by_cases hother : other = token
  · subst hother
    obtain ⟨g, hlive, hholder⟩ := h.live_eq hnow
    refine ⟨⟨other, now + ttl⟩, ?_, rfl, ht⟩
    unfold Lease.renew
    rw [hlive]
    dsimp only
    rw [if_pos hholder]
  · rw [renew_of_holds h hnow hother]
    exact h

theorem holds_of_renew (h : (Lease.renew now ttl token cell).1 = true) :
    Holds token (now + ttl) (Lease.renew now ttl token cell).2 := by
  unfold Lease.renew at h ⊢
  split at h
  · next g hg =>
    split_ifs at h ⊢
    exact ⟨_, rfl, rfl, Int.le_refl _⟩
  · cases h

end Lease
