import Mathlib.Tactic.Common
import Mathlib.Data.Int.Basic

/-!
# Retries

`Do` of `internal/resilience/retry.go` calls a function until it succeeds, at most `MaxAttempts`
times. Between two attempts it waits, and stops if the context is done by then. The length of the
waits is in `Resilience.Backoff`.
-/

namespace NssAAF.Resilience

/-- `MaxAttempts` of the default configuration. -/
def defaultMaxAttempts : ℤ := 3

def isRetryable (statusCode : ℕ) : Bool := statusCode ≥ 500 || statusCode == 429

variable {σ : Type*} (fn : σ → Except String Unit × σ) (done : ℕ → Option String)

def maxRetriesExceeded (lastErr : String) : String := "max retries exceeded: " ++ lastErr

/-- The attempts that remain, from number `attempt` on. `done attempt` is the error of the context
if it is done when the wait after that attempt is over. -/
def attempts : ℕ → ℕ → String → σ → Except String Unit × σ
  | 0, _, lastErr, s => (.error (maxRetriesExceeded lastErr), s)
  | remaining + 1, attempt, _, s =>
    match fn s with
    | (.ok (), s) => (.ok (), s)
    | (.error err, s) =>
      if remaining = 0 then (.error (maxRetriesExceeded err), s)
      else
        match done attempt with
        | some ctxErr => (.error ctxErr, s)
        | none => attempts remaining (attempt + 1) err s

/-- `Do`: calls `fn` until it succeeds. Without an attempt there is no last error. -/
def retry (maxAttempts : ℤ) (s : σ) : Except String Unit × σ :=
  attempts fn done (if maxAttempts = 0 then defaultMaxAttempts else maxAttempts).toNat 0
    "%!w(<nil>)" s

def afterAttempts (s : σ) : ℕ → σ
  | 0 => s
  | n + 1 => (fn (afterAttempts s n)).2

theorem afterAttempts_succ (s : σ) (n : ℕ) :
    afterAttempts fn (fn s).2 n = afterAttempts fn s (n + 1) := by
  induction n with
  | zero => rfl
  | succ n ih => exact congrArg (fun s => (fn s).2) ih

def FailsAt (s : σ) (n : ℕ) : Prop := ∃ err, (fn (afterAttempts fn s n)).1 = .error err

theorem failsAt_iff_ne_ok (s : σ) (n : ℕ) :
    FailsAt fn s n ↔ (fn (afterAttempts fn s n)).1 ≠ .ok () := by
  unfold FailsAt
  rcases (fn (afterAttempts fn s n)).1 with err | _ <;> simp

variable {fn done}

theorem attempts_of_fails (hdone : ∀ attempt, done attempt = none) {remaining : ℕ} {s : σ}
    (hfail : ∀ n < remaining, FailsAt fn s n) (attempt : ℕ) (lastErr : String) :
    ∃ err, attempts fn done remaining attempt lastErr s =
      (.error err, afterAttempts fn s remaining) := by
  induction remaining generalizing s attempt lastErr with
  | zero => exact ⟨_, rfl⟩
  | succ remaining ih =>
    obtain ⟨err, herr⟩ := hfail 0 (Nat.succ_pos _)
    have hfn : fn s = (.error err, (fn s).2) := Prod.ext herr rfl
    unfold attempts
    rw [hfn]
    dsimp only
    split_ifs with hlast
    · rw [hlast]
      exact ⟨_, rfl⟩
    · rw [hdone]
      have htail : ∀ n < remaining, FailsAt fn (fn s).2 n := by
        intro n hn
        unfold FailsAt
        rw [afterAttempts_succ]
        exact hfail (n + 1) (Nat.succ_lt_succ hn)
      obtain ⟨err', h⟩ := ih htail (attempt + 1) err
      exact ⟨err', by rw [← afterAttempts_succ]; exact h⟩

variable (fn done)

/-- The number of attempts made, out of those that remain. -/
def made : ℕ → ℕ → σ → ℕ
  | 0, _, _ => 0
  | remaining + 1, attempt, s =>
    match fn s with
    | (.ok (), _) => 1
    | (.error _, s) =>
      if remaining = 0 then 1
      else
        match done attempt with
        | some _ => 1
        | none => made remaining (attempt + 1) s + 1

/-- A run of `m` attempts out of `remaining`, from `s` to `result`: all but the last one failed with
the context alive, the last one had a reason to be the last, and the run succeeds just if that one
did. -/
structure Ran (remaining attempt : ℕ) (s : σ) (m : ℕ) (result : Except String Unit × σ) : Prop where
  le : m ≤ remaining
  pos : 0 < remaining → 0 < m
  fails : ∀ n, n + 1 < m → FailsAt fn s n
  alive : ∀ n, n + 1 < m → done (attempt + n) = none
  stops : ∀ n, n + 1 = m → m < remaining →
    (fn (afterAttempts fn s n)).1 = .ok () ∨ done (attempt + n) ≠ none
  state : result.2 = afterAttempts fn s m
  ok_iff : result.1 = .ok () ↔ ∃ n, n + 1 = m ∧ (fn (afterAttempts fn s n)).1 = .ok ()

variable {fn done}

theorem Ran.one {remaining attempt : ℕ} {s : σ} {r : Except String Unit}
    (h : r = .ok () ↔ (fn s).1 = .ok ())
    (hstops : 0 < remaining → (fn s).1 = .ok () ∨ done attempt ≠ none) :
    Ran fn done (remaining + 1) attempt s 1 (r, (fn s).2) where
  le := by omega
  pos := by omega
  fails n hn := by omega
  alive n hn := by omega
  stops n hn hlt := by
    obtain rfl : n = 0 := by omega
    exact hstops (by omega)
  state := rfl
  ok_iff := by
    refine h.trans ⟨fun hok => ⟨0, rfl, hok⟩, ?_⟩
    rintro ⟨n, hn, hok⟩
    obtain rfl : n = 0 := by omega
    exact hok

theorem Ran.cons {remaining attempt m : ℕ} {s : σ} {result : Except String Unit × σ} {err : String}
    (hfail : (fn s).1 = .error err) (halive : done attempt = none) (hpos : 0 < remaining)
    (h : Ran fn done remaining (attempt + 1) (fn s).2 m result) :
    Ran fn done (remaining + 1) attempt s (m + 1) result where
  le := Nat.succ_le_succ h.le
  pos := fun _ => Nat.succ_pos _
  fails n hn := by
    cases n with
    | zero => exact ⟨err, hfail⟩
    | succ n =>
      have hn' := h.fails n (by omega)
      unfold FailsAt at hn' ⊢
      rwa [afterAttempts_succ] at hn'
  alive n hn := by
    cases n with
    | zero => exact halive
    | succ n => simpa [Nat.add_right_comm, Nat.add_assoc] using h.alive n (by omega)
  stops n hn hlt := by
    have hm := h.pos hpos
    obtain ⟨n, rfl⟩ : ∃ k, n = k + 1 := ⟨n - 1, by omega⟩
    have hn' := h.stops n (by omega) (by omega)
    rw [afterAttempts_succ] at hn'
    simpa [Nat.add_right_comm, Nat.add_assoc] using hn'
  state := by rw [h.state, afterAttempts_succ]
  ok_iff := by
    rw [h.ok_iff]
    constructor
    · rintro ⟨n, hn, hok⟩
      rw [afterAttempts_succ] at hok
      exact ⟨n + 1, by omega, hok⟩
    · rintro ⟨n, hn, hok⟩
      have hm := h.pos hpos
      obtain ⟨n, rfl⟩ : ∃ k, n = k + 1 := ⟨n - 1, by omega⟩
      rw [← afterAttempts_succ] at hok
      exact ⟨n, by omega, hok⟩

/-- The attempts made are those with failures only before them, and with the context alive. -/
theorem Ran.lt_iff {remaining attempt m : ℕ} {s : σ} {result : Except String Unit × σ}
    (h : Ran fn done remaining attempt s m result) (n : ℕ) :
    n < m ↔ n < remaining ∧ ∀ i < n, FailsAt fn s i ∧ done (attempt + i) = none := by
  constructor
  · intro hn
    have hle := h.le
    exact ⟨by omega, fun i hi => ⟨h.fails i (by omega), h.alive i (by omega)⟩⟩
  · rintro ⟨hn, hbefore⟩
    by_contra hle
    have hm := h.pos (by omega)
    obtain ⟨i, rfl⟩ : ∃ i, m = i + 1 := ⟨m - 1, by omega⟩
    obtain ⟨hfail, halive⟩ := hbefore i (by omega)
    rcases h.stops i rfl (by omega) with hok | hdone
    · exact (failsAt_iff_ne_ok fn s i).mp hfail hok
    · exact hdone halive

theorem ran_attempts (remaining attempt : ℕ) (lastErr : String) (s : σ) :
    Ran fn done remaining attempt s (made fn done remaining attempt s)
      (attempts fn done remaining attempt lastErr s) := by
  induction remaining generalizing attempt lastErr s with
  | zero => constructor <;> simp [made, attempts, afterAttempts]
  | succ remaining ih =>
    unfold made attempts
    split
    · next s' hs =>
      obtain rfl : s' = (fn s).2 := by rw [hs]
      have hok : (fn s).1 = .ok () := by rw [hs]
      exact .one (by simp [hok]) fun _ => .inl hok
    · next err s' hs =>
      obtain rfl : s' = (fn s).2 := by rw [hs]
      have hfail : (fn s).1 = .error err := by rw [hs]
      split_ifs with hlast
      · exact .one (by simp [hfail]) fun hpos => absurd hlast (Nat.pos_iff_ne_zero.mp hpos)
      · split
        · next hdone => exact .one (by simp [hfail]) fun _ => .inr (by simp [hdone])
        · next hdone => exact .cons hfail hdone (Nat.pos_of_ne_zero hlast) (ih _ _ _)

def allowed (maxAttempts : ℤ) : ℕ :=
  (if maxAttempts = 0 then defaultMaxAttempts else maxAttempts).toNat

variable (fn done)

def callsOfDo (maxAttempts : ℤ) (s : σ) : ℕ :=
  made fn done (allowed maxAttempts) 0 s

theorem ran_retry (maxAttempts : ℤ) (s : σ) :
    Ran fn done (allowed maxAttempts) 0 s (callsOfDo fn done maxAttempts s)
      (retry fn done maxAttempts s) :=
  ran_attempts _ _ _ _

end NssAAF.Resilience
