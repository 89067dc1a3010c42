import Mathlib.Tactic.Common
import Mathlib.Data.List.Basic

/-!
# Tables with a key column

A table is the list of its rows, and `key` is the column that the statements select by. Several
rows may have the same key. `select_update`, `select_insert_self` and `select_insert_ne` say what is
selected after an update and after an insert.
-/

namespace Table

variable {ρ κ : Type*} [DecidableEq κ] (key : ρ → κ)

/-- `SELECT .. WHERE key = k`, of which the first row is read. -/
def select (k : κ) (t : List ρ) : Option ρ := t.find? fun r => key r = k

/-- The rows after `UPDATE .. SET f WHERE key = k`. -/
def update (k : κ) (f : ρ → ρ) (t : List ρ) : List ρ := t.map fun r => if key r = k then f r else r

/-- The rows after `DELETE .. WHERE key = k`. -/
def delete (k : κ) (t : List ρ) : List ρ := t.filter fun r => key r ≠ k

/-- How many rows a statement `.. WHERE key = k` affects. -/
def affected (k : κ) (t : List ρ) : ℕ := t.countP fun r => key r = k

variable {key} {k k' : κ} {f : ρ → ρ} {r : ρ} {t : List ρ}

theorem key_of_select (h : select key k t = some r) : key r = k := by
  simpa using List.find?_some h

theorem affected_eq_zero : affected key k t = 0 ↔ select key k t = none := by
  unfold affected select
  simp [List.countP_eq_zero]

/-- An update that keeps the keys changes the selected row in its place. -/
theorem select_update (hf : ∀ r, key (f r) = key r) :
    select key k' (update key k f t) =
      (select key k' t).map fun r => if key r = k then f r else r := by
  have hp : ((fun r => decide (key r = k')) ∘ fun r => if key r = k then f r else r) =
      fun r => decide (key r = k') := by
    funext r
    by_cases h : key r = k
    · simp [h, hf]
    · simp [h]
  unfold select update
  rw [List.find?_map, hp]

theorem select_update_ne (hf : ∀ r, key (f r) = key r) (hne : k' ≠ k) :
    select key k' (update key k f t) = select key k' t := by
  rw [select_update hf]
  cases h : select key k' t with
  | none => rfl
  | some r => rw [Option.map_some, if_neg fun heq => hne ((key_of_select h).symm.trans heq)]

theorem map_update {γ : Type*} {column : ρ → γ} (hf : ∀ r, column (f r) = column r) :
    (update key k f t).map column = t.map column := by
  unfold update
  rw [List.map_map]
  apply List.map_congr_left
  intro r _
  show column (if key r = k then f r else r) = column r
  split
  · exact hf r
  · rfl

theorem select_insert_self (h : select key k t = none) (hr : key r = k) :
    select key k (t ++ [r]) = some r := by
  unfold select at h ⊢
  rw [List.find?_append, h]
  simp [hr]

theorem select_insert_ne (hr : key r ≠ k) : select key k (t ++ [r]) = select key k t := by
  unfold select
  rw [List.find?_append]
  simp [hr]

theorem nodup_insert (h : (t.map key).Nodup) (hr : select key (key r) t = none) :
    ((t ++ [r]).map key).Nodup := by
  rw [List.map_append, List.nodup_append]
  refine ⟨h, by simp, ?_⟩
  intro k hk k' hk' heq
  obtain ⟨q, hq, rfl⟩ := List.mem_map.mp hk
  obtain rfl := List.mem_singleton.mp hk'
  exact List.find?_eq_none.mp hr q hq (by simp [heq])

theorem filter_of_nodup (h : (t.map key).Nodup) (p : ρ → Prop) [DecidablePred p] :
    t.filter (fun r => key r = k ∧ p r) = ((select key k t).filter fun r => p r).toList := by
  induction t with
  | nil => rfl
  | cons r t ih =>
    obtain ⟨hr, ht⟩ := List.nodup_cons.mp h
    unfold select at ih ⊢
    by_cases hk : key r = k
    · -- no other row has the key
      have hrest : t.filter (fun r => key r = k ∧ p r) = [] := by
        rw [List.filter_eq_nil_iff]
        intro r' hr' hp
        rw [decide_eq_true_eq] at hp
        exact hr (List.mem_map.mpr ⟨r', hr', hp.1.trans hk.symm⟩)
      rw [List.filter_cons, hrest, List.find?_cons_of_pos (by simp [hk])]
      by_cases hp : p r <;> simp [hk, hp, Option.filter_some]
    · rw [List.filter_cons_of_neg (by simp [hk]), List.find?_cons_of_neg (by simp [hk]), ih ht]

theorem lookup_iff_mem {ν : Type*} {v : ν} {l : List (κ × ν)} (h : (l.map Prod.fst).Nodup) :
    l.lookup k = some v ↔ (k, v) ∈ l := by
  induction l with
  | nil => simp
  | cons e l ih =>
    obtain ⟨k', v'⟩ := e
    obtain ⟨hk', hl⟩ := List.nodup_cons.mp h
    rw [List.lookup_cons, List.mem_cons, Prod.mk.injEq]
    by_cases hk : k = k'
    · subst hk
      have hnot : (k, v) ∉ l := fun hmem => hk' (List.mem_map.mpr ⟨_, hmem, rfl⟩)
      simp [hnot, eq_comm]
    · have hne : (k == k') = false := by simpa using hk
      rw [hne]
      simp [hk, ih hl]

end Table
