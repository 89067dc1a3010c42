import Mathlib.Tactic.Common
import Mathlib.Data.List.Basic

/-!
# Transactions

A session with a database: the state that is durable, and what an open transaction block has made of
it. Blocks do not nest. `BEGIN` inside a block has no effect, and `COMMIT` ends the block, whoever
began it. Outside a block a change is durable at once.

Statements are sent together. A fault leaves the first of them executed, and no block open: the
session is rolled back, or its connection is lost.
-/

namespace Transaction

inductive Statement (δ : Type*)
  | begin
  | commit
  | change (f : δ → δ)

/-- A session over databases in `δ`. -/
structure Session (δ : Type*) where
  durable : δ
  block : Option δ

/-- A failure after some statements have been executed. -/
structure Fault where
  after : ℕ
  err : String
  deriving DecidableEq

variable {δ : Type*}

namespace Session

variable (s : Session δ)

def exec : Statement δ → Session δ
  | .begin =>
    match s.block with
    | none => { s with block := some s.durable }
    | some _ => s
  | .commit =>
    match s.block with
    | none => s
    | some d => ⟨d, none⟩
  | .change f =>
    match s.block with
    | none => { s with durable := f s.durable }
    | some d => { s with block := some (f d) }

def run (stmts : List (Statement δ)) : Session δ := stmts.foldl exec s

/-- The end of the block without a commit. -/
def drop : Session δ := { s with block := none }

def send (fault : Option Fault) (stmts : List (Statement δ)) : Option String × Session δ :=
  match fault with
  | none => (none, s.run stmts)
  | some fault => (some fault.err, (s.run (stmts.take fault.after)).drop)

end Session

/-! ## Scripts -/

/-- The statements of a script that makes changes, with or without a block of its own. -/
def script (enclosed : Bool) (changes : List (δ → δ)) : List (Statement δ) :=
  if enclosed then .begin :: changes.map .change ++ [.commit] else changes.map .change

/-- The changes, one after the other. -/
def applied (changes : List (δ → δ)) (d : δ) : δ := changes.foldl (fun d f => f d) d

theorem run_append (s : Session δ) (stmts stmts' : List (Statement δ)) :
    s.run (stmts ++ stmts') = (s.run stmts).run stmts' :=
  List.foldl_append

theorem run_changes (d w : δ) (changes : List (δ → δ)) :
    Session.run ⟨d, some w⟩ (changes.map .change) = ⟨d, some (applied changes w)⟩ := by
  induction changes generalizing w with
  | nil => rfl
  | cons f changes ih => exact ih (f w)

theorem run_enclosed (d w : δ) (changes : List (δ → δ)) :
    Session.run ⟨d, some w⟩ (script true changes) = ⟨applied changes w, none⟩ := by
  show Session.run (Session.exec ⟨d, some w⟩ .begin) (changes.map .change ++ [.commit]) = _
  rw [run_append, show Session.exec ⟨d, some w⟩ .begin = ⟨d, some w⟩ from rfl, run_changes]
  rfl

theorem run_plain (d w : δ) (changes : List (δ → δ)) :
    Session.run ⟨d, some w⟩ (script false changes) = ⟨d, some (applied changes w)⟩ :=
  run_changes d w changes

theorem durable_run_of_no_commit {stmts : List (Statement δ)} (h : .commit ∉ stmts) (d w : δ) :
    (Session.run ⟨d, some w⟩ stmts).durable = d := by
  induction stmts generalizing w with
  | nil => rfl
  | cons stmt stmts ih =>
    have htail : .commit ∉ stmts := fun hmem => h (List.mem_cons_of_mem _ hmem)
    cases stmt with
    | begin => exact ih htail w
    | commit => exact absurd List.mem_cons_self h
    | change f => exact ih htail (f w)

theorem commit_not_mem_changes (changes : List (δ → δ)) :
    Statement.commit ∉ changes.map Statement.change := by
  simp

theorem length_script (changes : List (δ → δ)) :
    (script true changes).length = changes.length + 2 := by
  simp [script]

/-- What is durable of a script with a block of its own after a fault: everything if the fault came
after the last statement, and nothing otherwise. -/
theorem durable_send_enclosed (d w : δ) (changes : List (δ → δ)) (n : ℕ) :
    (Session.run ⟨d, some w⟩ ((script true changes).take n)).drop.durable =
      if changes.length + 2 ≤ n then applied changes w else d := by
  split_ifs with hn
  · rw [List.take_of_length_le (by rw [length_script]; exact hn), run_enclosed]
    rfl
  · refine durable_run_of_no_commit ?_ d w
    intro hmem
    have hlen : (Statement.begin :: changes.map Statement.change).length = changes.length + 1 := by
      simp
    have hscript : (script true changes).take n =
        (Statement.begin :: changes.map Statement.change).take n := by
      unfold script
      rw [if_pos rfl, List.take_append_of_le_length (by omega)]
    rw [hscript] at hmem
    have hmem := List.mem_of_mem_take hmem
    simp at hmem

theorem durable_send_plain (d w : δ) (changes : List (δ → δ)) (n : ℕ) :
    (Session.run ⟨d, some w⟩ ((script false changes).take n)).drop.durable = d :=
  durable_run_of_no_commit
    (fun hmem => commit_not_mem_changes changes (List.mem_of_mem_take hmem)) d w

end Transaction
