import NssAAF.Storage.NssaaRoundTrip
import NssAAF.Lib.Interleaving

/-!
# Saves and deletions that run beside each other

The table takes one statement after the other. A save is up to two of them, an update and an
insert, without a transaction. So every interleaving of the statements of any number of saves and
deletions is a schedule of threads over the table. The primary key of the table is the identifier
together with the creation time.

* `save_alone`: a save whose statements are not interrupted does what `NssaaTable.save` does.
* `one_row_per_context`: no context gets a second row, unless two saves that would create it at
  different times are both between their statements.
-/

namespace NssAAF.Storage

open Interleaving Transducer

/-- The primary key of a row. -/
def NssaaRow.primaryKey (r : NssaaRow) : String × Time := (r.authCtxID, r.createdAt)

def duplicateKey : String := "duplicate key value violates unique constraint"

namespace NssaaTable

variable (enc : Encryptor) (t : NssaaTable)

def primaryKeys : List (String × Time) := t.map fun r => r.primaryKey

/-- The insert of `createRow`, with the constraint of the primary key. -/
def insertRow (st : Statement) (r : NssaaRow) : Except StoreError NssaaTable :=
  match t.createRow enc st r with
  | .error err => .error err
  | .ok t' => if r.primaryKey ∈ t.primaryKeys then .error (.failed duplicateKey) else .ok t'

def delete (fault : Option String) (id : String) : Except StoreError NssaaTable :=
  match fault with
  | some err => .error (.failed ("nssaa delete: " ++ err))
  | none =>
    if Table.affected (fun r : StoredRow => r.authCtxID) id t = 0 then .error .sessionNotFound
    else .ok (Table.delete (fun r : StoredRow => r.authCtxID) id t)

/-- No two rows have the same identifier. -/
def OneRow : Prop := (t.map fun r => r.authCtxID).Nodup

instance : Decidable t.OneRow := inferInstanceAs (Decidable (List.Nodup _))

end NssaaTable

/-! ## The calls -/

structure Turn where
  now : Time
  statement : Statement

inductive Request
  | save (s : NssaaSession)
  | delete (id : String)

/-- A call that is being processed. A save whose update has found no row is an insert. -/
inductive Call
  | save (s : NssaaSession)
  | insert (r : NssaaRow)
  | delete (id : String)
  | finished (result : Except StoreError Unit)

def Request.call : Request → Call
  | .save s => .save s
  | .delete id => .delete id

namespace Call

variable (enc : Encryptor) (a : Turn) (t : NssaaTable)

/-- The end of a call. A statement that fails leaves the table. -/
def finish : Except StoreError NssaaTable → NssaaTable × Call
  | .error err => (t, .finished (.error err))
  | .ok t' => (t', .finished (.ok ()))

def next : Call → NssaaTable × Call
  | .save s =>
    match t.updateRow enc a.statement (sessionToRow a.now s) with
    | .error .sessionNotFound => (t, .insert (sessionToRow a.now s))
    | result => finish t result
  | .insert r => finish t (t.insertRow enc a.statement r)
  | .delete id => finish t (t.delete a.statement.fault id)
  | .finished result => (t, .finished result)

def inserting : Call → Option NssaaRow
  | .insert r => some r
  | _ => none

/-- What a statement can do to the primary keys of the table. -/
inductive Moves : Call → NssaaTable → Call → Prop
  | finished {c : Call} {t' : NssaaTable} (result : Except StoreError Unit)
      (kept : List.Sublist t'.primaryKeys t.primaryKeys) : Moves c t' (.finished result)
  | absent {s : NssaaSession} (now : Time) (missing : t.row s.authCtxID = none) :
      Moves (.save s) t (.insert (sessionToRow now s))
  | inserted {r : NssaaRow} {t' : NssaaTable} (new : r.primaryKey ∉ t.primaryKeys)
      (keys : t'.primaryKeys = t.primaryKeys ++ [r.primaryKey]) :
      Moves (.insert r) t' (.finished (.ok ()))

end Call

variable {enc : Encryptor} {t t' : NssaaTable}

theorem primaryKey_encryptRow {st : Statement} {what : String} {r : NssaaRow} {new : StoredRow}
    (h : encryptRow enc st what r = .ok new) : new.primaryKey = r.primaryKey := by
  obtain ⟨-, -, hnew⟩ := encryptRow_ok h
  rw [hnew]
  rfl

theorem NssaaTable.primaryKeys_updateRow {st : Statement} {r : NssaaRow}
    (h : t.updateRow enc st r = .ok t') : t'.primaryKeys = t.primaryKeys := by
  obtain ⟨new, -, -, rfl⟩ := updateRow_ok h
  exact Table.map_update fun _ => rfl

theorem NssaaTable.insertRow_ok {st : Statement} {r : NssaaRow}
    (h : t.insertRow enc st r = .ok t') :
    r.primaryKey ∉ t.primaryKeys ∧ t'.primaryKeys = t.primaryKeys ++ [r.primaryKey] := by
  unfold insertRow at h
  split at h
  · cases h
  · rename_i hc
    split_ifs at h with hkey
    cases h
    obtain ⟨new, hnew, rfl⟩ := createRow_ok hc
    refine ⟨hkey, ?_⟩
    unfold primaryKeys
    rw [List.map_append, List.map_singleton, primaryKey_encryptRow hnew]

theorem NssaaTable.delete_ok {fault : Option String} {id : String}
    (h : t.delete fault id = .ok t') : List.Sublist t'.primaryKeys t.primaryKeys := by
  unfold delete at h
  split at h
  · cases h
  · split_ifs at h with ha
    cases h
    exact List.filter_sublist.map _

theorem Call.Moves.of_finish {c : Call} {result : Except StoreError NssaaTable}
    (h : ∀ t', result = .ok t' → c.Moves t t' (.finished (.ok ()))) :
    c.Moves t (finish t result).1 (finish t result).2 := by
  cases result with
  | error err => exact .finished (.error err) (List.Sublist.refl _)
  | ok t' => exact h t' rfl

theorem Call.next_moves (enc : Encryptor) (a : Turn) (t : NssaaTable) (c : Call) :
    c.Moves t (next enc a t c).1 (next enc a t c).2 := by
  cases c with
  | save s =>
    dsimp only [next]
    split
    · rename_i hu
      exact .absent a.now (NssaaTable.updateRow_sessionNotFound hu)
    · apply Moves.of_finish
      intro t' hu
      have hkeys := NssaaTable.primaryKeys_updateRow hu
      exact .finished (.ok ()) (by rw [hkeys])
  | insert r =>
    apply Moves.of_finish
    intro t' hi
    obtain ⟨hnew, hkeys⟩ := NssaaTable.insertRow_ok hi
    exact .inserted hnew hkeys
  | delete id =>
    apply Moves.of_finish
    intro t' hd
    exact .finished (.ok ()) (NssaaTable.delete_ok hd)
  | finished result => exact .finished result (List.Sublist.refl _)

theorem save_alone (enc : Encryptor) (w : Writing) (s : NssaaSession) (t : NssaaTable)
    (now : Time) :
    alone (Call.next enc) [⟨w.now, w.update⟩, ⟨now, w.insert⟩] (t, .save s) =
      Call.finish t (t.save enc w s) := by
  unfold NssaaTable.save
  simp only [alone, Call.next]
  cases hu : t.updateRow enc w.update (sessionToRow w.now s) with
  | ok t' => rfl
  | error err =>
    cases err with
    | failed msg => rfl
    | sessionNotFound =>
      have hrow := NssaaTable.updateRow_sessionNotFound hu
      -- the update has found no row, so the insert finds none with its key
      have hkey : (sessionToRow w.now s).primaryKey ∉ t.primaryKeys := by
        intro hmem
        obtain ⟨r, hr, heq⟩ := List.mem_map.mp hmem
        have hfound := List.find?_eq_none.mp hrow r hr
        exact hfound (decide_eq_true (congrArg Prod.fst heq))
      show Call.finish t (t.insertRow enc w.insert (sessionToRow w.now s)) = _
      unfold NssaaTable.insertRow
      cases hc : t.createRow enc w.insert (sessionToRow w.now s) with
      | error err => rfl
      | ok t' =>
        dsimp only
        rw [if_neg hkey]

/-! ## Schedules -/

/-- A schedule: calls are started, and those that are started take their turns. -/
def schedule (es : List (Event Request Turn)) : List (Event Call Turn) :=
  es.map fun
    | .start q => .start q.call
    | .run n a => .run n a

theorem call_of_start_mem_schedule {es : List (Event Request Turn)} {c : Call}
    (h : Event.start c ∈ schedule es) : ∃ q : Request, c = q.call :=
  exists_of_start_mem_map h (fun _ => rfl) fun _ _ => rfl

/-- The rows that the calls in progress are about to insert. -/
def pendingInserts (s : System NssaaTable Call) : List NssaaRow :=
  s.threads.filterMap Call.inserting

/-- Saves that are between their update and their insert for the same context create it at the same
time. -/
def Separate (s : System NssaaTable Call) : Prop :=
  ∀ r ∈ pendingInserts s, ∀ r' ∈ pendingInserts s, r.authCtxID = r'.authCtxID →
    r.createdAt = r'.createdAt

instance (s : System NssaaTable Call) : Decidable (Separate s) :=
  inferInstanceAs (Decidable (∀ r ∈ pendingInserts s, ∀ r' ∈ pendingInserts s, _ → _))

/-- Every context has one row. A context that is about to be inserted has none, or one with the
creation time of the row to come. -/
structure Guarded (s : System NssaaTable Call) : Prop where
  oneRow : s.shared.OneRow
  created : ∀ r ∈ pendingInserts s, ∀ k ∈ s.shared.primaryKeys, k.1 = r.authCtxID →
    k.2 = r.createdAt

theorem NssaaTable.oneRow_iff : t.OneRow ↔ (t.primaryKeys.map Prod.fst).Nodup := by
  unfold OneRow primaryKeys
  rw [List.map_map]
  rfl

/-- What a call in progress is about to insert after another one has taken its turn. -/
theorem mem_filterMap_set {cs : List Call} {n : ℕ} {c : Call} {r : NssaaRow}
    (h : r ∈ (cs.set n c).filterMap Call.inserting) :
    r ∈ cs.filterMap Call.inserting ∨ c.inserting = some r := by
  obtain ⟨c', hc', hr⟩ := List.mem_filterMap.mp h
  rcases List.mem_or_eq_of_mem_set hc' with hmem | rfl
  · exact Or.inl (List.mem_filterMap.mpr ⟨c', hmem, hr⟩)
  · exact Or.inr hr

theorem Guarded.start {s : System NssaaTable Call} (h : Guarded s) (q : Request) :
    Guarded ⟨s.shared, s.threads ++ [q.call]⟩ := by
  have hpending : pendingInserts ⟨s.shared, s.threads ++ [q.call]⟩ = pendingInserts s := by
    cases q <;> simp [pendingInserts, Request.call, Call.inserting]
  refine ⟨h.oneRow, ?_⟩
  rw [hpending]
  exact h.created

/-- A turn keeps the guard if the calls between their statements do not stand in each other's
way. -/
theorem Guarded.moves {s : System NssaaTable Call} {n : ℕ} {c c' : Call} (h : Guarded s)
    (hsep : Separate s) (hc : s.threads[n]? = some c) (hm : c.Moves s.shared t' c') :
    Guarded ⟨t', s.threads.set n c'⟩ := by
  have hone := NssaaTable.oneRow_iff.mp h.oneRow
  cases hm with
  | finished result hkept =>
    refine ⟨NssaaTable.oneRow_iff.mpr (hone.sublist (hkept.map _)), ?_⟩
    intro r hr k hk hid
    rcases mem_filterMap_set hr with hr | hr
    · exact h.created r hr k (hkept.subset hk) hid
    · cases hr
  | @absent s' now hmissing =>
    refine ⟨h.oneRow, ?_⟩
    intro r hr k hk hid
    rcases mem_filterMap_set hr with hr | hr
    · exact h.created r hr k hk hid
    · -- there is no row of the context
      cases hr
      obtain ⟨r, hr, rfl⟩ := List.mem_map.mp hk
      exact absurd (decide_eq_true hid) (List.find?_eq_none.mp hmissing r hr)
  | @inserted r t' hnew hkeys =>
    have hr : r ∈ pendingInserts s :=
      List.mem_filterMap.mpr ⟨_, List.mem_of_getElem? hc, rfl⟩
    -- a row of the context would have the key of the new one
    have hfresh : ∀ k ∈ s.shared.primaryKeys, k.1 ≠ r.authCtxID := by
      intro k hk hid
      apply hnew
      rwa [← show k = r.primaryKey from Prod.ext hid (h.created r hr k hk hid)]
    constructor
    · rw [NssaaTable.oneRow_iff, hkeys, List.map_append, List.nodup_append]
      refine ⟨hone, by simp, ?_⟩
      intro id hid id' hid'
      obtain ⟨k, hk, rfl⟩ := List.mem_map.mp hid
      obtain rfl := List.mem_singleton.mp hid'
      exact hfresh k hk
    · intro r' hr' k hk hid
      rcases mem_filterMap_set hr' with hr' | hr'
      · rw [hkeys] at hk
        rcases List.mem_append.mp hk with hk | hk
        · exact h.created r' hr' k hk hid
        · obtain rfl := List.mem_singleton.mp hk
          exact hsep r hr r' hr' hid
      · cases hr'

theorem Guarded.step {s : System NssaaTable Call} (h : Guarded s) (hsep : Separate s)
    {e : Event Call Turn} (he : ∀ c, e = .start c → ∃ q : Request, c = q.call) :
    Guarded (step (Call.next enc) s e).2 := by
  cases e with
  | start c =>
    obtain ⟨q, rfl⟩ := he c rfl
    exact h.start q
  | run n a =>
    cases hc : s.threads[n]? with
    | none =>
      rw [step_run_of_none _ hc]
      exact h
    | some c =>
      rw [step_run _ hc]
      exact h.moves hsep hc (c.next_moves enc a s.shared)

/-- **One row for each context.** Whatever the order of the statements of saves and deletions, no
context gets a second row, if at no time two saves of one context are both between their update and
their insert and would create it at different times. -/
theorem one_row_per_context (ht : t.OneRow) {es : List (Event Request Turn)}
    (hsep : ∀ st ∈ trace (step (Call.next enc)) ⟨t, []⟩ (schedule es), Separate st.pre) :
    ∀ st ∈ trace (step (Call.next enc)) ⟨t, []⟩ (schedule es), st.post.shared.OneRow := by
  intro st hst
  have hguarded : Guarded (⟨t, []⟩ : System NssaaTable Call) :=
    ⟨ht, fun r hr => absurd hr List.not_mem_nil⟩
  have hpost : Guarded st.post := by
    refine inv_post_of_mem_trace
      (C := fun st => Separate st.pre ∧ ∀ c, st.input = .start c → ∃ q : Request, c = q.call)
      (fun s e hg hc => hg.step hc.1 hc.2) hguarded (fun st hst => ⟨hsep st hst, ?_⟩) hst
    intro c hc
    exact call_of_start_mem_schedule (hc ▸ input_mem_of_mem_trace hst)
  exact hpost.oneRow

namespace Sample

/-- A session of the same context that another request has made a second later. -/
def laterSession : NssaaSession :=
  { session with createdAt := some (1780000001 * second) }

def turn : Turn := ⟨0, statement⟩

/-- Two saves, one after the other, and a deletion. -/
def inTurn : List (Event Request Turn) :=
  [.start (.save session), .start (.save laterSession), .start (.delete "ctx"), .run 0 turn,
    .run 0 turn, .run 1 turn, .run 2 turn]

/-- Two saves whose updates both come before their inserts. -/
def atOnce : List (Event Request Turn) :=
  [.start (.save session), .start (.save laterSession), .run 0 turn, .run 1 turn, .run 0 turn,
    .run 1 turn]

end Sample

theorem saves_in_turn_one_row :
    (trace (step (Call.next Sample.enc)) ⟨[], []⟩ (schedule Sample.inTurn)).map
        (fun st => st.post.shared.length) = [0, 0, 0, 0, 1, 1, 0] ∧
      ∀ st ∈ trace (step (Call.next Sample.enc)) ⟨[], []⟩ (schedule Sample.inTurn),
        st.post.shared.OneRow :=
  ⟨by decide +kernel, one_row_per_context (t := []) (by decide) (by decide +kernel)⟩

/-- Both saves find no row, and both inserts are accepted. -/
theorem saves_at_once_two_rows :
    (final (step (Call.next Sample.enc)) ⟨[], []⟩ (schedule Sample.atOnce)).shared.primaryKeys =
        [("ctx", 1780000000 * second), ("ctx", 1780000001 * second)] ∧
      ¬ (final (step (Call.next Sample.enc)) ⟨[], []⟩ (schedule Sample.atOnce)).shared.OneRow := by
  decide +kernel

end NssAAF.Storage
