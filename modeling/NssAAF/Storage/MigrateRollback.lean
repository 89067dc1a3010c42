import NssAAF.Storage.Migrate

/-!
# Rolling back migrations

`Rollback` of `internal/storage/postgres/migrate.go` goes through the files that migrate up from the
highest version down, and runs the file that migrates down for those that are recorded. It passes
over a version without such a file, and over recorded versions without a file that migrates up, and
it looks at the number of steps only after it has rolled one back.

`rollback_exact_iff` says when a successful run removes the versions that it is asked to remove and
a following `Migrate` brings back the versions that were recorded before, and no others.
-/

namespace NssAAF.Storage.Migrations

open Transaction

/-- The text with the first occurrence of `old` replaced. -/
def replaceFirst (old new : List Char) : List Char → List Char
  | [] => []
  | c :: cs =>
    if old.isPrefixOf (c :: cs) then new ++ (c :: cs).drop old.length
    else c :: replaceFirst old new cs

def downFile (filename : String) : String :=
  String.ofList (replaceFirst ".up.sql".toList ".down.sql".toList filename.toList)

def Directory.readFile (dir : Directory) (filename : String) : Option Script :=
  (dir.entries.find? fun e => e.name = filename).bind Entry.script

def Directory.down (dir : Directory) (m : Migration) : Option Script :=
  dir.readFile (downFile m.filename)

def downTexts : Texts := ⟨"rollback migration", "remove migration record", "commit rollback"⟩

def Db.deleteRow (version : String) (db : Db) : Db :=
  { db with rows := db.rows.filter fun r => r.version ≠ version }

section Rollback

-- What the statements of a file that migrates down make of the schema.
variable (undo : String → ℕ → List Change → List Change)

def downChanges (m : Migration) (script : Script) : List (Db → Db) :=
  (List.range script.size).map fun i db =>
    { db with schema := undo (downFile m.filename) i db.schema }

def Migration.rollback (faults : Faults) (m : Migration) (script : Script) (db : Db) :
    Except String Unit × Db :=
  runFile faults downTexts m.filename
    (Transaction.script script.enclosed (downChanges undo m script)) (Db.deleteRow m.version) db

/-- The loop of `Rollback`, with the versions that it removes. -/
def rollbackAll (faults : Faults) (dir : Directory) (applied : List String) (steps : ℤ) :
    List Migration → ℤ → Db → Except String Unit × List String × Db
  | [], _, db => (.ok (), [], db)
  | m :: ms, rolledBack, db =>
    if m.version ++ "_up" ∉ applied then rollbackAll faults dir applied steps ms rolledBack db
    else
      match dir.down m with
      | none => rollbackAll faults dir applied steps ms rolledBack db
      | some script =>
        match m.rollback undo faults script db with
        | (.error err, db) => (.error err, [], db)
        | (.ok (), db) =>
          if rolledBack + 1 ≥ steps then (.ok (), [m.version], db)
          else
            let (result, removed, db) :=
              rollbackAll faults dir applied steps ms (rolledBack + 1) db
            (result, m.version :: removed, db)

/-- `Rollback`, with the versions that it removes, in order. -/
def rollback (faults : Faults) (dir : Directory) (steps : ℤ) (db : Db) :
    Except String Unit × List String × Db :=
  match faults .ensure with
  | some fault => (.error ("create schema_migrations table: " ++ fault.err), [], db)
  | none =>
    match getAppliedMigrations faults db with
    | .error err => (.error ("get applied migrations: " ++ err), [], db)
    | .ok applied => rollbackAll undo faults dir applied steps dir.ups.reverse 0 db

/-! ## What a successful run does -/

variable {undo} {faults : Faults} {dir : Directory} {db : Db} {m : Migration}

theorem applied_rows {changes : List (Db → Db)} (h : ∀ f ∈ changes, ∀ db, (f db).rows = db.rows)
    (db : Db) : (applied changes db).rows = db.rows := by
  induction changes generalizing db with
  | nil => rfl
  | cons f changes ih =>
    show (applied changes (f db)).rows = db.rows
    rw [ih fun f hf => h f (List.mem_cons_of_mem _ hf), h f List.mem_cons_self]

theorem rollback_rows {script : Script} {db' : Db}
    (h : m.rollback undo faults script db = (.ok (), db')) :
    db'.rows = db.rows.filter fun r => r.version ≠ m.version := by
  have hrows : (applied (downChanges undo m script) db).rows = db.rows := by
    refine applied_rows ?_ db
    intro f hf db
    obtain ⟨i, -, rfl⟩ := List.mem_map.mp hf
    rfl
  rw [runFile_ok h, Db.deleteRow, hrows]

def candidates (dir : Directory) (db₀ : Db) (ms : List Migration) : List Migration :=
  ms.filter fun m => Recorded db₀ m.version ∧ (dir.down m).isSome

theorem candidates_cons_of_pos {db₀ : Db} (hm : Recorded db₀ m.version ∧ (dir.down m).isSome = true)
    (ms : List Migration) : candidates dir db₀ (m :: ms) = m :: candidates dir db₀ ms :=
  List.filter_cons_of_pos (decide_eq_true hm)

theorem candidates_cons_of_neg {db₀ : Db}
    (hm : ¬ (Recorded db₀ m.version ∧ (dir.down m).isSome = true)) (ms : List Migration) :
    candidates dir db₀ (m :: ms) = candidates dir db₀ ms :=
  List.filter_cons_of_neg (by simpa using hm)

def keys (db : Db) : List String := db.rows.map fun r => r.version ++ "_" ++ "up"

/-- What a successful run of the loop does with its first file: it passes over it, rolls it back as
the last one, or rolls it back and goes on. -/
theorem rollbackAll_cons_cases {steps : ℤ} {db₀ : Db} {ms : List Migration} {k : ℤ} {db db' : Db}
    {removed : List String}
    (h : rollbackAll undo faults dir (keys db₀) steps (m :: ms) k db = (.ok (), removed, db')) :
    (¬ (Recorded db₀ m.version ∧ (dir.down m).isSome = true) ∧
      rollbackAll undo faults dir (keys db₀) steps ms k db = (.ok (), removed, db')) ∨
    ((Recorded db₀ m.version ∧ (dir.down m).isSome = true) ∧
      ∃ db₁, (db₁.rows = db.rows.filter fun r => r.version ≠ m.version) ∧
        ((k + 1 ≥ steps ∧ removed = [m.version] ∧ db' = db₁) ∨
          (k + 1 < steps ∧ ∃ removed', removed = m.version :: removed' ∧
            rollbackAll undo faults dir (keys db₀) steps ms (k + 1) db₁ =
              (.ok (), removed', db')))) := by
  have hkey : m.version ++ "_up" ∈ keys db₀ ↔ Recorded db₀ m.version := mem_keys_iff
  unfold rollbackAll at h
  by_cases hm : Recorded db₀ m.version
  · rw [if_neg (not_not.mpr (hkey.mpr hm))] at h
    rcases hdown : dir.down m with _ | script
    · rw [hdown] at h
      exact .inl ⟨by simp, h⟩
    · rw [hdown] at h
      dsimp only at h
      rcases hrun : m.rollback undo faults script db with ⟨err | _, db₁⟩
      · rw [hrun] at h
        cases h
      · rw [hrun] at h
        dsimp only at h
        refine .inr ⟨⟨hm, rfl⟩, db₁, rollback_rows hrun, ?_⟩
        split_ifs at h with hlast
        · simp only [Prod.mk.injEq, true_and] at h
          exact .inl ⟨hlast, h.1.symm, h.2.symm⟩
        · rcases htail : rollbackAll undo faults dir (keys db₀) steps ms (k + 1) db₁ with
            ⟨result, removed', db₂⟩
          rw [htail] at h
          simp only [Prod.mk.injEq] at h
          obtain ⟨rfl, rfl, rfl⟩ := h
          exact .inr ⟨by omega, removed', rfl, rfl⟩
  · rw [if_pos (mt hkey.mp hm)] at h
    exact .inl ⟨fun hboth => hm hboth.1, h⟩

/-- A successful run of the loop removes the first files that can be rolled back, one at least. -/
theorem rollbackAll_ok {steps : ℤ} (db₀ : Db) {ms : List Migration} {k : ℤ} {db db' : Db}
    {removed : List String}
    (h : rollbackAll undo faults dir (keys db₀) steps ms k db = (.ok (), removed, db')) :
    removed = ((candidates dir db₀ ms).map Migration.version).take (max 1 (steps - k)).toNat ∧
      db'.rows = db.rows.filter fun r => r.version ∉ removed := by
  induction ms generalizing k db removed with
  | nil =>
    obtain ⟨rfl, rfl⟩ : removed = [] ∧ db' = db := by
      simpa [rollbackAll, eq_comm] using h
    simp [candidates]
  | cons m ms ih =>
    rcases rollbackAll_cons_cases h with ⟨hm, hskip⟩ | ⟨hm, db₁, hrows, hrest⟩
    · rw [candidates_cons_of_neg hm]
      exact ih hskip
    · rw [candidates_cons_of_pos hm]
      rcases hrest with ⟨hlast, rfl, rfl⟩ | ⟨hmore, removed', rfl, htail⟩
      · have hone : (max 1 (steps - k)).toNat = 1 := by omega
        rw [hone]
        exact ⟨by simp, by rw [hrows]; simp⟩
      · obtain ⟨hremoved, hrows'⟩ := ih htail
        have hsucc : (max 1 (steps - k)).toNat = (max 1 (steps - (k + 1))).toNat + 1 := by omega
        constructor
        · rw [hsucc, List.map_cons, List.take_succ_cons, ← hremoved]
        · rw [hrows', hrows, List.filter_filter]
          refine List.filter_congr fun r _ => ?_
          simp [Bool.and_comm]

theorem rollback_ok {n : ℕ} {removed : List String} {db' : Db}
    (h : rollback undo faults dir n db = (.ok (), removed, db')) :
    removed = ((candidates dir db dir.ups.reverse).map Migration.version).take (max 1 n) ∧
      db'.rows = db.rows.filter fun r => r.version ∉ removed := by
  by_cases hopened : Opened faults
  · obtain ⟨hensure, happlied, hquery, hrows⟩ := hopened
    simp only [rollback, hensure, getAppliedMigrations, happlied, hquery, hrows] at h
    obtain ⟨hremoved, hrest⟩ := rollbackAll_ok db h
    have hn : (max 1 ((n : ℤ) - 0)).toNat = max 1 n := by omega
    rw [hn] at hremoved
    exact ⟨hremoved, hrest⟩
  · unfold rollback at h
    rcases cases_of_not_opened hopened db with ⟨fault, hensure⟩ | ⟨hensure, err, herr⟩
    · rw [hensure] at h
      cases h
    · rw [hensure, herr] at h
      cases h

end Rollback

/-! ## What is asked of a run -/

/-- The versions that are recorded, the highest first. -/
def appliedDesc (db : Db) : List String :=
  (db.rows.map Row.version).insertionSort fun v v' => v ≥ v'

/-- The `n` highest of the recorded versions are removed, in this order, and the others stay. A
`Migrate` that nothing disturbs succeeds then, and every one that succeeds brings back the recorded
versions. -/
structure RollbackExact (dir : Directory) (db : Db) (n : ℕ) (removed : List String) (db' : Db) :
    Prop where
  removed_eq : removed = (appliedDesc db).take n
  rows_eq : db'.rows = db.rows.filter fun r => r.version ∉ removed
  migrates : (migrate (fun _ => none) dir db').1 = .ok ()
  restored : ∀ faults, (migrate faults dir db').1 = .ok () →
    ∀ version, Recorded (migrate faults dir db').2 version ↔ Recorded db version

/-- The version has a file that migrates up and one that migrates down. -/
def HasFiles (dir : Directory) (version : String) : Prop :=
  ∃ m ∈ dir.ups, m.version = version ∧ (dir.down m).isSome

instance (dir : Directory) (version : String) : Decidable (HasFiles dir version) :=
  inferInstanceAs (Decidable (∃ m ∈ dir.ups, _))

section Exact

variable {dir : Directory} {db db' : Db}

theorem take_filter_eq_iff {α : Type*} (p : α → Bool) (l : List α) (n : ℕ) :
    (l.filter p).take n = l.take n ↔ ∀ a ∈ l.take n, p a = true := by
  induction l generalizing n with
  | nil => simp
  | cons a l ih =>
    cases n with
    | zero => simp
    | succ n =>
      by_cases ha : p a = true
      · rw [List.filter_cons_of_pos ha, List.take_succ_cons, List.take_succ_cons]
        simp [ha, ih]
      · rw [List.filter_cons_of_neg ha, List.take_succ_cons]
        refine iff_of_false (fun h => ?_) fun h => ha (h a List.mem_cons_self)
        have hmem : a ∈ (l.filter p).take (n + 1) := by
          rw [h]
          exact List.mem_cons_self
        exact ha (List.mem_filter.mp (List.mem_of_mem_take hmem)).2

theorem mem_appliedDesc {version : String} : version ∈ appliedDesc db ↔ Recorded db version :=
  (List.perm_insertionSort _ _).mem_iff

theorem appliedDesc_sorted (h : (db.rows.map Row.version).Nodup) : (appliedDesc db).SortedGT := by
  refine List.Pairwise.sortedGT ?_
  have hsorted : (appliedDesc db).Pairwise (· ≥ ·) := List.pairwise_insertionSort _ _
  have hnodup : (appliedDesc db).Nodup := (List.perm_insertionSort _ _).nodup_iff.mpr h
  exact hsorted.imp₂ (fun a b hge hne => lt_of_le_of_ne hge (Ne.symm hne)) hnodup

theorem ups_sorted (dir : Directory) :
    dir.ups.Pairwise fun m m' => m.version < m'.version := by
  have hsorted : dir.ups.Pairwise fun m m' => m.version ≤ m'.version :=
    List.pairwise_insertionSort _ _
  have hnodup : dir.ups.Pairwise fun m m' => m.version ≠ m'.version :=
    List.pairwise_map.mp dir.versions_nodup
  exact hsorted.imp₂ (fun a b hle hne => lt_of_le_of_ne hle hne) hnodup

theorem candidates_eq (h : (db.rows.map Row.version).Nodup) :
    (candidates dir db dir.ups.reverse).map Migration.version =
      (appliedDesc db).filter fun version => HasFiles dir version := by
  have hleft : ((candidates dir db dir.ups.reverse).map Migration.version).SortedGT := by
    refine List.Pairwise.sortedGT (List.pairwise_map.mpr ?_)
    exact (List.pairwise_reverse.mpr (ups_sorted dir)).filter _
  have hright : ((appliedDesc db).filter fun version => HasFiles dir version).SortedGT :=
    List.Pairwise.sortedGT ((appliedDesc_sorted h).pairwise.filter _)
  refine hleft.eq_of_mem_iff hright fun version => ?_
  simp only [candidates, List.mem_map, List.mem_filter, List.mem_reverse, decide_eq_true_eq,
    mem_appliedDesc]
  constructor
  · rintro ⟨m, ⟨hm, hrecorded, hdown⟩, rfl⟩
    exact ⟨hrecorded, m, hm, rfl, hdown⟩
  · rintro ⟨hrecorded, m, hm, rfl, hdown⟩
    exact ⟨m, ⟨hm, hrecorded, hdown⟩, rfl⟩

theorem recorded_migrate {faults : Faults} (h : (migrate faults dir db).1 = .ok ())
    (version : String) : Recorded (migrate faults dir db).2 version ↔
      Recorded db version ∨ ∃ m ∈ dir.ups, m.version = version := by
  rw [migrate_ok h]
  unfold Recorded
  rw [List.map_append, List.mem_append, List.map_map]
  constructor
  · rintro (hrecorded | hmem)
    · exact .inl hrecorded
    · obtain ⟨m, hm, rfl⟩ := List.mem_map.mp hmem
      exact .inr ⟨m, (mem_pending.mp hm).1, rfl⟩
  · rintro (hrecorded | ⟨m, hm, rfl⟩)
    · exact .inl hrecorded
    · by_cases hrecorded : Recorded db m.version
      · exact .inl hrecorded
      · exact .inr (List.mem_map.mpr ⟨m, mem_pending.mpr ⟨hm, hrecorded⟩, rfl⟩)

/-- The first files that can be rolled back, one at least, are the `n` highest versions just if
these have files, and if `n` is zero, none has. -/
theorem removed_eq_iff (dir : Directory) (l : List String) (n : ℕ) :
    (l.filter fun version => HasFiles dir version).take (max 1 n) = l.take n ↔
      (∀ version ∈ l.take n, HasFiles dir version) ∧
      (n = 0 → ∀ version ∈ l, ¬ HasFiles dir version) := by
  rcases Nat.eq_zero_or_pos n with rfl | hpos
  · simp
  · rw [Nat.max_eq_right hpos, take_filter_eq_iff]
    simp [Nat.pos_iff_ne_zero.mp hpos]

theorem restored_iff {removed : List String}
    (hfile : ∀ version ∈ removed, ∃ m ∈ dir.ups, m.version = version)
    (hrest : db'.rows = db.rows.filter fun r => r.version ∉ removed) :
    (∀ faults, (migrate faults dir db').1 = .ok () →
      ∀ version, Recorded (migrate faults dir db').2 version ↔ Recorded db version) ↔
    ∀ m ∈ dir.ups, Recorded db m.version := by
  have hrecorded' : ∀ version, Recorded db' version ↔ Recorded db version ∧ version ∉ removed := by
    intro version
    simp only [Recorded, hrest, List.mem_map, List.mem_filter, decide_eq_true_eq]
    constructor
    · rintro ⟨r, ⟨hr, hnot⟩, rfl⟩
      exact ⟨⟨r, hr, rfl⟩, hnot⟩
    · rintro ⟨⟨r, hr, rfl⟩, hnot⟩
      exact ⟨r, ⟨hr, hnot⟩, rfl⟩
  constructor
  · intro hrestored m hm
    have hok : (migrate (fun _ => none) dir db').1 = .ok () := by rw [migrate_noFault]
    exact (hrestored _ hok m.version).mp
      ((recorded_migrate hok m.version).mpr (.inr ⟨m, hm, rfl⟩))
  · intro hall faults hok version
    rw [recorded_migrate hok, hrecorded']
    constructor
    · rintro (hkept | ⟨m, hm, rfl⟩)
      · exact hkept.1
      · exact hall m hm
    · intro hrecorded
      by_cases hmem : version ∈ removed
      · exact .inr (hfile version hmem)
      · exact .inl ⟨hrecorded, hmem⟩

end Exact

/-- **Rollbacks.** A successful run removes what it is asked to remove, and can be undone, exactly
if every file that migrates up was recorded, each of the versions to be removed has both its files,
and if none is to be removed, no recorded version has both. -/
theorem rollback_exact_iff (undo : String → ℕ → List Change → List Change) (dir : Directory)
    (faults : Faults) (n : ℕ) (db db' : Db) (removed : List String)
    (hrows : (db.rows.map Row.version).Nodup)
    (h : rollback undo faults dir n db = (.ok (), removed, db')) :
    RollbackExact dir db n removed db' ↔
      (∀ m ∈ dir.ups, Recorded db m.version) ∧
      (∀ version ∈ (appliedDesc db).take n, HasFiles dir version) ∧
      (n = 0 → ∀ version, Recorded db version → ¬ HasFiles dir version) := by
  obtain ⟨hremoved, hrest⟩ := rollback_ok h
  rw [candidates_eq hrows] at hremoved
  -- What is removed has a file, with which the next run brings it back.
  have hfile : ∀ version ∈ removed, ∃ m ∈ dir.ups, m.version = version := by
    intro version hmem
    rw [hremoved] at hmem
    have hfiles := (List.mem_filter.mp (List.mem_of_mem_take hmem)).2
    obtain ⟨m, hm, hversion, -⟩ := of_decide_eq_true hfiles
    exact ⟨m, hm, hversion⟩
  have hhighest := removed_eq_iff dir (appliedDesc db) n
  rw [← hremoved] at hhighest
  simp only [mem_appliedDesc] at hhighest
  constructor
  · intro hexact
    exact ⟨(restored_iff hfile hrest).mp hexact.restored, hhighest.mp hexact.removed_eq⟩
  · rintro ⟨hall, hfiles⟩
    exact ⟨hhighest.mpr hfiles, hrest, by rw [migrate_noFault], (restored_iff hfile hrest).mpr hall⟩

namespace Scenario

def fullDb : Db := ⟨upFiles.map Migration.row, upFiles.flatMap Migration.changes⟩

/-- The statements that migrate down leave nothing of the schema. -/
def undoAll (_ : String) (_ : ℕ) (_ : List Change) : List Change := []

def lastFile : Migration :=
  ⟨"000008", "000008_add_reverse_flow_ownership_columns.up.sql", ⟨true, 4⟩⟩

def lessOneDb : Db := ⟨(upFiles.take 7).map Migration.row, []⟩

/-- Two files, the second of which has no file that migrates down. -/
def oneWayFiles : List Entry :=
  [⟨"1_a.down.sql", some ⟨true, 1⟩⟩, ⟨"1_a.up.sql", some ⟨true, 1⟩⟩, ⟨"2_b.up.sql", some ⟨true, 1⟩⟩]

theorem oneWayFiles_nodup : ((listMigrations oneWayFiles "up").map Migration.version).Nodup := by
  decide +kernel

def oneWay : Directory := ⟨oneWayFiles, oneWayFiles_nodup⟩

def oneWayDb : Db := ⟨[⟨"1", "a"⟩, ⟨"2", "b"⟩], []⟩

end Scenario

section Scenario

open Scenario

theorem down_lastFile : migrationsFS.down lastFile = some ⟨true, 3⟩ := by decide +kernel

theorem rollback_fullDb {steps : ℤ} (h : steps ≤ 1) :
    rollback undoAll (fun _ => none) migrationsFS steps fullDb =
      (.ok (), ["000008"], lessOneDb) := by
  have hups : migrationsFS.ups.reverse = lastFile :: (upFiles.take 7).reverse := by
    rw [Directory.ups, migrationsFS, listMigrations_migrationFiles]
    rfl
  have happlied : lastFile.version ++ "_up" ∈ keys fullDb := by decide
  have hrun : lastFile.rollback undoAll (fun _ => none) ⟨true, 3⟩ fullDb = (.ok (), lessOneDb) := by
    decide +kernel
  show rollbackAll undoAll (fun _ => none) migrationsFS (keys fullDb) steps
    migrationsFS.ups.reverse 0 fullDb = _
  rw [hups, rollbackAll, if_neg (not_not.mpr happlied), down_lastFile]
  dsimp only
  rw [hrun]
  exact if_pos (by omega)

/-- The last of the files of the repository is rolled back. -/
theorem rollback_last_exact :
    rollback undoAll (fun _ => none) migrationsFS 1 fullDb = (.ok (), ["000008"], lessOneDb) ∧
      RollbackExact migrationsFS fullDb 1 ["000008"] lessOneDb := by
  have hups : migrationsFS.ups = upFiles := listMigrations_migrationFiles
  have hrun := rollback_fullDb (Int.le_refl 1)
  have hrecorded : ∀ m ∈ migrationsFS.ups, Recorded fullDb m.version := by
    rw [hups]
    decide
  have hhighest : (appliedDesc fullDb).take 1 = [lastFile.version] := by decide +kernel
  have hfiles : ∀ version ∈ (appliedDesc fullDb).take 1, HasFiles migrationsFS version := by
    intro version hversion
    rw [hhighest, List.mem_singleton] at hversion
    refine ⟨lastFile, ?_, hversion.symm, Option.isSome_of_eq_some down_lastFile⟩
    rw [hups]
    exact List.mem_of_getElem? (i := 7) rfl
  exact ⟨hrun, (rollback_exact_iff undoAll migrationsFS (fun _ => none) 1 fullDb lessOneDb
    ["000008"] (by decide) hrun).mpr ⟨hrecorded, hfiles, fun h => absurd h (by decide)⟩⟩

/-- A rollback of no version removes the last one, and a version without a file that migrates down
is passed over. -/
theorem rollback_not_exact :
    rollback undoAll (fun _ => none) migrationsFS 0 fullDb = (.ok (), ["000008"], lessOneDb) ∧
      ¬ RollbackExact migrationsFS fullDb 0 ["000008"] lessOneDb ∧
      rollback undoAll (fun _ => none) oneWay 1 oneWayDb = (.ok (), ["1"], ⟨[⟨"2", "b"⟩], []⟩) :=
  ⟨rollback_fullDb (by decide), fun h => absurd h.removed_eq (by simp), by decide +kernel⟩

end Scenario

end NssAAF.Storage.Migrations
