import NssAAF.Lib.Transaction
import Mathlib.Data.String.Basic
import Mathlib.Data.List.Sort

/-!
# Migrations

`Migrator` of `internal/storage/postgres/migrate.go` runs the files of a directory that are not yet
recorded in the table `schema_migrations`, each in a transaction together with its record. But the
files have transactions of their own: the `COMMIT` at the end of a script ends the transaction that
`Migrate` has begun, and the record is then written outside of it.

`migrate_atomic_iff` says when a run leaves the database such that a file is recorded if and only if
its changes are there, and a new run can complete it.

The schema is the list of the statements of the files that have been executed and committed.
-/

namespace NssAAF.Storage.Migrations

open Transaction

/-! ## The files -/

/-- A script: whether its statements stand between `BEGIN` and `COMMIT`, and how many there are. -/
structure Script where
  enclosed : Bool
  size : ℕ
  deriving DecidableEq

/-- An entry of the directory of the files. It has no script if it is a directory. -/
structure Entry where
  name : String
  script : Option Script
  deriving DecidableEq

structure Migration where
  version : String
  filename : String
  script : Script
  deriving DecidableEq

/-- The text before the first underscore. -/
def versionOf (name : String) : String := String.ofList (name.toList.takeWhile (· ≠ '_'))

/-- The migration of an entry, if it is one in this direction. -/
def Entry.migration? (direction : String) (e : Entry) : Option Migration :=
  match e.script with
  | none => none
  | some script =>
    if '_' ∈ e.name.toList ∧ ("." ++ direction ++ ".sql").toList.isSuffixOf e.name.toList then
      some ⟨versionOf e.name, e.name, script⟩
    else none

def listMigrations (entries : List Entry) (direction : String) : List Migration :=
  (entries.filterMap (Entry.migration? direction)).insertionSort fun m m' => m.version ≤ m'.version

/-- The directory of the files. No two files that migrate up have one version. -/
structure Directory where
  entries : List Entry
  versions_nodup : ((listMigrations entries "up").map Migration.version).Nodup

/-- The files that migrate up, in the order of their versions. -/
def Directory.ups (dir : Directory) : List Migration := listMigrations dir.entries "up"

def trimSuffix (suffix text : List Char) : List Char :=
  if suffix.isSuffixOf text then text.take (text.length - suffix.length) else text

def getDescription (filename : String) : String :=
  let name := trimSuffix ".up.sql".toList filename.toList
  let name := trimSuffix ".down.sql".toList name
  let name :=
    match name.dropWhile (· ≠ '_') with
    | [] => name
    | _ :: rest => rest
  let name := name.map fun c => if c = '_' then ' ' else c
  String.ofList (((name.dropWhile Char.isWhitespace).reverse.dropWhile Char.isWhitespace).reverse)

/-! ## The database -/

/-- A row of `schema_migrations`. All of them are in the direction `up`. -/
structure Row where
  version : String
  description : String
  deriving DecidableEq

/-- A statement of a file that has taken effect. -/
structure Change where
  filename : String
  statement : ℕ
  deriving DecidableEq

structure Db where
  rows : List Row
  schema : List Change
  deriving DecidableEq

def Recorded (db : Db) (version : String) : Prop := version ∈ db.rows.map Row.version

instance (db : Db) (version : String) : Decidable (Recorded db version) :=
  inferInstanceAs (Decidable (_ ∈ _))

/-- What is sent to the database for a file: the `BEGIN`, the script, the statement for its record
and the `COMMIT`. -/
inductive Stage
  | opening
  | script
  | record
  | closing
  deriving DecidableEq

inductive Point
  | ensure
  | ensureApplied
  | query
  | rows
  | file (filename : String) (stage : Stage)
  deriving DecidableEq

/-- Where the database fails, the context ends or the process stops. -/
abbrev Faults : Type := Point → Option Fault

structure Texts where
  script : String
  record : String
  closing : String

section File

variable (faults : Faults)

/-- A file in a transaction: its statements and what is done to its record. -/
def runFile (texts : Texts) (filename : String) (stmts : List (Statement Db)) (record : Db → Db)
    (db : Db) : Except String Unit × Db :=
  match faults (.file filename .opening) with
  | some fault => (.error ("begin transaction: " ++ fault.err), db)
  | none =>
    match Session.send ⟨db, some db⟩ (faults (.file filename .script)) stmts with
    | (some err, s) => (.error (texts.script ++ " " ++ filename ++ ": " ++ err), s.durable)
    | (none, s) =>
      match s.send (faults (.file filename .record)) [.change record] with
      | (some err, s) => (.error (texts.record ++ " " ++ filename ++ ": " ++ err), s.durable)
      | (none, s) =>
        match s.send (faults (.file filename .closing)) [.commit] with
        | (some err, s) => (.error (texts.closing ++ " " ++ filename ++ ": " ++ err), s.durable)
        | (none, s) => (.ok (), s.durable)

def getAppliedMigrations (db : Db) : Except String (List String) :=
  match faults .ensureApplied with
  | some fault => .error ("create schema_migrations table: " ++ fault.err)
  | none =>
    match faults .query with
    | some fault => .error ("query applied migrations: " ++ fault.err)
    | none =>
      match faults .rows with
      | some fault => .error fault.err
      | none => .ok (db.rows.map fun r => r.version ++ "_" ++ "up")

end File

/-! ## `Migrate` -/

namespace Migration

variable (m : Migration)

def row : Row := ⟨m.version, getDescription m.filename⟩

def changes : List Change := (List.range m.script.size).map fun i => ⟨m.filename, i⟩

def statements : List (Statement Db) :=
  Transaction.script m.script.enclosed
    (m.changes.map fun change db => { db with schema := db.schema ++ [change] })

def insertRow (db : Db) : Db := { db with rows := db.rows ++ [m.row] }

def upTexts : Texts := ⟨"apply migration", "record migration", "commit migration"⟩

def apply (faults : Faults) (db : Db) : Except String Unit × Db :=
  runFile faults upTexts m.filename m.statements m.insertRow db

end Migration

def migrateAll (faults : Faults) (applied : List String) :
    List Migration → Db → Except String Unit × Db
  | [], db => (.ok (), db)
  | m :: ms, db =>
    if m.version ++ "_up" ∈ applied then migrateAll faults applied ms db
    else
      match m.apply faults db with
      | (.error err, db) => (.error err, db)
      | (.ok (), db) => migrateAll faults applied ms db

def migrate (faults : Faults) (dir : Directory) (db : Db) : Except String Unit × Db :=
  match faults .ensure with
  | some fault => (.error ("create schema_migrations table: " ++ fault.err), db)
  | none =>
    match getAppliedMigrations faults db with
    | .error err => (.error ("get applied migrations: " ++ err), db)
    | .ok applied => migrateAll faults applied dir.ups db

/-! ## What a file leaves -/

section RunFile

variable (faults : Faults)

/-- Nothing fails while the file is run. -/
def NoFault (filename : String) : Prop := ∀ stage, faults (.file filename stage) = none

/-- The file is stopped between the last statement of its script and its record: `size + 2` is the
number of the statements with `BEGIN` and `COMMIT`. -/
def StoppedUnrecorded (filename : String) (size : ℕ) : Prop :=
  faults (.file filename .opening) = none ∧
    ((∃ fault, faults (.file filename .script) = some fault ∧ size + 2 ≤ fault.after) ∨
      (faults (.file filename .script) = none ∧
        ∃ fault, faults (.file filename .record) = some fault ∧ fault.after = 0))

variable {faults} {texts : Texts} {filename : String} {record : Db → Db} {db : Db}

theorem send_fst_eq_none_iff {s : Session Db} {fault : Option Fault} {stmts : List (Statement Db)} :
    (s.send fault stmts).1 = none ↔ fault = none := by
  cases fault <;> simp [Session.send]

theorem runFile_ok_iff (stmts : List (Statement Db)) :
    (runFile faults texts filename stmts record db).1 = .ok () ↔ NoFault faults filename := by
  unfold runFile
  constructor
  · intro h stage
    split at h
    · exact nomatch h
    · next hopening =>
      split at h
      · exact nomatch h
      · next s hscript =>
        split at h
        · exact nomatch h
        · next s' hrecord =>
          split at h
          · exact nomatch h
          · next s'' hclosing =>
            cases stage with
            | opening => exact hopening
            | script => exact send_fst_eq_none_iff.mp (congrArg Prod.fst hscript)
            | record => exact send_fst_eq_none_iff.mp (congrArg Prod.fst hrecord)
            | closing => exact send_fst_eq_none_iff.mp (congrArg Prod.fst hclosing)
  · intro h
    simp [h .opening, h .script, h .record, h .closing, Session.send]

/-- What is durable after a file: everything, nothing, or its changes `w` without the record. -/
def left (faults : Faults) (filename : String) (enclosed : Bool) (size : ℕ) (db w done : Db) : Db :=
  match faults (.file filename .opening), faults (.file filename .script),
    faults (.file filename .record), faults (.file filename .closing) with
  | some _, _, _, _ => db
  | none, some fault, _, _ => if enclosed ∧ size + 2 ≤ fault.after then w else db
  | none, none, some fault, _ => if enclosed then (if fault.after = 0 then w else done) else db
  | none, none, none, some fault => if enclosed ∨ fault.after ≠ 0 then done else db
  | none, none, none, none => done

theorem runFile_snd (faults : Faults) (texts : Texts) (filename : String) (record : Db → Db)
    (db : Db) (enclosed : Bool) (changes : List (Db → Db)) :
    (runFile faults texts filename (Transaction.script enclosed changes) record db).2 =
      left faults filename enclosed changes.length db (applied changes db)
        (record (applied changes db)) := by
  unfold runFile left
  cases faults (.file filename .opening) with
  | some fault => rfl
  | none =>
    cases faults (.file filename .script) with
    | some fault =>
      cases enclosed with
      | true => simpa [Session.send] using durable_send_enclosed db db changes fault.after
      | false => simpa [Session.send] using durable_send_plain db db changes fault.after
    | none =>
      cases enclosed with
      | true =>
        simp only [Session.send, run_enclosed]
        cases faults (.file filename .record) with
        | some fault => rcases hn : fault.after with _ | n <;> simp [hn] <;> rfl
        | none =>
          cases faults (.file filename .closing) with
          | some fault => rcases hn : fault.after with _ | n <;> simp [hn] <;> rfl
          | none => rfl
      | false =>
        simp only [Session.send, run_plain]
        cases faults (.file filename .record) with
        | some fault => rcases hn : fault.after with _ | n <;> simp [hn] <;> rfl
        | none =>
          cases faults (.file filename .closing) with
          | some fault => rcases hn : fault.after with _ | n <;> simp [hn] <;> rfl
          | none => rfl

variable {enclosed : Bool} {size : ℕ} {w done : Db}

theorem left_of_noFault (h : NoFault faults filename) :
    left faults filename enclosed size db w done = done := by
  simp [left, h .opening, h .script, h .record, h .closing]

theorem left_of_stopped (henclosed : enclosed = true)
    (h : StoppedUnrecorded faults filename size) :
    left faults filename enclosed size db w done = w := by
  obtain ⟨hopening, ⟨fault, hscript, hafter⟩ | ⟨hscript, fault, hrecord, hafter⟩⟩ := h
  · simp [left, hopening, hscript, henclosed, hafter]
  · simp [left, hopening, hscript, hrecord, henclosed, hafter]

theorem left_cases (h : ¬ (enclosed = true ∧ StoppedUnrecorded faults filename size)) :
    left faults filename enclosed size db w done = db ∨
      left faults filename enclosed size db w done = done := by
  unfold left
  cases hopening : faults (.file filename .opening) with
  | some fault => exact .inl rfl
  | none =>
    cases hscript : faults (.file filename .script) with
    | some fault =>
      refine .inl (if_neg fun hif => h ⟨hif.1, hopening, .inl ⟨fault, hscript, hif.2⟩⟩)
    | none =>
      cases hrecord : faults (.file filename .record) with
      | some fault =>
        dsimp only
        split_ifs with henclosed hafter
        · exact absurd ⟨henclosed, hopening, .inr ⟨hscript, fault, hrecord, hafter⟩⟩ h
        · exact .inr rfl
        · exact .inl rfl
      | none =>
        cases faults (.file filename .closing) with
        | some fault =>
          dsimp only
          split_ifs
          · exact .inr rfl
          · exact .inl rfl
        | none => exact .inr rfl

theorem runFile_ok {changes : List (Db → Db)} {db' : Db}
    (h : runFile faults texts filename (Transaction.script enclosed changes) record db =
      (.ok (), db')) : db' = record (applied changes db) := by
  have hfault := (runFile_ok_iff _).mp (congrArg Prod.fst h)
  have hsnd := runFile_snd faults texts filename record db enclosed changes
  rw [h, left_of_noFault hfault] at hsnd
  exact hsnd

end RunFile

section Apply

variable {faults : Faults} {m : Migration} {db : Db}

def Db.changed (db : Db) (m : Migration) : Db := { db with schema := db.schema ++ m.changes }

def Db.migrated (db : Db) (m : Migration) : Db := m.insertRow (db.changed m)

def LeftUnrecorded (faults : Faults) (m : Migration) : Prop :=
  m.script.enclosed = true ∧ StoppedUnrecorded faults m.filename m.script.size

theorem applied_changes (changes : List Change) (db : Db) :
    applied (changes.map fun change db => { db with schema := db.schema ++ [change] }) db =
      { db with schema := db.schema ++ changes } := by
  induction changes generalizing db with
  | nil => simp [applied]
  | cons change changes ih =>
    show applied _ { db with schema := db.schema ++ [change] } = _
    rw [ih]
    simp

theorem length_changes (m : Migration) : m.changes.length = m.script.size := by
  simp [Migration.changes]

variable (faults m db)

theorem apply_snd : (m.apply faults db).2 =
    left faults m.filename m.script.enclosed m.script.size db (db.changed m) (db.migrated m) := by
  unfold Migration.apply Migration.statements
  rw [runFile_snd, applied_changes, List.length_map, length_changes]
  rfl

theorem apply_ok_iff : (m.apply faults db).1 = .ok () ↔ NoFault faults m.filename :=
  runFile_ok_iff _

variable {faults m db}

theorem apply_of_noFault (h : NoFault faults m.filename) :
    m.apply faults db = (.ok (), db.migrated m) :=
  Prod.ext ((apply_ok_iff faults m db).mpr h) (by rw [apply_snd, left_of_noFault h])

end Apply

/-! ## The loop -/

section Loop

variable {faults : Faults} {db : Db} {ms : List Migration}

/-- The loop over files that are all run. -/
def applyAll (faults : Faults) : List Migration → Db → Except String Unit × Db
  | [], db => (.ok (), db)
  | m :: ms, db =>
    match m.apply faults db with
    | (.error err, db) => (.error err, db)
    | (.ok (), db) => applyAll faults ms db

theorem mem_keys_iff {version : String} :
    version ++ "_up" ∈ db.rows.map (fun r => r.version ++ "_" ++ "up") ↔ Recorded db version := by
  simp only [List.mem_map, Recorded, String.append_assoc]
  rw [show "_" ++ "up" = "_up" from rfl]
  simp only [String.append_left_inj]

/-- The loop of `Migrate` runs the files that are not recorded. -/
theorem migrateAll_eq_applyAll (db₀ db : Db) (ms : List Migration) :
    migrateAll faults (db₀.rows.map fun r => r.version ++ "_" ++ "up") ms db =
      applyAll faults (ms.filter fun m => ¬ Recorded db₀ m.version) db := by
  induction ms generalizing db with
  | nil => rfl
  | cons m ms ih =>
    unfold migrateAll
    by_cases hm : Recorded db₀ m.version
    · rw [if_pos (mem_keys_iff.mpr hm), List.filter_cons_of_neg (by simpa using hm), ih]
    · rw [if_neg (mt mem_keys_iff.mp hm), List.filter_cons_of_pos (by simpa using hm), applyAll]
      rcases m.apply faults db with ⟨err | _, db'⟩
      · rfl
      · exact ih db'

theorem applyAll_cons (faults : Faults) (m : Migration) (ms : List Migration) (db : Db) :
    (NoFault faults m.filename ∧
      applyAll faults (m :: ms) db = applyAll faults ms (db.migrated m)) ∨
    (¬ NoFault faults m.filename ∧ (applyAll faults (m :: ms) db).1 ≠ .ok () ∧
      (applyAll faults (m :: ms) db).2 =
        left faults m.filename m.script.enclosed m.script.size db (db.changed m)
          (db.migrated m)) := by
  by_cases hfault : NoFault faults m.filename
  · refine .inl ⟨hfault, ?_⟩
    rw [applyAll, apply_of_noFault hfault]
  · refine .inr ⟨hfault, ?_⟩
    have hne := mt (apply_ok_iff faults m db).mp hfault
    have hsnd := apply_snd faults m db
    unfold applyAll
    rcases hm : m.apply faults db with ⟨err | _, db'⟩
    · rw [hm] at hsnd
      exact ⟨nofun, hsnd⟩
    · exact absurd (by rw [hm]) hne

theorem applyAll_ok_iff : (applyAll faults ms db).1 = .ok () ↔
    ∀ m ∈ ms, NoFault faults m.filename := by
  induction ms generalizing db with
  | nil => simp [applyAll]
  | cons m ms ih =>
    rcases applyAll_cons faults m ms db with ⟨hm, happly⟩ | ⟨hm, hne, -⟩
    · rw [happly, ih]
      simp [hm]
    · simp [hm, hne]

theorem applyAll_of_noFault (h : ∀ m ∈ ms, NoFault faults m.filename) :
    applyAll faults ms db =
      (.ok (), ⟨db.rows ++ ms.map Migration.row, db.schema ++ ms.flatMap Migration.changes⟩) := by
  induction ms generalizing db with
  | nil => simp [applyAll]
  | cons m ms ih =>
    rw [applyAll, apply_of_noFault (h m List.mem_cons_self)]
    dsimp only
    rw [ih fun m hm => h m (List.mem_cons_of_mem _ hm)]
    simp [Db.migrated, Db.changed, Migration.insertRow]

/-- The files of a beginning of the list have made their changes, and nothing else has. -/
theorem applyAll_schema (faults : Faults) (ms : List Migration) (db : Db) :
    ∃ k, (applyAll faults ms db).2.schema =
      db.schema ++ (ms.take k).flatMap Migration.changes := by
  induction ms generalizing db with
  | nil => exact ⟨0, by simp [applyAll]⟩
  | cons m ms ih =>
    rcases applyAll_cons faults m ms db with ⟨-, happly⟩ | ⟨-, -, hleft⟩
    · obtain ⟨k, hk⟩ := ih (db.migrated m)
      refine ⟨k + 1, ?_⟩
      rw [happly, hk]
      simp [Db.migrated, Db.changed, Migration.insertRow]
    · rw [hleft]
      by_cases hstop : LeftUnrecorded faults m
      · refine ⟨1, ?_⟩
        rw [left_of_stopped hstop.1 hstop.2]
        simp [Db.changed]
      · rcases left_cases hstop with hnone | hall
        · exact ⟨0, by rw [hnone]; simp⟩
        · refine ⟨1, ?_⟩
          rw [hall]
          simp [Db.migrated, Db.changed, Migration.insertRow]

end Loop

/-! ## The files of a directory -/

section Files

variable {dir : Directory} {m m' : Migration}

theorem mem_ups : m ∈ dir.ups ↔ ∃ e ∈ dir.entries, e.migration? "up" = some m := by
  unfold Directory.ups listMigrations
  rw [(List.perm_insertionSort _ _).mem_iff, List.mem_filterMap]

theorem version_of_mem_ups (h : m ∈ dir.ups) : m.version = versionOf m.filename := by
  obtain ⟨e, -, he⟩ := mem_ups.mp h
  unfold Entry.migration? at he
  split at he
  · exact nomatch he
  · split_ifs at he
    rw [← Option.some.inj he]

theorem eq_of_version (hm : m ∈ dir.ups) (hm' : m' ∈ dir.ups) (h : m.version = m'.version) :
    m = m' :=
  List.inj_on_of_nodup_map dir.versions_nodup hm hm' h

theorem eq_of_filename (hm : m ∈ dir.ups) (hm' : m' ∈ dir.ups) (h : m.filename = m'.filename) :
    m = m' :=
  eq_of_version hm hm' (by rw [version_of_mem_ups hm, version_of_mem_ups hm', h])

theorem filename_of_mem_changes {change : Change} (h : change ∈ m.changes) :
    change.filename = m.filename := by
  obtain ⟨i, -, rfl⟩ := List.mem_map.mp h
  rfl

theorem nodup_changes (m : Migration) : m.changes.Nodup := by
  refine List.Nodup.map ?_ List.nodup_range
  intro i j h
  exact (Change.mk.inj h).2

theorem nodup_ups (dir : Directory) : dir.ups.Nodup := List.Nodup.of_map _ dir.versions_nodup

theorem nodup_flatMap_changes {ms : List Migration} (hsub : ∀ m ∈ ms, m ∈ dir.ups)
    (hms : ms.Nodup) : (ms.flatMap Migration.changes).Nodup := by
  rw [List.nodup_flatMap]
  refine ⟨fun m _ => nodup_changes m, ?_⟩
  refine List.Pairwise.imp_of_mem ?_ hms
  intro m m' hm hm' hne change hchange hchange'
  have hname := (filename_of_mem_changes hchange).symm.trans (filename_of_mem_changes hchange')
  exact hne (eq_of_filename (hsub m hm) (hsub m' hm') hname)

end Files

/-! ## Atomicity -/

/-- Each change of a file is in the schema if and only if the file is recorded. -/
def Atomic (dir : Directory) (db : Db) : Prop :=
  ∀ m ∈ dir.ups, ∀ change ∈ m.changes, change ∈ db.schema ↔ Recorded db m.version

/-- No file that is reached and that makes changes is left without its record. -/
def NoneLeftUnrecorded (faults : Faults) : List Migration → Prop
  | [] => True
  | m :: ms => (0 < m.script.size → ¬ LeftUnrecorded faults m) ∧
      (NoFault faults m.filename → NoneLeftUnrecorded faults ms)

section Atomic

variable {faults : Faults} {dir : Directory} {db : Db} {m : Migration} {ms : List Migration}

theorem recorded_migrated {version : String} :
    Recorded (db.migrated m) version ↔ Recorded db version ∨ version = m.version := by
  simp [Recorded, Db.migrated, Db.changed, Migration.insertRow, Migration.row]

theorem Atomic.migrated (h : Atomic dir db) (hm : m ∈ dir.ups) : Atomic dir (db.migrated m) := by
  intro m' hm' change hchange
  rw [recorded_migrated]
  show change ∈ db.schema ++ m.changes ↔ _
  rw [List.mem_append, h m' hm' change hchange]
  refine or_congr_right ⟨fun hmem => ?_, fun hversion => ?_⟩
  · have hname := (filename_of_mem_changes hchange).symm.trans (filename_of_mem_changes hmem)
    rw [eq_of_filename hm' hm hname]
  · rw [← eq_of_version hm' hm hversion]
    exact hchange

theorem Atomic.not_changed (hm : m ∈ dir.ups) (hsize : 0 < m.script.size)
    (hrecorded : ¬ Recorded db m.version) : ¬ Atomic dir (db.changed m) := by
  intro h
  have hchange : (⟨m.filename, 0⟩ : Change) ∈ m.changes :=
    List.mem_map.mpr ⟨0, List.mem_range.mpr hsize, rfl⟩
  exact hrecorded ((h m hm _ hchange).mp (List.mem_append_right _ hchange))

theorem Atomic.applyAll_iff (h : Atomic dir db) (hsub : ∀ m ∈ ms, m ∈ dir.ups) (hms : ms.Nodup)
    (hrecorded : ∀ m ∈ ms, ¬ Recorded db m.version) :
    Atomic dir (applyAll faults ms db).2 ↔ NoneLeftUnrecorded faults ms := by
  induction ms generalizing db with
  | nil => exact iff_of_true h trivial
  | cons m ms ih =>
    have hm := hsub m List.mem_cons_self
    rw [NoneLeftUnrecorded]
    rcases applyAll_cons faults m ms db with ⟨hfault, happly⟩ | ⟨hfault, -, hleft⟩
    · have hnot : ¬ LeftUnrecorded faults m := by
        rintro ⟨-, -, ⟨fault, hscript, -⟩ | ⟨-, fault, hrecord, -⟩⟩
        · exact nomatch hscript.symm.trans (hfault .script)
        · exact nomatch hrecord.symm.trans (hfault .record)
      have htail : ∀ m' ∈ ms, ¬ Recorded (db.migrated m) m'.version := by
        intro m' hm'
        rw [recorded_migrated, not_or]
        refine ⟨hrecorded m' (List.mem_cons_of_mem _ hm'), fun hversion => ?_⟩
        have heq := eq_of_version (hsub m' (List.mem_cons_of_mem _ hm')) hm hversion
        exact (List.nodup_cons.mp hms).1 (heq ▸ hm')
      rw [happly, ih (h.migrated hm) (fun m' hm' => hsub m' (List.mem_cons_of_mem _ hm'))
        (List.nodup_cons.mp hms).2 htail]
      simp [hnot, hfault]
    · rw [hleft, and_iff_left (fun hno => absurd hno hfault)]
      by_cases hstop : LeftUnrecorded faults m
      · rw [left_of_stopped hstop.1 hstop.2]
        by_cases hsize : 0 < m.script.size
        · exact iff_of_false (Atomic.not_changed hm hsize (hrecorded m List.mem_cons_self))
            fun hno => hno hsize hstop
        · refine iff_of_true ?_ fun hpos => absurd hpos hsize
          have hnil : m.changes = [] := by
            rw [← List.length_eq_zero_iff, length_changes]
            omega
          have hsame : db.changed m = db := by simp [Db.changed, hnil]
          rw [hsame]
          exact h
      · refine iff_of_true ?_ fun _ => hstop
        rcases left_cases hstop with hnone | hall
        · rw [hnone]
          exact h
        · rw [hall]
          exact h.migrated hm

theorem Atomic.nodup_append (h : Atomic dir db) (hnodup : db.schema.Nodup)
    (hsub : ∀ m ∈ ms, m ∈ dir.ups) (hms : ms.Nodup)
    (hrecorded : ∀ m ∈ ms, ¬ Recorded db m.version) :
    (db.schema ++ ms.flatMap Migration.changes).Nodup := by
  refine List.nodup_append.mpr ⟨hnodup, nodup_flatMap_changes hsub hms, ?_⟩
  rintro change hschema _ hmem rfl
  obtain ⟨m, hm, hchange⟩ := List.mem_flatMap.mp hmem
  exact hrecorded m hm ((h m (hsub m hm) change hchange).mp hschema)

end Atomic

/-! ## A run and the next one -/

def pending (dir : Directory) (db : Db) : List Migration :=
  dir.ups.filter fun m => ¬ Recorded db m.version

/-- `Migrate` gets to its loop. -/
def Opened (faults : Faults) : Prop :=
  faults .ensure = none ∧ faults .ensureApplied = none ∧ faults .query = none ∧ faults .rows = none

/-- A run of `Migrate` in which nothing fails makes no change that was there already, and leaves
every file with its changes and recorded. -/
structure Completes (dir : Directory) (db : Db) : Prop where
  nodup : (migrate (fun _ => none) dir db).2.schema.Nodup
  recorded : ∀ m ∈ dir.ups, Recorded (migrate (fun _ => none) dir db).2 m.version
  changed : ∀ m ∈ dir.ups, ∀ change ∈ m.changes,
    change ∈ (migrate (fun _ => none) dir db).2.schema

section Runs

variable {faults : Faults} {dir : Directory} {db : Db} {m : Migration}

theorem mem_pending : m ∈ pending dir db ↔ m ∈ dir.ups ∧ ¬ Recorded db m.version := by
  simp [pending]

theorem nodup_pending (dir : Directory) (db : Db) : (pending dir db).Nodup :=
  (nodup_ups dir).filter _

theorem migrate_of_opened (h : Opened faults) (dir : Directory) (db : Db) :
    migrate faults dir db = applyAll faults (pending dir db) db := by
  obtain ⟨hensure, happlied, hquery, hrows⟩ := h
  simp only [migrate, hensure, getAppliedMigrations, happlied, hquery, hrows]
  exact migrateAll_eq_applyAll db db dir.ups

theorem cases_of_not_opened (h : ¬ Opened faults) (db : Db) :
    (∃ fault, faults .ensure = some fault) ∨
      (faults .ensure = none ∧ ∃ err, getAppliedMigrations faults db = .error err) := by
  cases hensure : faults .ensure with
  | some fault => exact .inl ⟨fault, rfl⟩
  | none =>
    refine .inr ⟨rfl, ?_⟩
    unfold getAppliedMigrations
    cases happlied : faults .ensureApplied with
    | some fault => exact ⟨_, rfl⟩
    | none =>
      cases hquery : faults .query with
      | some fault => exact ⟨_, rfl⟩
      | none =>
        cases hrows : faults .rows with
        | some fault => exact ⟨_, rfl⟩
        | none => exact absurd ⟨hensure, happlied, hquery, hrows⟩ h

theorem migrate_of_not_opened (h : ¬ Opened faults) (dir : Directory) (db : Db) :
    (migrate faults dir db).1 ≠ .ok () ∧ (migrate faults dir db).2 = db := by
  unfold migrate
  rcases cases_of_not_opened h db with ⟨fault, hensure⟩ | ⟨hensure, err, herr⟩
  · rw [hensure]
    exact ⟨nofun, rfl⟩
  · rw [hensure, herr]
    exact ⟨nofun, rfl⟩

theorem migrate_ok (h : (migrate faults dir db).1 = .ok ()) :
    (migrate faults dir db).2 = ⟨db.rows ++ (pending dir db).map Migration.row,
      db.schema ++ (pending dir db).flatMap Migration.changes⟩ := by
  by_cases hopened : Opened faults
  · rw [migrate_of_opened hopened] at h ⊢
    rw [applyAll_of_noFault (applyAll_ok_iff.mp h)]
  · exact absurd h (migrate_of_not_opened hopened dir db).1

theorem migrate_noFault (dir : Directory) (db : Db) :
    migrate (fun _ => none) dir db =
      (.ok (), ⟨db.rows ++ (pending dir db).map Migration.row,
        db.schema ++ (pending dir db).flatMap Migration.changes⟩) := by
  rw [migrate_of_opened ⟨rfl, rfl, rfl, rfl⟩]
  exact applyAll_of_noFault fun _ _ _ => rfl

theorem Atomic.completes (h : Atomic dir db) (hnodup : db.schema.Nodup) : Completes dir db where
  nodup := by
    rw [migrate_noFault]
    exact h.nodup_append hnodup (fun m hm => (mem_pending.mp hm).1) (nodup_pending dir db)
      fun m hm => (mem_pending.mp hm).2
  recorded m hm := by
    rw [migrate_noFault]
    show m.version ∈ (db.rows ++ (pending dir db).map Migration.row).map Row.version
    rw [List.map_append, List.mem_append]
    by_cases hrecorded : Recorded db m.version
    · exact .inl hrecorded
    · right
      rw [List.map_map]
      exact List.mem_map.mpr ⟨m, mem_pending.mpr ⟨hm, hrecorded⟩, rfl⟩
  changed m hm change hchange := by
    rw [migrate_noFault]
    show change ∈ db.schema ++ (pending dir db).flatMap Migration.changes
    rw [List.mem_append]
    by_cases hrecorded : Recorded db m.version
    · exact .inl ((h m hm change hchange).mpr hrecorded)
    · exact .inr (List.mem_flatMap.mpr ⟨m, mem_pending.mpr ⟨hm, hrecorded⟩, hchange⟩)

theorem Atomic.nodup_migrate (h : Atomic dir db) (hnodup : db.schema.Nodup) (faults : Faults) :
    (migrate faults dir db).2.schema.Nodup := by
  by_cases hopened : Opened faults
  · rw [migrate_of_opened hopened]
    obtain ⟨k, hk⟩ := applyAll_schema faults (pending dir db) db
    rw [hk]
    have htake : ∀ m ∈ (pending dir db).take k, m ∈ dir.ups ∧ ¬ Recorded db m.version :=
      fun m hm => mem_pending.mp (List.mem_of_mem_take hm)
    exact h.nodup_append hnodup (fun m hm => (htake m hm).1)
      ((nodup_pending dir db).sublist (List.take_sublist _ _)) fun m hm => (htake m hm).2
  · rw [(migrate_of_not_opened hopened dir db).2]
    exact hnodup

end Runs

/-- **Migrations and their records.** After a run on an atomic database, with any fault, the changes
of each file are there if and only if it is recorded, and the next run completes the database,
exactly if no file that the run reaches is stopped after the `COMMIT` of its script and before its
record. -/
theorem migrate_atomic_iff (dir : Directory) (faults : Faults) (db : Db) (hatomic : Atomic dir db)
    (hnodup : db.schema.Nodup) :
    (Atomic dir (migrate faults dir db).2 ∧ Completes dir (migrate faults dir db).2) ↔
      (Opened faults → NoneLeftUnrecorded faults (pending dir db)) := by
  have hiff : Atomic dir (migrate faults dir db).2 ↔
      (Opened faults → NoneLeftUnrecorded faults (pending dir db)) := by
    by_cases hopened : Opened faults
    · rw [migrate_of_opened hopened, hatomic.applyAll_iff (fun m hm => (mem_pending.mp hm).1)
        (nodup_pending dir db) fun m hm => (mem_pending.mp hm).2]
      exact ⟨fun h _ => h, fun h => h hopened⟩
    · rw [(migrate_of_not_opened hopened dir db).2]
      exact iff_of_true hatomic fun h => absurd h hopened
  rw [← hiff]
  exact ⟨fun h => h.1, fun h => ⟨h, h.completes (hatomic.nodup_migrate hnodup faults)⟩⟩

/-! ## The files of the repository -/

/-- The files of `internal/storage/postgres/migrations`. -/
def migrationFiles : List Entry :=
  [⟨"000001_create_sessions_table.down.sql", some ⟨true, 1⟩⟩,
    ⟨"000001_create_sessions_table.up.sql", some ⟨true, 5⟩⟩,
    ⟨"000002_create_aaa_configs_table.down.sql", some ⟨true, 1⟩⟩,
    ⟨"000002_create_aaa_configs_table.up.sql", some ⟨true, 4⟩⟩,
    ⟨"000003_create_audit_log_table.down.sql", some ⟨true, 1⟩⟩,
    ⟨"000003_create_audit_log_table.up.sql", some ⟨true, 9⟩⟩,
    ⟨"000004_create_indexes.down.sql", some ⟨true, 0⟩⟩,
    ⟨"000004_create_indexes.up.sql", some ⟨true, 4⟩⟩,
    ⟨"000005_add_gpsi_hash.down.sql", some ⟨true, 2⟩⟩,
    ⟨"000005_add_gpsi_hash.up.sql", some ⟨true, 4⟩⟩,
    ⟨"000006_create_aiw_sessions_table.down.sql", some ⟨true, 1⟩⟩,
    ⟨"000006_create_aiw_sessions_table.up.sql", some ⟨true, 7⟩⟩,
    ⟨"000007_create_sessions_partitions.down.sql", some ⟨true, 5⟩⟩,
    ⟨"000007_create_sessions_partitions.up.sql", some ⟨true, 5⟩⟩,
    ⟨"000008_add_reverse_flow_ownership_columns.down.sql", some ⟨true, 3⟩⟩,
    ⟨"000008_add_reverse_flow_ownership_columns.up.sql", some ⟨true, 4⟩⟩]

def upFiles : List Migration :=
  [⟨"000001", "000001_create_sessions_table.up.sql", ⟨true, 5⟩⟩,
    ⟨"000002", "000002_create_aaa_configs_table.up.sql", ⟨true, 4⟩⟩,
    ⟨"000003", "000003_create_audit_log_table.up.sql", ⟨true, 9⟩⟩,
    ⟨"000004", "000004_create_indexes.up.sql", ⟨true, 4⟩⟩,
    ⟨"000005", "000005_add_gpsi_hash.up.sql", ⟨true, 4⟩⟩,
    ⟨"000006", "000006_create_aiw_sessions_table.up.sql", ⟨true, 7⟩⟩,
    ⟨"000007", "000007_create_sessions_partitions.up.sql", ⟨true, 5⟩⟩,
    ⟨"000008", "000008_add_reverse_flow_ownership_columns.up.sql", ⟨true, 4⟩⟩]

theorem listMigrations_migrationFiles : listMigrations migrationFiles "up" = upFiles := by
  decide +kernel

theorem migrationFiles_nodup :
    ((listMigrations migrationFiles "up").map Migration.version).Nodup := by
  rw [listMigrations_migrationFiles]
  decide

def migrationsFS : Directory := ⟨migrationFiles, migrationFiles_nodup⟩

namespace Scenario

def emptyDb : Db := ⟨[], []⟩

theorem emptyDb_atomic (dir : Directory) : Atomic dir emptyDb :=
  fun _ _ _ _ => iff_of_false List.not_mem_nil List.not_mem_nil

/-- The process stops when the first file is to be recorded. -/
def stoppedAtRecord : Faults
  | .file filename .record =>
    if filename = "000001_create_sessions_table.up.sql" then some ⟨0, "connection lost"⟩ else none
  | _ => none

/-- The connection is lost after the first statement of the first script. -/
def stoppedInScript : Faults
  | .file filename .script =>
    if filename = "000001_create_sessions_table.up.sql" then some ⟨1, "connection lost"⟩ else none
  | _ => none

theorem stoppedInScript_recorded (m : Migration) : ¬ LeftUnrecorded stoppedInScript m := by
  rintro ⟨-, -, ⟨fault, hscript, hafter⟩ | ⟨-, fault, hrecord, -⟩⟩
  · simp only [stoppedInScript, Option.ite_none_right_eq_some, Option.some.injEq] at hscript
    rw [← hscript.2] at hafter
    exact absurd (Nat.le_of_succ_le_succ hafter) (Nat.not_succ_le_zero _)
  · exact nomatch hrecord

/-- The database after the run that stops at the first record. -/
def unrecordedDb : Db :=
  ⟨[], (List.range 5).map fun i => ⟨"000001_create_sessions_table.up.sql", i⟩⟩

end Scenario

theorem noneLeftUnrecorded_of_forall {faults : Faults} (h : ∀ m, ¬ LeftUnrecorded faults m)
    (ms : List Migration) : NoneLeftUnrecorded faults ms := by
  induction ms with
  | nil => trivial
  | cons m ms ih => exact ⟨fun _ => h m, fun _ => ih⟩

open Scenario in
/-- A run that stops in a script leaves the database atomic. -/
theorem stopped_in_script_atomic :
    Atomic migrationsFS emptyDb ∧ emptyDb.schema.Nodup ∧
      Atomic migrationsFS (migrate stoppedInScript migrationsFS emptyDb).2 ∧
      Completes migrationsFS (migrate stoppedInScript migrationsFS emptyDb).2 :=
  ⟨emptyDb_atomic migrationsFS, List.nodup_nil,
    (migrate_atomic_iff migrationsFS stoppedInScript emptyDb (emptyDb_atomic migrationsFS)
      List.nodup_nil).mpr fun _ => noneLeftUnrecorded_of_forall stoppedInScript_recorded _⟩

open Scenario in
/-- The first file is stopped before its record: its tables are there and it is not recorded, and
the next run makes them a second time. -/
theorem stopped_at_record :
    migrate stoppedAtRecord migrationsFS emptyDb =
      (.error "record migration 000001_create_sessions_table.up.sql: connection lost",
        unrecordedDb) ∧
    ¬ Atomic migrationsFS unrecordedDb ∧
    (migrate (fun _ => none) migrationsFS unrecordedDb).2.schema.count
      ⟨"000001_create_sessions_table.up.sql", 0⟩ = 2 := by
  have hups : migrationsFS.ups = upFiles := listMigrations_migrationFiles
  have hempty : pending migrationsFS emptyDb = upFiles := by
    rw [pending, hups]
    rfl
  have hunrecorded : pending migrationsFS unrecordedDb = upFiles := by
    rw [pending, hups]
    rfl
  have hfirst : (⟨"000001", "000001_create_sessions_table.up.sql", ⟨true, 5⟩⟩ : Migration) ∈
      migrationsFS.ups := by
    rw [hups]
    exact List.mem_cons_self
  refine ⟨?_, @Atomic.not_changed migrationsFS emptyDb _ hfirst (by decide) (by decide), ?_⟩
  · rw [migrate_of_opened ⟨rfl, rfl, rfl, rfl⟩, hempty]
    rfl
  · rw [migrate_noFault, hunrecorded]
    decide +kernel

end NssAAF.Storage.Migrations
