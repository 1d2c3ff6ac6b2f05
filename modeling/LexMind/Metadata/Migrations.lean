import LexMind.Lib.Run
import LexMind.Python

set_option autoImplicit false

namespace LexMind.Metadata

open Lib

/-- A single database migration. Its callables work on what the engine leads to apart from the
version table, and may raise. -/
structure Migration (σ : Type) where
  version : String
  up : Py σ Unit
  description : String
  down : Option (Py σ Unit)

/-- A row of `schema_versions`. -/
structure MigrationRecord where
  version : String
  description : String
  appliedAt : Timestamp
deriving DecidableEq, Repr

abbrev SchemaVersions := Keyed MigrationRecord.version

inductive Direction
  | up
  | down
deriving DecidableEq, Repr

/-- A callable that was run: whether its version was recorded then, and whether it returned. -/
structure Ran where
  direction : Direction
  version : String
  recorded : Bool
  completed : Bool
deriving DecidableEq, Repr

/-- The database, its version table, and the callables run so far. -/
structure MigrationState (σ : Type) where
  engine : σ
  versions : SchemaVersions
  ran : List Ran

abbrev MigrationPy (σ α : Type) := Py (MigrationState σ) α

variable {σ α : Type}

def onTracker (program : Py SchemaVersions α) : MigrationPy σ α :=
  onPart MigrationState.versions (fun state versions => { state with versions := versions }) program

def onEngine (program : Py σ α) : MigrationPy σ α :=
  onPart MigrationState.engine (fun state engine => { state with engine := engine }) program

namespace MigrationTracker

/-- `ORDER BY version`. -/
def appliedVersions (versions : SchemaVersions) : List String :=
  (versions.rows.map MigrationRecord.version).mergeSort (fun first second => first ≤ second)

def recordApplied (version description : String) (now : Timestamp) : Py SchemaVersions Unit := do
  if (← get).contains version then throw (.integrityError "schema_versions" "version")
  modify (fun versions => versions.put ⟨version, description, now⟩)

def removeRecord (version : String) : Py SchemaVersions Unit :=
  modify (fun versions => versions.erase version)

def isApplied (versions : SchemaVersions) (version : String) : Bool :=
  version ∈ appliedVersions versions

end MigrationTracker

/-- The registered migrations, in the order of their registration. -/
structure MigrationRunner (σ : Type) where
  migrations : List (Migration σ)

namespace MigrationRunner

open MigrationTracker

/-- Run a callable of a migration, and note that it was run. -/
def runCallable (direction : Direction) (version : String) (callable : Py σ Unit) :
    MigrationPy σ Unit := do
  let recorded := isApplied (← get).versions version
  let answer ← attempt (onEngine callable)
  modify (fun state => { state with
    ran := state.ran ++ [⟨direction, version, recorded, answer.isOk⟩] })
  check answer

/-- One turn of the loop of `migrate_up`; the clock is read when the version is recorded. -/
def applyOne (clock : String → Timestamp) (migration : Migration σ) : MigrationPy σ Unit := do
  runCallable .up migration.version migration.up
  onTracker (recordApplied migration.version migration.description (clock migration.version))

def rollBackOne (version : String) (down : Py σ Unit) : MigrationPy σ Unit := do
  runCallable .down version down
  onTracker (removeRecord version)

/-- Raise what a turn raised as a migration error. -/
def wrapping (message : String) (turn : MigrationPy σ Unit) : MigrationPy σ Unit := do
  match ← attempt turn with
  | .ok _ => pure ()
  | .error exc => throw (.migration (message ++ " failed: " ++ exc.text))

def pending (runner : MigrationRunner σ) (versions : SchemaVersions) : List (Migration σ) :=
  runner.migrations.filter (fun migration => migration.version ∉ appliedVersions versions)

def applyAll (clock : String → Timestamp) : List (Migration σ) → MigrationPy σ (List String)
  | [] => return []
  | migration :: rest => do
      wrapping ("Migration " ++ migration.version) (applyOne clock migration)
      let applied ← applyAll clock rest
      return migration.version :: applied

def migrateUp (runner : MigrationRunner σ) (clock : String → Timestamp) :
    MigrationPy σ (List String) := do
  applyAll clock (runner.pending (← get).versions)

/-- The loop of `migrate_down` over the reversed migrations. -/
def rollBack (version : String) (applied : List String) :
    List (Migration σ) → MigrationPy σ (List String)
  | [] => return []
  | migration :: rest =>
      if migration.version ∉ applied then rollBack version applied rest
      else
        match migration.down with
        | none => throw (.migration ("Migration " ++ migration.version ++ " has no rollback"))
        | some down => do
            wrapping ("Rollback " ++ migration.version) (rollBackOne migration.version down)
            if migration.version = version then return [migration.version]
            else
              let rolledBack ← rollBack version applied rest
              return migration.version :: rolledBack

def migrateDown (runner : MigrationRunner σ) (version : String) : MigrationPy σ (List String) := do
  let applied := appliedVersions (← get).versions
  if version ∉ applied then throw (.migrationVersion version "not applied")
  rollBack version applied runner.migrations.reverse

def currentVersion (versions : SchemaVersions) : Option String :=
  (appliedVersions versions).getLast?

end MigrationRunner

/-- A call of the runner. -/
inductive MigrationCall
  | migrateUp (clock : String → Timestamp)
  | migrateDown (version : String)

def MigrationCall.program (runner : MigrationRunner σ) :
    MigrationCall → MigrationPy σ (List String)
  | .migrateUp clock => runner.migrateUp clock
  | .migrateDown version => runner.migrateDown version

def migrationStep (runner : MigrationRunner σ) (state : MigrationState σ)
    (migrationCall : MigrationCall) : Except PyExc (List String) × MigrationState σ :=
  call (migrationCall.program runner) state

end LexMind.Metadata
