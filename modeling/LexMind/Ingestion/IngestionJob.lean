import LexMind.Storage.Filesystem
import Mathlib.Data.Finset.Insert
import Mathlib.Data.Rat.Defs

set_option autoImplicit false

namespace LexMind.Ingestion

open Lib Storage

inductive JobState
  | created
  | discovering
  | validating
  | importing
  | paused
  | cancelled
  | completed
  | failed
deriving DecidableEq, Repr

def JobState.value : JobState → String
  | created => "created"
  | discovering => "discovering"
  | validating => "validating"
  | importing => "importing"
  | paused => "paused"
  | cancelled => "cancelled"
  | completed => "completed"
  | failed => "failed"

/-- Allowed forward transitions between job states. -/
def transitions : JobState → List JobState
  | .created => [.discovering, .cancelled, .failed]
  | .discovering => [.validating, .paused, .cancelled, .failed]
  | .validating => [.importing, .paused, .cancelled, .failed]
  | .importing => [.completed, .paused, .cancelled, .failed]
  | .paused => [.discovering, .validating, .importing, .cancelled]
  | .cancelled => []
  | .completed => []
  | .failed => []

def canTransition (current target : JobState) : Bool := target ∈ transitions current

structure IngestionJob where
  workspaceId : String
  source : String
  jobId : String
  state : JobState
  progress : ℚ
  filesProcessed : Nat
  filesFailed : Nat
  warnings : List String
deriving DecidableEq

namespace IngestionJob

/-- A job as its constructor makes it. -/
def create (workspaceId source jobId : String) : IngestionJob :=
  ⟨workspaceId, source, jobId, .created, 0, 0, 0, []⟩

def isTerminal (job : IngestionJob) : Bool :=
  job.state ∈ [JobState.completed, .cancelled, .failed]

def transitionTo (target : JobState) : Py IngestionJob Unit := do
  let job ← get
  if ¬ canTransition job.state target then
    throw (.invalidJobState ("Cannot transition job '" ++ job.jobId ++ "' from " ++
      job.state.value ++ " to " ++ target.value ++ "."))
  set { job with state := target }

def addWarning (message : String) : Py IngestionJob Unit :=
  modify (fun job => { job with warnings := job.warnings ++ [message] })

/-- `if not job.is_terminal: job.transition_to(target)`. -/
def settle (target : JobState) : Py IngestionJob Unit := do
  if ¬ (← get).isTerminal then transitionTo target

/-- `IngestionManager.cancel_job` on the job it finds. -/
def cancel : Py IngestionJob Unit := settle .cancelled

theorem isTerminal_iff (job : IngestionJob) :
    job.isTerminal = true ↔
      job.state = .completed ∨ job.state = .cancelled ∨ job.state = .failed := by
  simp [isTerminal]

theorem call_transitionTo (target : JobState) (job : IngestionJob)
    (allowed : canTransition job.state target = true) :
    call (transitionTo target) job = (.ok (), { job with state := target }) := by
  simp [transitionTo, allowed]

theorem call_transitionTo_refused (target : JobState) (job : IngestionJob)
    (refused : canTransition job.state target = false) : ∃ exc,
    call (transitionTo target) job = (.error exc, job) := by
  simp [transitionTo, refused]

theorem state_of_transitionTo {target : JobState} {job next : IngestionJob}
    (returned : call (transitionTo target) job = (.ok (), next)) : next.state = target := by
  cases allowed : canTransition job.state target with
  | false =>
      obtain ⟨exc, refused⟩ := call_transitionTo_refused target job allowed
      rw [refused] at returned
      cases returned
  | true =>
      rw [call_transitionTo target job allowed] at returned
      cases returned
      rfl

/-- A terminal job moves nowhere. -/
theorem active_of_transitionTo {target : JobState} {job next : IngestionJob}
    (returned : call (transitionTo target) job = (.ok (), next)) : job.isTerminal = false := by
  rw [← Bool.not_eq_true, isTerminal_iff]
  intro terminal
  have stuck : canTransition job.state target = false := by
    rcases terminal with ended | ended | ended <;> simp [canTransition, transitions, ended]
  obtain ⟨exc, refused⟩ := call_transitionTo_refused target job stuck
  rw [refused] at returned
  cases returned

/-- A job that settles stays where it is or moves to the target. -/
theorem settle_cases {target : JobState} {job next : IngestionJob}
    (returned : call (settle target) job = (.ok (), next)) :
    (job.isTerminal = true ∧ next = job) ∨ (job.isTerminal = false ∧ next.state = target) := by
  cases terminal : job.isTerminal with
  | true =>
      have same : job = next := by simpa [settle, terminal] using returned
      exact .inl ⟨rfl, same.symm⟩
  | false =>
      have moved : call (transitionTo target) job = (.ok (), next) := by
        simpa [settle, terminal] using returned
      exact .inr ⟨rfl, state_of_transitionTo moved⟩

/-- No state but a terminal one keeps a job from being cancelled. -/
@[simp] theorem call_cancel (job : IngestionJob) :
    call cancel job =
      (.ok (), if job.isTerminal then job else { job with state := .cancelled }) := by
  cases terminal : job.isTerminal with
  | true => simp [cancel, settle, terminal]
  | false =>
      have allowed : canTransition job.state .cancelled = true := by
        rw [← Bool.not_eq_true, isTerminal_iff] at terminal
        cases standing : job.state <;> simp_all [canTransition, transitions]
      simp [cancel, settle, terminal, call_transitionTo .cancelled job allowed]

end IngestionJob

inductive FileOutcome
  | imported
  | duplicate
  | unsupported
  | rejected
  | error
deriving DecidableEq, Repr

/-- The result of processing one file. -/
structure FileResult where
  path : String
  outcome : FileOutcome
  checksum : Option String
  mimeType : Option String
  message : Option String
deriving DecidableEq, Repr

structure IngestionResult where
  jobId : String
  files : List FileResult
deriving DecidableEq, Repr

namespace IngestionResult

def add (result : IngestionResult) (file : FileResult) : IngestionResult :=
  { result with files := result.files ++ [file] }

/-- The number of files with the outcome. -/
def count (result : IngestionResult) (outcome : FileOutcome) : Nat :=
  result.files.countP (fun file => file.outcome = outcome)

end IngestionResult

structure IngestionStatistics where
  totalFiles : Nat
  imported : Nat
  skipped : Nat
  duplicates : Nat
  unsupported : Nat
  errors : Nat
deriving DecidableEq, Repr

namespace IngestionStatistics

def create : IngestionStatistics := ⟨0, 0, 0, 0, 0, 0⟩

def recordImported (stats : IngestionStatistics) : IngestionStatistics :=
  { stats with imported := stats.imported + 1 }

def recordDuplicate (stats : IngestionStatistics) : IngestionStatistics :=
  { stats with duplicates := stats.duplicates + 1 }

def recordUnsupported (stats : IngestionStatistics) : IngestionStatistics :=
  { stats with unsupported := stats.unsupported + 1 }

def recordError (stats : IngestionStatistics) : IngestionStatistics :=
  { stats with errors := stats.errors + 1 }

end IngestionStatistics

/-- The checksums seen in a run. -/
structure DuplicateDetector where
  seen : Finset String

namespace DuplicateDetector

def create : DuplicateDetector := ⟨∅⟩

/-- Whether the checksum is a duplicate; otherwise it is registered. -/
def checkAndRegister (checksum : String) : Py DuplicateDetector Bool := do
  if checksum ∈ (← get).seen then return true
  modify (fun detector => ⟨insert checksum detector.seen⟩)
  return false

@[simp] theorem call_checkAndRegister (checksum : String) (detector : DuplicateDetector) :
    call (checkAndRegister checksum) detector =
      if checksum ∈ detector.seen then (.ok true, detector)
      else (.ok false, ⟨insert checksum detector.seen⟩) := by
  by_cases seen : checksum ∈ detector.seen <;> simp [checkAndRegister, seen]

end DuplicateDetector

end LexMind.Ingestion
