import LexMind.Ingestion.IngestionJob

set_option autoImplicit false

namespace LexMind.Ingestion

open Lib Storage

/-- A file as a source yields it, with what the host answers about it when it is its turn:
`Path(path).resolve()`, whether the resolved path exists, and the bytes read from the path. -/
structure DiscoveredFile where
  path : String
  mimeType : String
  resolved : Except PyExc HostPath
  found : Except PyExc Bool
  content : Except PyExc Bytes

/-- What iterating over a source gives: its files, and what it raises after them, if anything. -/
structure Discovery where
  files : List DiscoveredFile
  raised : Option PyExc

structure IngestionSource where
  name : String
  discover : (location : String) → (recursive : Bool) → Discovery

/-- An optional root, resolved, constrains imports to a directory subtree. -/
structure PathValidator where
  allowedRoot : Option HostPath

namespace PathValidator

def isWithinRoot (validator : PathValidator) (resolved : HostPath) : Bool :=
  match validator.allowedRoot with
  | none => true
  | some root => root <+: resolved

def validate (validator : PathValidator) (file : DiscoveredFile) : Except PyExc HostPath := do
  let resolved ← match file.resolved with
    | .error (.osError errno path) =>
        .error (.invalidPath ("Cannot resolve path '" ++ file.path ++ "': " ++
          (PyExc.osError errno path).text))
    | answer => answer
  if ¬ (← file.found) then
    throw (.invalidPath ("Path does not exist: '" ++ resolved.text ++ "'."))
  if ¬ validator.isWithinRoot resolved then
    throw (.invalidPath ("Path '" ++ resolved.text ++ "' is outside the allowed root '" ++
      (validator.allowedRoot.getD []).text ++ "'."))
  return resolved

end PathValidator

/-- Extensions, each with whether it is currently supported. -/
def extensionMap : List (String × Bool) :=
  [(".pdf", true), (".docx", true), (".odt", true), (".txt", true), (".rtf", true),
    (".html", true), (".htm", true), (".eml", true), (".msg", true), (".png", true),
    (".jpg", true), (".jpeg", true), (".tif", true), (".tiff", true), (".bmp", true),
    (".webp", true), (".mp3", false), (".wav", false), (".mp4", false), (".mkv", false),
    (".zip", false)]

/-- `MimeDetector.is_supported`, with the lower-casing of the standard library. -/
def isSupported (text : TextMethods) (path : String) : Bool :=
  (extensionMap.lookup
    (text.lower (String.ofList (PurePath.suffix (PurePath.name path.toList))))).getD false

inductive IngestionEvent
  | importStarted (jobId source : String)
  | importProgress (jobId : String) (progress : ℚ)
  | fileDiscovered (jobId path : String)
  | fileValidated (path : String)
  | fileRejected (path reason : String)
  | duplicateDetected (path checksum : String)
  | importCompleted (jobId : String)
  | importFailed (jobId error : String)
deriving DecidableEq

def IngestionEvent.name : IngestionEvent → String
  | importStarted .. => "ingestion.import_started"
  | importProgress .. => "ingestion.import_progress"
  | fileDiscovered .. => "ingestion.file_discovered"
  | fileValidated .. => "ingestion.file_validated"
  | fileRejected .. => "ingestion.file_rejected"
  | duplicateDetected .. => "ingestion.duplicate_detected"
  | importCompleted .. => "ingestion.import_completed"
  | importFailed .. => "ingestion.import_failed"

namespace IngestionEvent

/-- The event says that the run is at its end. -/
def endsRun : IngestionEvent → Bool
  | importCompleted _ => true
  | importFailed _ _ => true
  | _ => false

/-- The first event of the processing of a file. -/
def startsFile : IngestionEvent → Bool
  | fileValidated _ => true
  | fileRejected _ _ => true
  | _ => false

end IngestionEvent

/-- What an event callback does: it may ask for the job to be cancelled, and it may raise. -/
structure Reaction where
  cancels : Bool
  raises : Option PyExc
deriving DecidableEq, Repr

/-- How the callback ends. -/
def Reaction.answer (reaction : Reaction) : Except PyExc Unit :=
  match reaction.raises with
  | none => .ok ()
  | some exc => .error exc

/-- The job after the callback. -/
def Reaction.leaves (reaction : Reaction) (job : IngestionJob) : IngestionJob :=
  if reaction.cancels = true ∧ job.isTerminal = false then { job with state := .cancelled } else job

/-- The callback that gets every event, with the events before it. -/
abbrev Emitter := List IngestionEvent → IngestionEvent → Reaction

/-- The collaborators of one job, and the digest of the standard library. -/
structure IngestionContext where
  source : IngestionSource
  location : String
  recursive : Bool
  text : TextMethods
  sha256 : Bytes → String
  pathValidator : PathValidator
  callback : Emitter

/-- What a run changes; `trace` holds the events emitted. -/
structure RunState where
  job : IngestionJob
  statistics : IngestionStatistics
  result : IngestionResult
  detector : DuplicateDetector
  trace : List IngestionEvent

/-- The state a context makes for a job, with a fresh detector. -/
def RunState.create (job : IngestionJob) : RunState :=
  ⟨job, .create, ⟨job.jobId, []⟩, .create, []⟩

abbrev RunPy (α : Type) := Py RunState α

def onJob {α : Type} (program : Py IngestionJob α) : RunPy α :=
  onPart RunState.job (fun state job => { state with job := job }) program

def onDetector {α : Type} (program : Py DuplicateDetector α) : RunPy α :=
  onPart RunState.detector (fun state detector => { state with detector := detector }) program

def record (change : IngestionStatistics → IngestionStatistics) : RunPy Unit :=
  modify (fun state => { state with statistics := change state.statistics })

def addResult (file : FileResult) : RunPy Unit :=
  modify (fun state => { state with result := state.result.add file })

section Calls

variable {α : Type} (state : RunState)

@[simp] theorem call_onJob (program : Py IngestionJob α) :
    call (onJob program) state =
      ((call program state.job).1, { state with job := (call program state.job).2 }) := by
  simp [onJob]

@[simp] theorem call_onDetector (program : Py DuplicateDetector α) :
    call (onDetector program) state =
      ((call program state.detector).1,
        { state with detector := (call program state.detector).2 }) := by
  simp [onDetector]

@[simp] theorem call_record (change : IngestionStatistics → IngestionStatistics) :
    call (record change) state =
      (.ok (), { state with statistics := change state.statistics }) := rfl

@[simp] theorem call_addResult (file : FileResult) :
    call (addResult file) state = (.ok (), { state with result := state.result.add file }) := rfl

end Calls

namespace IngestionPipeline

variable (context : IngestionContext)

def emit (event : IngestionEvent) : RunPy Unit := do
  let before := (← get).trace
  modify (fun state => { state with trace := before ++ [event] })
  let reaction := context.callback before event
  if reaction.cancels then onJob IngestionJob.cancel
  check reaction.answer

/-- Emitting adds to the trace, and the job and the answer are the callback's. -/
@[simp] theorem call_emit (event : IngestionEvent) (state : RunState) :
    call (emit context event) state =
      ((context.callback state.trace event).answer,
        { state with
          job := (context.callback state.trace event).leaves state.job
          trace := state.trace ++ [event] }) := by
  cases cancels : (context.callback state.trace event).cancels with
  | false => simp [emit, Reaction.leaves, cancels]
  | true =>
      cases terminal : state.job.isTerminal <;> simp [emit, Reaction.leaves, cancels, terminal]

def discoverFiles : List DiscoveredFile → RunPy Unit
  | [] => return
  | file :: rest => do
      let jobId := (← get).job.jobId
      emit context (.fileDiscovered jobId file.path)
      discoverFiles rest

def discover : RunPy (List DiscoveredFile) := do
  let discovery := context.source.discover context.location context.recursive
  discoverFiles context discovery.files
  match discovery.raised with
  | none => return discovery.files
  | some exc => throw exc

/-- `sha256_file`. -/
def sha256File (file : DiscoveredFile) : Except PyExc String := file.content.map context.sha256

/-- What `_process_file` does with a file once its path is valid. -/
def identifyFile (file : DiscoveredFile) : RunPy Unit := do
  if ¬ isSupported context.text file.path then
    record .recordUnsupported
    addResult ⟨file.path, .unsupported, none, some file.mimeType, some "Unsupported file type."⟩
  else
    let checksum ← check (sha256File context file)
    if ← onDetector (DuplicateDetector.checkAndRegister checksum) then
      record .recordDuplicate
      addResult ⟨file.path, .duplicate, some checksum, some file.mimeType, none⟩
      emit context (.duplicateDetected file.path checksum)
    else
      record .recordImported
      addResult ⟨file.path, .imported, some checksum, some file.mimeType, none⟩

def processFile (file : DiscoveredFile) : RunPy Unit := do
  match context.pathValidator.validate file with
  | .error (.invalidPath message) =>
      record .recordError
      onJob (modify (fun job => { job with filesFailed := job.filesFailed + 1 }))
      addResult ⟨file.path, .rejected, none, none, some message⟩
      emit context (.fileRejected file.path message)
  | .error exc => throw exc
  | .ok _ =>
      emit context (.fileValidated file.path)
      identifyFile context file

/-- What the loop does after a file. -/
def advance (total index : Nat) : RunPy Unit := do
  onJob (modify (fun job => { job with filesProcessed := job.filesProcessed + 1 }))
  onJob (modify (fun job => { job with progress := if total = 0 then 1 else index / total }))
  let job := (← get).job
  emit context (.importProgress job.jobId job.progress)

/-- The loop over the files left, of which the first has this index; there are `total` files. -/
def processFiles (total : Nat) : (index : Nat) → List DiscoveredFile → RunPy Unit
  | _, [] => return
  | index, file :: rest => do
      if (← get).job.state = .cancelled then return
      processFile context file
      advance context total index
      processFiles total (index + 1) rest

/-- The end of `process`. -/
def complete (jobId : String) : RunPy IngestionResult := do
  onJob (IngestionJob.settle .completed)
  emit context (.importCompleted jobId)
  return (← get).result

/-- `process` from the files discovered on. -/
def importDiscovered (jobId : String) (discovered : List DiscoveredFile) :
    RunPy IngestionResult := do
  record (fun stats => { stats with totalFiles := discovered.length })
  onJob (IngestionJob.transitionTo .validating)
  onJob (IngestionJob.transitionTo .importing)
  processFiles context discovered.length 1 discovered
  complete context jobId

def process : RunPy IngestionResult := do
  let jobId := (← get).job.jobId
  emit context (.importStarted jobId context.source.name)
  onJob (IngestionJob.transitionTo .discovering)
  let discovered ← discover context
  importDiscovered context jobId discovered

end IngestionPipeline

/-- The registered sources by name, and what each run is wired with. -/
structure IngestionManager where
  sources : List (String × IngestionSource)
  text : TextMethods
  sha256 : Bytes → String
  pathValidator : PathValidator
  emit : Emitter

namespace IngestionManager

/-- What `run` does with an exception of the pipeline. -/
def fail (context : IngestionContext) (exc : PyExc) : RunPy IngestionResult := do
  onJob (IngestionJob.addWarning exc.text)
  onJob (IngestionJob.settle .failed)
  let jobId := (← get).job.jobId
  IngestionPipeline.emit context (.importFailed jobId exc.text)
  throw (.ingestion exc.text)

variable (manager : IngestionManager)

/-- `run` on the state its context makes for the job. -/
def run (location source : String) (recursive : Bool) : RunPy IngestionResult := do
  match manager.sources.lookup source with
  | none => throw (.ingestion ("No ingestion source registered as '" ++ source ++ "'."))
  | some ingestionSource =>
      let context : IngestionContext :=
        ⟨ingestionSource, location, recursive, manager.text, manager.sha256,
          manager.pathValidator, manager.emit⟩
      match ← attempt (IngestionPipeline.process context) with
      | .ok result => return result
      | .error exc => fail context exc

end IngestionManager

end LexMind.Ingestion
