import LexMind.Ingestion.Accounting
import LexMind.Ingestion.CancelledRuns

set_option autoImplicit false

/- What a run makes of files that cannot be read. -/
namespace LexMind.Ingestion

open Lib Storage

/-- The file gets as far as being read for its checksum, and cannot be. -/
def unreadable (validator : PathValidator) (text : TextMethods) (file : DiscoveredFile) : Bool :=
  (validator.validate file).isOk && isSupported text file.path && !file.content.isOk

/-- The manager with one source, which yields these files. -/
def IngestionManager.withFiles (manager : IngestionManager) (source : String)
    (files : List DiscoveredFile) : IngestionManager :=
  { manager with sources := [(source, ⟨source, fun _ _ => ⟨files, none⟩⟩)] }

/-- What a run for a new job answers and leaves, with these files to discover. -/
def importRun (manager : IngestionManager) (job : IngestionJob) (location source : String)
    (recursive : Bool) (files : List DiscoveredFile) : Except PyExc IngestionResult × RunState :=
  call ((manager.withFiles source files).run location source recursive) (.create job)

/-- The unreadable files are isolated: the run returns, completed, with what it answers for the other
files without them, and with a failure for each of them. -/
structure Isolated (manager : IngestionManager) (files : List DiscoveredFile)
    (outcome without : Except PyExc IngestionResult × RunState) : Prop where
  returned : outcome.1 = .ok outcome.2.result
  completed : outcome.2.job.state = .completed
  each : outcome.2.result.files.map FileResult.path = files.map DiscoveredFile.path
  others : ((files.zip outcome.2.result.files).filter (fun pair =>
      !unreadable manager.pathValidator manager.text pair.1)).map Prod.snd =
    without.2.result.files
  failed : ∀ pair ∈ files.zip outcome.2.result.files,
    unreadable manager.pathValidator manager.text pair.1 = true →
      pair.2.outcome = .rejected ∨ pair.2.outcome = .error
  counted : outcome.2.statistics.errors =
    outcome.2.result.count .rejected + outcome.2.result.count .error

section Runs

variable (manager : IngestionManager) (location source : String) (recursive : Bool)

/-- The collaborators of such a run. -/
def IngestionManager.contextOf (files : List DiscoveredFile) : IngestionContext :=
  ⟨⟨source, fun _ _ => ⟨files, none⟩⟩, location, recursive, manager.text, manager.sha256,
    manager.pathValidator, manager.emit⟩

variable {manager location source recursive} {files : List DiscoveredFile} {job : IngestionJob}

/-- A run of the manager is one of the pipeline, unless that raises. -/
theorem importRun_cases :
    let context := manager.contextOf location source recursive files
    (∃ result, (call (IngestionPipeline.process context) (.create job)).1 = .ok result ∧
      importRun manager job location source recursive files =
        call (IngestionPipeline.process context) (.create job)) ∨
    ∃ exc, (call (IngestionPipeline.process context) (.create job)).1 = .error exc ∧
      importRun manager job location source recursive files =
        call (IngestionManager.fail context exc)
          (call (IngestionPipeline.process context) (.create job)).2 := by
  intro context
  have found : (manager.withFiles source files).sources.lookup source =
      some ⟨source, fun _ _ => ⟨files, none⟩⟩ := by
    simp [IngestionManager.withFiles]
  obtain ⟨next, program, failing, returning⟩ : ∃ next,
      importRun manager job location source recursive files =
        call (attempt (IngestionPipeline.process context) >>= next) (.create job) ∧
      (∀ exc, next (.error exc) = IngestionManager.fail context exc) ∧
      ∀ result, next (.ok result) = pure result := by
    unfold importRun IngestionManager.run
    rw [found]
    exact ⟨_, rfl, fun _ => rfl, fun _ => rfl⟩
  rw [program, call_bind, call_attempt, andThen_ok]
  rcases call (IngestionPipeline.process context) (.create job) with ⟨exc | result, reached⟩
  · exact .inr ⟨exc, rfl, by rw [failing]⟩
  · exact .inl ⟨result, rfl, by rw [returning, call_pure]⟩

theorem process_of_importRun {result : IngestionResult} {next : RunState}
    (returned : importRun manager job location source recursive files = (.ok result, next)) :
    call (IngestionPipeline.process (manager.contextOf location source recursive files))
      (.create job) = (.ok result, next) := by
  rcases (importRun_cases : _ ∨ _) with ⟨_, _, same⟩ | ⟨exc, _, failed⟩
  · exact same.symm.trans returned
  · obtain ⟨raised, final, _, raises, _⟩ := fail_ends _ exc _
    rw [failed, raises] at returned
    cases returned

/-- The events of the pipeline's run are events of the manager's. -/
theorem trace_process_isPrefix :
    (call (IngestionPipeline.process (manager.contextOf location source recursive files))
      (.create job)).2.trace <+: (importRun manager job location source recursive files).2.trace := by
  rcases (importRun_cases : _ ∨ _) with ⟨_, _, same⟩ | ⟨exc, _, failed⟩
  · rw [same]
  · obtain ⟨raised, final, tail, raises, trace, _⟩ := fail_ends _ exc _
    rw [failed, raises, trace]
    exact List.prefix_append _ _

theorem readable_of_answered {validator : PathValidator} {text : TextMethods}
    {file : DiscoveredFile} (answered : Answered validator text file) :
    unreadable validator text file = false := by
  unfold unreadable
  cases valid : (validator.validate file).isOk with
  | false => rfl
  | true =>
      cases supported : isSupported text file.path with
      | false => rfl
      | true =>
          obtain ⟨data, read⟩ := answered.reads valid supported
          rw [read]
          rfl

/-- Each result has one outcome. -/
theorem length_eq_counts (result : IngestionResult) :
    result.files.length = result.count .imported + result.count .duplicate +
      result.count .unsupported + result.count .rejected + result.count .error := by
  unfold IngestionResult.count
  induction result.files with
  | nil => rfl
  | cons file rest ih =>
      simp only [List.countP_cons, List.length_cons, decide_eq_true_eq]
      cases file.outcome <;> simp only [reduceCtorEq, ↓reduceIte] <;> omega

/-- Where every file is answered, the run is that of the pipeline, and isolates what there is. -/
theorem isolated_of_accounted {context : IngestionContext}
    {outcome : Except PyExc IngestionResult × RunState}
    (accounted : Accounted context files outcome)
    (answered : ∀ file ∈ files, Answered manager.pathValidator manager.text file) :
    Isolated manager files outcome outcome := by
  have readable : ∀ pair ∈ files.zip outcome.2.result.files,
      unreadable manager.pathValidator manager.text pair.1 = false := by
    intro pair inside
    exact readable_of_answered (answered pair.1 (List.of_mem_zip inside).1)
  have lengths : files.length = outcome.2.result.files.length := by
    simpa using (congrArg List.length accounted.accounts.inOrder).symm
  refine ⟨accounted.returned, accounted.completed, accounted.accounts.inOrder, ?_, ?_, ?_⟩
  · rw [List.filter_eq_self.mpr (fun pair inside => by rw [readable pair inside]; rfl)]
    exact List.map_snd_zip lengths.ge
  · intro pair inside failed
    rw [readable pair inside] at failed
    cases failed
  · have all := length_eq_counts outcome.2.result
    have total := accounted.accounts.total
    have imported := accounted.accounts.imported
    have duplicates := accounted.accounts.duplicates
    have unsupported := accounted.accounts.unsupported
    have errors := accounted.accounts.errors
    omega

end Runs

/-- For every list of discovered files, whatever the host says of their paths and contents, every
manager and every event callback that neither raises nor cancels in the run: the run isolates the
files that cannot be read exactly when there are none, nor any whose validation raises otherwise. -/
theorem unreadable_isolated_iff (manager : IngestionManager)
    (workspaceId jobSource jobId location source : String) (recursive : Bool)
    (files : List DiscoveredFile)
    (quiet : Quiet manager.emit
      (importRun manager (.create workspaceId jobSource jobId) location source recursive
        files).2.trace) :
    let imports := importRun manager (.create workspaceId jobSource jobId) location source recursive
    Isolated manager files (imports files) (imports (files.filter (fun file =>
        !unreadable manager.pathValidator manager.text file))) ↔
      ∀ file ∈ files, Answered manager.pathValidator manager.text file := by
  intro imports
  let context := manager.contextOf location source recursive files
  constructor
  · intro isolated
    have returned : imports files = (.ok (imports files).2.result, (imports files).2) :=
      Prod.ext isolated.returned rfl
    exact @answered_of_process context rfl _ _ _ (process_of_importRun returned)
      isolated.completed
  · intro answered
    have all : files.filter (fun file => !unreadable manager.pathValidator manager.text file) =
        files := by
      refine List.filter_eq_self.mpr (fun file inside => ?_)
      rw [readable_of_answered (answered file inside)]
      rfl
    rw [all]
    have early : Quiet manager.emit (call (IngestionPipeline.process context)
        (.create (.create workspaceId jobSource jobId))).2.trace :=
      quiet.of_isPrefix trace_process_isPrefix
    obtain ⟨value, next, processed, accounted⟩ :=
      @reaches_process context _ rfl rfl rfl rfl answered early
    have same : imports files = (.ok value, next) := by
      rcases (importRun_cases : _ ∨ _) with ⟨_, _, same⟩ | ⟨exc, raised, _⟩
      · exact same.trans processed
      · rw [processed] at raised
        cases raised
    rw [same]
    exact isolated_of_accounted accounted answered

/-- A manager without a bus. -/
def quietManager : IngestionManager where
  sources := []
  text := asciiText
  sha256 := fun _ => "8ed3f6ad685b959ead7022518e1af76cd816f8e8ec7ccdda1ed4018e8f2223f8"
  pathValidator := ⟨none⟩
  emit := fun _ _ => ⟨false, none⟩

def plainText (name : String) (content : Except PyExc Bytes) : DiscoveredFile :=
  ⟨"/docs/" ++ name, "text/plain", .ok ["docs".toList, name.toList], .ok true, content⟩

/-- A text, and one that the process may not read. -/
def lockedFolder : List DiscoveredFile :=
  [plainText "a.txt" (.ok "alpha".toUTF8.toList),
    plainText "b.txt" (.error (.osError .permissionDenied "/docs/b.txt"))]

theorem unreadable_isolated_iff_locked :
    let imports := importRun quietManager (.create "ws1" "/docs" "job1") "/docs" "filesystem" true
    Isolated quietManager lockedFolder (imports lockedFolder)
        (imports (lockedFolder.filter (fun file => !unreadable ⟨none⟩ asciiText file))) ↔
      ∀ file ∈ lockedFolder, Answered ⟨none⟩ asciiText file :=
  unreadable_isolated_iff quietManager "ws1" "/docs" "job1" "/docs" "filesystem" true lockedFolder
    (fun _ _ _ _ => rfl)

/-- The second file cannot be read, and the whole import fails. -/
theorem locked_file_fails_job :
    let imports := importRun quietManager (.create "ws1" "/docs" "job1") "/docs" "filesystem" true
    (imports lockedFolder).2.job.state = .failed ∧
    ¬ Isolated quietManager lockedFolder (imports lockedFolder)
      (imports (lockedFolder.filter (fun file => !unreadable ⟨none⟩ asciiText file))) := by
  intro imports
  have failed : (imports lockedFolder).2.job.state = .failed := by
    decide +kernel
  refine ⟨failed, fun isolated => ?_⟩
  have both := failed.symm.trans isolated.completed
  cases both

end LexMind.Ingestion
