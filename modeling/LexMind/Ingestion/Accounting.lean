import LexMind.Ingestion.RunSteps

set_option autoImplicit false

/- What a run of the pipeline answers for each file, and what it counts. -/
namespace LexMind.Ingestion

open Lib Storage

/-- No callback of a run with this trace raises or asks for a cancellation. -/
def Quiet (callback : Emitter) (trace : List IngestionEvent) : Prop :=
  ∀ before event after, trace = before ++ event :: after → callback before event = ⟨false, none⟩

theorem Quiet.of_isPrefix {callback : Emitter} {first last : List IngestionEvent}
    (quiet : Quiet callback last) (longer : first <+: last) : Quiet callback first := by
  obtain ⟨rest, rfl⟩ := longer
  intro before event after split
  exact quiet before event (after ++ rest) (by rw [split, List.append_assoc, List.cons_append])

/-- However the program ends, the events emitted stay. -/
abbrev Grows {α : Type} (program : RunPy α) : Prop :=
  Leaves (fun first last => first.trace <+: last.trace) program

theorem grows_emit {context : IngestionContext} (event : IngestionEvent) :
    Grows (IngestionPipeline.emit context event) := by
  intro state
  rw [IngestionPipeline.call_emit]
  exact List.prefix_append _ _

theorem growing (context : IngestionContext) :
    StepRelation context (fun first last => first.trace <+: last.trace) where
  trans _ _ _ first second := first.trans second
  same _ _ _ trace := trace ▸ List.prefix_rfl
  moved _ _ _ _ := List.prefix_rfl
  emitted event state _ := grows_emit event state

/-- Where no callback interferes by its end, the program returns, as is said. -/
def Reaches {α : Type} (callback : Emitter) (program : RunPy α) (state : RunState)
    (post : α → RunState → Prop) : Prop :=
  Quiet callback (call program state).2.trace →
    ∃ value next, call program state = (.ok value, next) ∧ post value next

section Rules

variable {α β : Type} {callback : Emitter}

theorem Reaches.bind {program : RunPy α} {next : α → RunPy β} {state : RunState}
    {middle : α → RunState → Prop} {post : β → RunState → Prop}
    (before : Reaches callback program state middle) (grows : ∀ value, Grows (next value))
    (after : ∀ value reached, middle value reached → Reaches callback (next value) reached post) :
    Reaches callback (program >>= next) state post := by
  intro quiet
  rw [call_bind] at quiet ⊢
  rcases ended : call program state with ⟨reason | value, reached⟩
  · rw [ended, andThen_error] at quiet
    obtain ⟨_, _, returned, _⟩ := before (by rwa [ended])
    rw [ended] at returned
    cases returned
  · rw [ended, andThen_ok] at quiet
    have early : Quiet callback reached.trace := quiet.of_isPrefix (grows value reached)
    obtain ⟨_, _, returned, holds⟩ := before (by rwa [ended])
    rw [ended] at returned
    cases returned
    exact after value reached holds quiet

theorem Reaches.of_call {program : RunPy α} {state next : RunState} {value : α}
    {post : α → RunState → Prop} (returned : call program state = (.ok value, next))
    (holds : post value next) : Reaches callback program state post :=
  fun _ => ⟨value, next, returned, holds⟩

/-- A step that calls no callback. -/
theorem Reaches.step {program : RunPy α} {rest : α → RunPy β} {state next : RunState} {value : α}
    {post : β → RunState → Prop} (returned : call program state = (.ok value, next))
    (after : Reaches callback (rest value) next post) :
    Reaches callback (program >>= rest) state post := by
  intro quiet
  rw [call_bind, returned, andThen_ok] at quiet ⊢
  exact after quiet

end Rules

section Steps

variable {context : IngestionContext}

theorem grows_onJob {α : Type} (program : Py IngestionJob α) : Grows (onJob program) := by
  intro state
  rw [call_onJob]

theorem grows_complete (jobId : String) : Grows (IngestionPipeline.complete context jobId) :=
  (growing context).bind (grows_onJob _) (fun _ => (growing context).bind (grows_emit _) (fun _ =>
    (growing context).get_bind (fun _ => (growing context).pure _)))

theorem grows_importDiscovered (jobId : String) (discovered : List DiscoveredFile) :
    Grows (IngestionPipeline.importDiscovered context jobId discovered) :=
  (growing context).bind ((growing context).of_same (fun _ => rfl) (fun _ => rfl)) (fun _ =>
    (growing context).bind (grows_onJob _) (fun _ => (growing context).bind (grows_onJob _) (fun _ =>
      (growing context).bind ((growing context).processFiles _ _ _) (fun _ =>
        grows_complete jobId))))

theorem reaches_emit {event : IngestionEvent} {state : RunState} {post : Unit → RunState → Prop}
    (holds : post () { state with trace := state.trace ++ [event] }) :
    Reaches context.callback (IngestionPipeline.emit context event) state post := by
  intro quiet
  rw [IngestionPipeline.call_emit] at quiet ⊢
  have calm : context.callback state.trace event = ⟨false, none⟩ := quiet _ _ [] rfl
  exact ⟨(), _, by simp [calm, Reaction.answer, Reaction.leaves], holds⟩

/-- A callback, and what follows. -/
theorem reaches_emit_bind {α : Type} {event : IngestionEvent} {state : RunState}
    {rest : Unit → RunPy α} {post : α → RunState → Prop} (grows : Grows (rest ()))
    (after : Reaches context.callback (rest ())
      { state with trace := state.trace ++ [event] } post) :
    Reaches context.callback (IngestionPipeline.emit context event >>= rest) state post := by
  have emitted : Reaches context.callback (IngestionPipeline.emit context event) state
      (fun _ next => next = { state with trace := state.trace ++ [event] }) := reaches_emit rfl
  refine emitted.bind (fun _ => grows) ?_
  rintro _ _ rfl
  exact after

end Steps

/-- What a file comes to, by the checksums seen before it. -/
inductive Verdict (context : IngestionContext) (seen : Finset String) (file : DiscoveredFile) :
    FileResult → Prop
  | rejected (message : String)
      (refused : context.pathValidator.validate file = .error (.invalidPath message)) :
      Verdict context seen file ⟨file.path, .rejected, none, none, some message⟩
  | unsupported (valid : (context.pathValidator.validate file).isOk = true)
      (other : isSupported context.text file.path = false) :
      Verdict context seen file
        ⟨file.path, .unsupported, none, some file.mimeType, some "Unsupported file type."⟩
  | duplicate (checksum : String) (valid : (context.pathValidator.validate file).isOk = true)
      (supported : isSupported context.text file.path = true)
      (read : IngestionPipeline.sha256File context file = .ok checksum) (old : checksum ∈ seen) :
      Verdict context seen file
        ⟨file.path, .duplicate, some checksum, some file.mimeType, none⟩
  | imported (checksum : String) (valid : (context.pathValidator.validate file).isOk = true)
      (supported : isSupported context.text file.path = true)
      (read : IngestionPipeline.sha256File context file = .ok checksum) (new : checksum ∉ seen) :
      Verdict context seen file
        ⟨file.path, .imported, some checksum, some file.mimeType, none⟩

def IngestionStatistics.recorded : FileOutcome → IngestionStatistics → IngestionStatistics
  | .imported => recordImported
  | .duplicate => recordDuplicate
  | .unsupported => recordUnsupported
  | .rejected => recordError
  | .error => id

/-- An imported file registers its checksum. -/
def DuplicateDetector.filed (detector : DuplicateDetector) (file : FileResult) :
    DuplicateDetector :=
  match file.outcome, file.checksum with
  | .imported, some checksum => ⟨insert checksum detector.seen⟩
  | _, _ => detector

/-- The state after a file that came to this result. -/
def RunState.filed (state : RunState) (file : FileResult) : RunState :=
  { state with
    job := { state.job with
      filesFailed := state.job.filesFailed + if file.outcome = .rejected then 1 else 0 }
    statistics := state.statistics.recorded file.outcome
    result := state.result.add file
    detector := state.detector.filed file }

/-- The validation of the file's path answers, and a file that gets as far as being read is read. -/
structure Answered (validator : PathValidator) (text : TextMethods) (file : DiscoveredFile) :
    Prop where
  validated : (∃ message, validator.validate file = .error (.invalidPath message)) ∨
    ∃ resolved, validator.validate file = .ok resolved
  reads : (validator.validate file).isOk = true → isSupported text file.path = true →
    ∃ data, file.content = .ok data

section Files

variable {context : IngestionContext} {file : DiscoveredFile}

theorem reaches_identifyFile (valid : (context.pathValidator.validate file).isOk = true)
    (answered : Answered context.pathValidator context.text file) (state : RunState) :
    Reaches context.callback (IngestionPipeline.identifyFile context file) state (fun _ next =>
      ∃ result trace, Verdict context state.detector.seen file result ∧
        next = { state.filed result with trace := trace }) := by
  unfold IngestionPipeline.identifyFile
  cases supported : isSupported context.text file.path with
  | false =>
      rw [if_pos (by simp)]
      refine .step (call_record _ _) (.of_call (call_addResult _ _) ?_)
      exact ⟨_, _, .unsupported valid supported, rfl⟩
  | true =>
      obtain ⟨data, read⟩ := answered.reads valid supported
      have digest : IngestionPipeline.sha256File context file = .ok (context.sha256 data) := by
        rw [IngestionPipeline.sha256File, read, map_ok]
      rw [if_neg (by simp), digest]
      refine .step (call_check _ _) ?_
      by_cases old : context.sha256 data ∈ state.detector.seen
      · have found : call (onDetector (DuplicateDetector.checkAndRegister (context.sha256 data)))
            state = (.ok true, state) := by simp [old]
        refine .step found ?_
        rw [if_pos rfl]
        refine .step (call_record _ _) (.step (call_addResult _ _) (reaches_emit ?_))
        exact ⟨_, _, .duplicate _ valid supported digest old, rfl⟩
      · have registered :
            call (onDetector (DuplicateDetector.checkAndRegister (context.sha256 data))) state =
              (.ok false,
                { state with detector := ⟨insert (context.sha256 data) state.detector.seen⟩ }) := by
          simp [old]
        refine .step registered ?_
        rw [if_neg (by simp)]
        refine .step (call_record _ _) (.of_call (call_addResult _ _) ?_)
        exact ⟨_, _, .imported _ valid supported digest old, rfl⟩

theorem reaches_processFile (answered : Answered context.pathValidator context.text file)
    (state : RunState) :
    Reaches context.callback (IngestionPipeline.processFile context file) state (fun _ next =>
      ∃ result trace, Verdict context state.detector.seen file result ∧
        next = { state.filed result with trace := trace }) := by
  unfold IngestionPipeline.processFile
  rcases answered.validated with ⟨message, refused⟩ | ⟨resolved, valid⟩
  · rw [refused]
    refine .step (call_record _ _) (.step (call_onJob _ _) (.step (call_addResult _ _)
      (reaches_emit ?_)))
    exact ⟨_, _, .rejected message refused, rfl⟩
  · rw [valid]
    refine reaches_emit_bind ((growing context).identifyFile file) ?_
    exact reaches_identifyFile (by rw [valid]; rfl) answered _

end Files

/-- The checksums of the imported files. -/
def IngestionResult.importedChecksums (result : IngestionResult) : List (Option String) :=
  (result.files.filter (fun file => file.outcome = .imported)).map FileResult.checksum

/-- The file passes validation, is supported, and an earlier result is an import of its
checksum. -/
def IsDuplicate (context : IngestionContext) (earlier : List FileResult) (file : DiscoveredFile) :
    Prop :=
  (context.pathValidator.validate file).isOk = true ∧ isSupported context.text file.path = true ∧
    ∃ checksum, IngestionPipeline.sha256File context file = .ok checksum ∧
      ∃ first ∈ earlier, first.outcome = .imported ∧ first.checksum = some checksum

/-- What the results, the counters and the detector say of the files done. -/
structure Accounts (context : IngestionContext) (done : List DiscoveredFile) (state : RunState) :
    Prop where
  inOrder : state.result.files.map FileResult.path = done.map DiscoveredFile.path
  imported : state.statistics.imported = state.result.count .imported
  duplicates : state.statistics.duplicates = state.result.count .duplicate
  unsupported : state.statistics.unsupported = state.result.count .unsupported
  errors : state.statistics.errors = state.result.count .rejected
  total : state.statistics.imported + state.statistics.duplicates + state.statistics.unsupported +
    state.statistics.errors = done.length
  failed : state.job.filesFailed = state.result.count .rejected
  seen : ∀ checksum, checksum ∈ state.detector.seen ↔
    ∃ first ∈ state.result.files, first.outcome = .imported ∧ first.checksum = some checksum
  distinct : state.result.importedChecksums.Nodup
  duplicate_iff : ∀ n file result, done[n]? = some file → state.result.files[n]? = some result →
    (result.outcome = .duplicate ↔ IsDuplicate context (state.result.files.take n) file)

section Accounts

variable {context : IngestionContext} {file : DiscoveredFile} {result : FileResult}
variable {seen : Finset String}

theorem Verdict.path_eq (verdict : Verdict context seen file result) : result.path = file.path := by
  cases verdict <;> rfl

theorem Verdict.duplicate_iff (verdict : Verdict context seen file result) :
    result.outcome = .duplicate ↔
      (context.pathValidator.validate file).isOk = true ∧
        isSupported context.text file.path = true ∧
        ∃ checksum, IngestionPipeline.sha256File context file = .ok checksum ∧ checksum ∈ seen := by
  cases verdict with
  | rejected message refused =>
      rw [refused]
      exact ⟨nofun, nofun⟩
  | unsupported valid other =>
      rw [other]
      exact ⟨nofun, nofun⟩
  | duplicate checksum valid supported read old =>
      exact ⟨fun _ => ⟨valid, supported, checksum, read, old⟩, fun _ => rfl⟩
  | imported checksum valid supported read new =>
      refine ⟨nofun, ?_⟩
      rintro ⟨_, _, other, again, old⟩
      rw [read] at again
      cases again
      exact absurd old new

theorem count_add (whole : IngestionResult) (outcome : FileOutcome) :
    (whole.add result).count outcome =
      whole.count outcome + if result.outcome = outcome then 1 else 0 := by
  simp [IngestionResult.count, IngestionResult.add]

/-- The detector gets what an imported file registers. -/
theorem Verdict.mem_seen_iff {detector : DuplicateDetector}
    (verdict : Verdict context detector.seen file result) (checksum : String) :
    checksum ∈ (detector.filed result).seen ↔
      checksum ∈ detector.seen ∨ result.outcome = .imported ∧ result.checksum = some checksum := by
  cases verdict with
  | imported own valid supported read new =>
      simp [DuplicateDetector.filed, or_comm, eq_comm]
  | _ => simp [DuplicateDetector.filed]

theorem Verdict.new_of_imported (verdict : Verdict context seen file result)
    (imported : result.outcome = .imported) :
    ∃ checksum, result.checksum = some checksum ∧ checksum ∉ seen := by
  cases verdict with
  | imported checksum valid supported read new => exact ⟨checksum, rfl, new⟩
  | _ => cases imported

theorem importedChecksums_add (whole : IngestionResult) :
    (whole.add result).importedChecksums =
      whole.importedChecksums ++ if result.outcome = .imported then [result.checksum] else [] := by
  by_cases imported : result.outcome = .imported <;>
    simp [IngestionResult.importedChecksums, IngestionResult.add, imported]

theorem mem_importedChecksums (whole : IngestionResult) (checksum : Option String) :
    checksum ∈ whole.importedChecksums ↔
      ∃ first ∈ whole.files, first.outcome = .imported ∧ first.checksum = checksum := by
  simp [IngestionResult.importedChecksums, and_assoc]

theorem accounts_nil (job : IngestionJob) (unfailed : job.filesFailed = 0) :
    Accounts context [] (.create job) where
  inOrder := rfl
  imported := rfl
  duplicates := rfl
  unsupported := rfl
  errors := rfl
  total := rfl
  failed := unfailed
  seen := by simp [RunState.create, DuplicateDetector.create]
  distinct := by simp [RunState.create, IngestionResult.importedChecksums]
  duplicate_iff := by simp

section Filed

variable {done : List DiscoveredFile} {state : RunState}

theorem Accounts.length_eq (accounts : Accounts context done state) :
    state.result.files.length = done.length := by
  simpa using congrArg List.length accounts.inOrder

theorem Accounts.seen_filed (accounts : Accounts context done state)
    (verdict : Verdict context state.detector.seen file result) (checksum : String) :
    checksum ∈ (state.detector.filed result).seen ↔
      ∃ first ∈ (state.result.add result).files,
        first.outcome = .imported ∧ first.checksum = some checksum := by
  rw [verdict.mem_seen_iff, accounts.seen]
  simp [IngestionResult.add, or_and_right, exists_or]

theorem Accounts.distinct_filed (accounts : Accounts context done state)
    (verdict : Verdict context state.detector.seen file result) :
    (state.result.add result).importedChecksums.Nodup := by
  rw [importedChecksums_add]
  split
  · rename_i imported
    obtain ⟨checksum, own, new⟩ := verdict.new_of_imported imported
    have apart : some checksum ∉ state.result.importedChecksums := by
      rw [mem_importedChecksums, ← accounts.seen]
      exact new
    rw [own]
    refine List.nodup_append.mpr ⟨accounts.distinct, List.nodup_singleton _, ?_⟩
    intro first inside last own_last same
    rw [List.mem_singleton.mp own_last] at same
    exact apart (same ▸ inside)
  · simpa using accounts.distinct

theorem Accounts.isDuplicate_filed (accounts : Accounts context done state)
    (verdict : Verdict context state.detector.seen file result) :
    result.outcome = .duplicate ↔ IsDuplicate context state.result.files file := by
  rw [verdict.duplicate_iff]
  simp only [accounts.seen, IsDuplicate]

theorem Accounts.duplicate_iff_filed (accounts : Accounts context done state)
    (verdict : Verdict context state.detector.seen file result) (n : Nat)
    (at_file : DiscoveredFile) (at_result : FileResult)
    (file_at : (done ++ [file])[n]? = some at_file)
    (result_at : (state.result.add result).files[n]? = some at_result) :
    at_result.outcome = .duplicate ↔
      IsDuplicate context ((state.result.add result).files.take n) at_file := by
  simp only [IngestionResult.add] at result_at ⊢
  have length := accounts.length_eq
  rcases Nat.lt_or_ge n done.length with early | late
  · rw [List.getElem?_append_left early] at file_at
    rw [List.getElem?_append_left (by omega)] at result_at
    rw [List.take_append_of_le_length (by omega)]
    exact accounts.duplicate_iff n at_file at_result file_at result_at
  · rw [List.getElem?_append_right late] at file_at
    rw [List.getElem?_append_right (by omega)] at result_at
    have last : n = done.length := by
      have inside := (List.getElem?_eq_some_iff.mp file_at).1
      rw [List.length_singleton] at inside
      omega
    subst last
    rw [Nat.sub_self, List.getElem?_cons_zero] at file_at
    rw [length, Nat.sub_self, List.getElem?_cons_zero] at result_at
    cases file_at
    cases result_at
    rw [← length, List.take_left]
    exact accounts.isDuplicate_filed verdict

/-- The accounts hold with the next file. -/
theorem Accounts.filed (accounts : Accounts context done state)
    (verdict : Verdict context state.detector.seen file result) (trace : List IngestionEvent) :
    Accounts context (done ++ [file]) { state.filed result with trace := trace } where
  inOrder := by
    simp [RunState.filed, IngestionResult.add, accounts.inOrder, verdict.path_eq]
  imported := by
    simp only [RunState.filed, count_add, ← accounts.imported]
    cases verdict <;> rfl
  duplicates := by
    simp only [RunState.filed, count_add, ← accounts.duplicates]
    cases verdict <;> rfl
  unsupported := by
    simp only [RunState.filed, count_add, ← accounts.unsupported]
    cases verdict <;> rfl
  errors := by
    simp only [RunState.filed, count_add, ← accounts.errors]
    cases verdict <;> rfl
  total := by
    rw [List.length_append, ← accounts.total]
    cases verdict <;>
      simp only [RunState.filed, IngestionStatistics.recorded, IngestionStatistics.recordError,
        IngestionStatistics.recordUnsupported, IngestionStatistics.recordDuplicate,
        IngestionStatistics.recordImported, List.length_singleton] <;>
      omega
  failed := by simp only [RunState.filed, count_add, accounts.failed]
  seen := accounts.seen_filed verdict
  distinct := accounts.distinct_filed verdict
  duplicate_iff := accounts.duplicate_iff_filed verdict

end Filed

end Accounts

section Loop

variable {context : IngestionContext}

/-- Where a run stands with these files done, its job in this phase. -/
structure Stands (context : IngestionContext) (done : List DiscoveredFile) (phase : JobState)
    (state : RunState) : Prop where
  accounts : Accounts context done state
  processed : state.job.filesProcessed = done.length
  standing : state.job.state = phase

theorem reaches_advance (total index : Nat) {state : RunState} {done : List DiscoveredFile}
    {file : DiscoveredFile} (accounts : Accounts context (done ++ [file]) state)
    (processed : state.job.filesProcessed = done.length)
    (importing : state.job.state = .importing) :
    Reaches context.callback (IngestionPipeline.advance context total index) state
      (fun _ next => Stands context (done ++ [file]) .importing next) := by
  refine .step (call_onJob _ _) (.step (call_onJob _ _) (.step rfl (reaches_emit ?_)))
  exact
    { accounts := { accounts with }
      processed := by simp [processed]
      standing := importing }

theorem reaches_processFiles (total index : Nat) {files done : List DiscoveredFile}
    (answered : ∀ file ∈ files, Answered context.pathValidator context.text file) {state : RunState}
    (stands : Stands context done .importing state) :
    Reaches context.callback (IngestionPipeline.processFiles context total index files) state
      (fun _ next => Stands context (done ++ files) .importing next) := by
  induction files generalizing index done state with
  | nil =>
      refine .of_call rfl ?_
      rwa [List.append_nil]
  | cons file rest ih =>
      have active : ¬ state.job.state = .cancelled := by
        rw [stands.standing]
        nofun
      refine .step rfl ?_
      rw [if_neg active]
      have grows := (growing context).processFiles total (index + 1) rest
      refine .bind (reaches_processFile (answered file List.mem_cons_self) state)
        (fun _ => (growing context).bind ((growing context).advance total index) (fun _ => grows)) ?_
      rintro _ _ ⟨result, trace, verdict, rfl⟩
      have filed := stands.accounts.filed verdict trace
      refine .bind (reaches_advance total index filed stands.processed stands.standing)
        (fun _ => grows) ?_
      intro _ next advanced
      have loop := ih (index + 1)
        (fun other inside => answered other (List.mem_cons_of_mem file inside)) advanced
      rwa [List.append_assoc, List.singleton_append] at loop

theorem reaches_discoverFiles (files : List DiscoveredFile) (state : RunState) :
    Reaches context.callback (IngestionPipeline.discoverFiles context files) state
      (fun _ next => ∃ trace, next = { state with trace := trace }) := by
  induction files generalizing state with
  | nil => exact .of_call rfl ⟨_, rfl⟩
  | cons file rest ih =>
      exact .step rfl (reaches_emit_bind ((growing context).discoverFiles rest) (ih _))

end Loop

/-- What a run of the pipeline answers and leaves, for the files discovered. -/
structure Accounted (context : IngestionContext) (files : List DiscoveredFile)
    (outcome : Except PyExc IngestionResult × RunState) : Prop where
  returned : outcome.1 = .ok outcome.2.result
  accounts : Accounts context files outcome.2
  processed : outcome.2.job.filesProcessed = files.length
  completed : outcome.2.job.state = .completed

section Process

variable {context : IngestionContext}

theorem reaches_complete (jobId : String) {done : List DiscoveredFile} {state : RunState}
    (stands : Stands context done .importing state) :
    Reaches context.callback (IngestionPipeline.complete context jobId) state
      (fun value next => Accounted context done (.ok value, next)) := by
  have settled : call (IngestionJob.settle .completed) state.job =
      (.ok (), { state.job with state := .completed }) := by
    simp [IngestionJob.settle, IngestionJob.isTerminal, stands.standing,
      IngestionJob.transitionTo, canTransition, transitions]
  refine .step ((call_onJob _ _).trans (by rw [settled])) ?_
  refine reaches_emit_bind ((growing context).get_bind (fun _ => (growing context).pure _)) ?_
  refine .step rfl (.of_call rfl ?_)
  exact ⟨rfl, { stands.accounts with }, stands.processed, rfl⟩

theorem Stands.transition {done : List DiscoveredFile} {phase : JobState} {state : RunState}
    (stands : Stands context done phase state) (target : JobState)
    (allowed : canTransition phase target = true) :
    ∃ next, call (onJob (IngestionJob.transitionTo target)) state = (.ok (), next) ∧
      Stands context done target next := by
  refine ⟨_, (call_onJob _ _).trans (by
    rw [IngestionJob.call_transitionTo target state.job (stands.standing ▸ allowed)]), ?_⟩
  exact ⟨{ stands.accounts with }, stands.processed, rfl⟩

theorem reaches_importDiscovered (jobId : String) {files : List DiscoveredFile}
    (answered : ∀ file ∈ files, Answered context.pathValidator context.text file) {state : RunState}
    (stands : Stands context [] .discovering state) :
    Reaches context.callback (IngestionPipeline.importDiscovered context jobId files) state
      (fun value next => Accounted context files (.ok value, next)) := by
  have counted : Stands context [] .discovering
      { state with statistics := { state.statistics with totalFiles := files.length } } :=
    ⟨{ stands.accounts with }, stands.processed, stands.standing⟩
  obtain ⟨validating, first, second⟩ := counted.transition .validating rfl
  obtain ⟨importing, third, fourth⟩ := second.transition .importing rfl
  refine .step (call_record _ _) (.step first (.step third ?_))
  refine .bind (reaches_processFiles files.length 1 answered fourth)
    (fun _ => grows_complete jobId) ?_
  intro _ next processed
  rw [List.nil_append] at processed
  exact reaches_complete jobId processed

/-- Where the source ends by itself, the files discovered are its files. -/
theorem reaches_discover {state : RunState}
    (finite : (context.source.discover context.location context.recursive).raised = none) :
    Reaches context.callback (IngestionPipeline.discover context) state (fun value next =>
      value = (context.source.discover context.location context.recursive).files ∧
        ∃ trace, next = { state with trace := trace }) := by
  simp only [IngestionPipeline.discover, finite]
  refine .bind (reaches_discoverFiles _ state) (fun _ => (growing context).pure _) ?_
  rintro _ _ ⟨trace, rfl⟩
  exact .of_call rfl ⟨rfl, trace, rfl⟩

/-- From a fresh job on, where no file stops the run. -/
theorem reaches_process {job : IngestionJob} (created : job.state = .created)
    (unprocessed : job.filesProcessed = 0) (unfailed : job.filesFailed = 0)
    (finite : (context.source.discover context.location context.recursive).raised = none)
    (answered : ∀ file ∈ (context.source.discover context.location context.recursive).files,
      Answered context.pathValidator context.text file) :
    Reaches context.callback (IngestionPipeline.process context) (.create job)
      (fun value next => Accounted context
        (context.source.discover context.location context.recursive).files (.ok value, next)) := by
  have start : Stands context [] .created
      { RunState.create job with
        trace := [.importStarted job.jobId context.source.name] } :=
    ⟨{ accounts_nil job unfailed with }, unprocessed, created⟩
  obtain ⟨discovering, moved, stands⟩ := start.transition .discovering rfl
  refine .step rfl (reaches_emit_bind ((growing context).bind
    (grows_onJob _) (fun _ => (growing context).bind
      (growing context).discover (fun _ => grows_importDiscovered _ _)))
    (.step moved ?_))
  refine .bind (reaches_discover finite) (fun _ => grows_importDiscovered _ _) ?_
  rintro _ _ ⟨rfl, trace, rfl⟩
  exact reaches_importDiscovered _ answered
    ⟨{ stands.accounts with }, stands.processed, stands.standing⟩

end Process

section Returning

variable {context : IngestionContext}

/-- A file that does not stop the run has been answered. -/
theorem answered_of_processFile {file : DiscoveredFile} {state next : RunState}
    (returned : call (IngestionPipeline.processFile context file) state = (.ok (), next)) :
    Answered context.pathValidator context.text file := by
  unfold IngestionPipeline.processFile at returned
  split at returned
  · rename_i message refused
    refine ⟨.inl ⟨message, refused⟩, fun valid => ?_⟩
    rw [refused] at valid
    cases valid
  · cases returned
  · rename_i resolved valid
    refine ⟨.inr ⟨resolved, valid⟩, fun _ supported => ?_⟩
    obtain ⟨_, emitted, _, identified⟩ := returned_of_call_bind returned
    rw [IngestionPipeline.identifyFile, if_neg (by simp [supported])] at identified
    obtain ⟨checksum, _, checked, _⟩ := returned_of_call_bind identified
    rw [call_check] at checked
    have digest : IngestionPipeline.sha256File context file = .ok checksum :=
      congrArg Prod.fst checked
    cases read : file.content with
    | ok data => exact ⟨data, rfl⟩
    | error exc =>
        rw [IngestionPipeline.sha256File, read] at digest
        cases digest

/-- A loop that ends uncancelled has gone through its files. -/
theorem answered_of_processFiles {total index : Nat} {files : List DiscoveredFile}
    {state next : RunState}
    (returned : call (IngestionPipeline.processFiles context total index files) state =
      (.ok (), next)) (active : next.job.state ≠ .cancelled) :
    ∀ file ∈ files, Answered context.pathValidator context.text file := by
  induction files generalizing index state with
  | nil => exact fun _ inside => absurd inside List.not_mem_nil
  | cons file rest ih =>
      rw [IngestionPipeline.processFiles, call_bind, call_get, andThen_ok] at returned
      by_cases cancelled : state.job.state = .cancelled
      · rw [if_pos cancelled] at returned
        cases returned
        exact absurd cancelled active
      · rw [if_neg cancelled] at returned
        obtain ⟨_, filed, processed, later⟩ := returned_of_call_bind returned
        obtain ⟨_, advanced, _, following⟩ := returned_of_call_bind later
        exact List.forall_mem_cons.mpr ⟨answered_of_processFile processed, ih following⟩

/-- A run that ends completed was not cancelled in its loop. -/
theorem active_of_complete {jobId : String} {state next : RunState} {result : IngestionResult}
    (returned : call (IngestionPipeline.complete context jobId) state = (.ok result, next))
    (completed : next.job.state = .completed) : state.job.state ≠ .cancelled := by
  intro cancelled
  have terminal : state.job.isTerminal = true :=
    (IngestionJob.isTerminal_iff _).mpr (.inr (.inl cancelled))
  have settled : call (onJob (IngestionJob.settle .completed)) state = (.ok (), state) := by
    rw [call_onJob]
    simp [IngestionJob.settle, terminal]
  rw [IngestionPipeline.complete, call_bind, settled, andThen_ok] at returned
  obtain ⟨_, emitted, sent, last⟩ := returned_of_call_bind returned
  rw [IngestionPipeline.call_emit] at sent
  cases last
  have kept : next.job = state.job := by
    rw [← congrArg RunState.job (congrArg Prod.snd sent)]
    simp [Reaction.leaves, terminal]
  rw [kept, cancelled] at completed
  cases completed

theorem answered_of_process
    (finite : (context.source.discover context.location context.recursive).raised = none)
    {state next : RunState} {result : IngestionResult}
    (returned : call (IngestionPipeline.process context) state = (.ok result, next))
    (completed : next.job.state = .completed) :
    ∀ file ∈ (context.source.discover context.location context.recursive).files,
      Answered context.pathValidator context.text file := by
  obtain ⟨_, _, _, afterStart⟩ := returned_of_call_bind returned
  obtain ⟨_, _, _, afterEmit⟩ := returned_of_call_bind afterStart
  obtain ⟨_, _, _, afterMove⟩ := returned_of_call_bind afterEmit
  obtain ⟨discovered, _, discovers, imports⟩ := returned_of_call_bind afterMove
  have found :
      discovered = (context.source.discover context.location context.recursive).files := by
    simp only [IngestionPipeline.discover, finite] at discovers
    obtain ⟨_, _, _, last⟩ := returned_of_call_bind discovers
    cases last
    rfl
  subst found
  obtain ⟨_, _, _, afterTotal⟩ := returned_of_call_bind imports
  obtain ⟨_, _, _, afterValidating⟩ := returned_of_call_bind afterTotal
  obtain ⟨_, _, _, afterImporting⟩ := returned_of_call_bind afterValidating
  obtain ⟨_, _, loop, ending⟩ := returned_of_call_bind afterImporting
  exact answered_of_processFiles loop (active_of_complete ending completed)

end Returning

/-- The accounts of an ingestion balance, for every list of files a source yields, whatever the
host says of their paths and contents, and whatever the callbacks look at: exactly where no
validation raises anything but an invalid path, and what is read for its checksum can be read. -/
theorem ingestion_accounted_iff (context : IngestionContext) (job : IngestionJob)
    (created : job.state = .created) (unprocessed : job.filesProcessed = 0)
    (unfailed : job.filesFailed = 0)
    (finite : (context.source.discover context.location context.recursive).raised = none)
    (quiet : Quiet context.callback
      (call (IngestionPipeline.process context) (.create job)).2.trace) :
    Accounted context (context.source.discover context.location context.recursive).files
        (call (IngestionPipeline.process context) (.create job)) ↔
      ∀ file ∈ (context.source.discover context.location context.recursive).files,
        Answered context.pathValidator context.text file := by
  constructor
  · intro accounted
    exact answered_of_process finite (Prod.ext accounted.returned rfl) accounted.completed
  · intro answered
    obtain ⟨value, next, returned, accounted⟩ :=
      reaches_process created unprocessed unfailed finite answered quiet
    rwa [returned]

/-- A folder of two equal texts, an archive and a file that is gone by its turn. -/
def docsFolder : IngestionSource where
  name := "filesystem"
  discover := fun _ _ =>
    ⟨[⟨"/docs/a.txt", "text/plain", .ok ["docs".toList, "a.txt".toList], .ok true,
        .ok "alpha".toUTF8.toList⟩,
      ⟨"/docs/b.txt", "text/plain", .ok ["docs".toList, "b.txt".toList], .ok true,
        .ok "alpha".toUTF8.toList⟩,
      ⟨"/docs/c.zip", "application/zip", .ok ["docs".toList, "c.zip".toList], .ok true, .ok []⟩,
      ⟨"/docs/d.txt", "text/plain", .ok ["docs".toList, "d.txt".toList], .ok false,
        .error (.osError .notFound "/docs/d.txt")⟩],
      none⟩

def docsContext : IngestionContext where
  source := docsFolder
  location := "/docs"
  recursive := true
  text := asciiText
  sha256 := fun _ => "8ed3f6ad685b959ead7022518e1af76cd816f8e8ec7ccdda1ed4018e8f2223f8"
  pathValidator := ⟨none⟩
  callback := fun _ _ => ⟨false, none⟩

theorem docs_accounted :
    Accounted docsContext (docsFolder.discover "/docs" true).files
      (call (IngestionPipeline.process docsContext) (.create (.create "ws1" "/docs" "job1"))) ∧
    (call (IngestionPipeline.process docsContext)
      (.create (.create "ws1" "/docs" "job1"))).2.result.files.map FileResult.outcome =
        [.imported, .duplicate, .unsupported, .rejected] := by
  refine ⟨(ingestion_accounted_iff docsContext (.create "ws1" "/docs" "job1") rfl rfl rfl rfl
    (fun _ _ _ _ => rfl)).mpr ?_, by decide +kernel⟩
  have inside : ∀ file ∈ (docsFolder.discover "/docs" true).files,
      Answered docsContext.pathValidator docsContext.text file := by
    refine List.forall_mem_cons.mpr ⟨?_, List.forall_mem_cons.mpr ⟨?_,
      List.forall_mem_cons.mpr ⟨?_, List.forall_mem_singleton.mpr ?_⟩⟩⟩
    · exact ⟨.inr ⟨_, rfl⟩, fun _ _ => ⟨_, rfl⟩⟩
    · exact ⟨.inr ⟨_, rfl⟩, fun _ _ => ⟨_, rfl⟩⟩
    · exact ⟨.inr ⟨_, rfl⟩, fun _ _ => ⟨_, rfl⟩⟩
    · exact ⟨.inl ⟨_, rfl⟩, fun valid => absurd valid (by decide)⟩
  exact inside

/-- A path with a NUL character comes first, which the host refuses to resolve; the file after it
is never looked at. -/
def nulFolder : IngestionSource where
  name := "listed"
  discover := fun _ _ =>
    ⟨[⟨String.ofList ['/', 'd', Char.ofNat 0], "text/plain",
        .error (.valueError "embedded null byte"), .ok false,
        .error (.valueError "embedded null byte")⟩,
      ⟨"/docs/a.txt", "text/plain", .ok ["docs".toList, "a.txt".toList], .ok true,
        .ok "alpha".toUTF8.toList⟩],
      none⟩

theorem nul_path_unaccounted :
    let context := { docsContext with source := nulFolder }
    let outcome := call (IngestionPipeline.process context) (.create (.create "ws1" "/docs" "job1"))
    (∃ state, outcome = (.error (.valueError "embedded null byte"), state) ∧
        state.result.files = []) ∧
      ¬ Accounted context (nulFolder.discover "/docs" true).files outcome := by
  intro context outcome
  have raised : outcome.1 = .error (.valueError "embedded null byte") ∧
      outcome.2.result.files = [] := by decide +kernel
  refine ⟨⟨outcome.2, Prod.ext raised.1 rfl, raised.2⟩, fun accounted => ?_⟩
  have both := raised.1.symm.trans accounted.returned
  cases both

end LexMind.Ingestion
