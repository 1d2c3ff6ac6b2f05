import LexMind.Pipeline.RunMonitor

set_option autoImplicit false

namespace LexMind.Pipelines

open Lib

variable {F ω ν α : Type}

/-- Between the two only the context has changed. -/
structure Beside (first last : Execution (Journaled F ω ν) ν) : Prop where
  results : last.results = first.results
  store : last.store = first.store

theorem Beside.after {first middle last : Execution (Journaled F ω ν) ν}
    (later : Beside middle last) (earlier : Beside first middle) : Beside first last :=
  ⟨later.results.trans earlier.results, later.store.trans earlier.store⟩

/-- The run stands where the execution does, with these results, checkpoint and store. -/
structure Amid (run : RunState ω ν) (execution : Execution (Journaled F ω ν) ν)
    (results : List StageResult) (checkpoint : Checkpoint ν) (store : CheckpointStore ν) :
    Prop where
  token : run.cancelled = execution.context.cancelled
  collected : run.results = results
  listed : execution.results = results
  reached : run.checkpoint = checkpoint
  kept : run.store = store
  stored : execution.store = store

section Rules

variable {plan : Plan F ω ν} {run : RunState ω ν} {execution : Execution (Journaled F ω ν) ν}
  {results : List StageResult} {checkpoint : Checkpoint ν} {store : CheckpointStore ν}

theorem follows_hook {note : Except PyExc α → HookCall F} {program : Py (PipelineContext ω ν) α}
    {post : Except PyExc α → Execution (Journaled F ω ν) ν → RunState ω ν → Prop}
    (keeps : KeepsToken program) (token : run.cancelled = execution.context.cancelled)
    (each : ∀ answer middle, (call program execution.context.forget).1 = answer →
      Beside execution middle →
      ∃ next, plan.advance run middle.context.shared (note answer) = some next ∧
        post answer middle { next with cancelled := middle.context.cancelled }) :
    plan.monitor.Follows (hook (recorded note program)) execution run post := by
  let ended := call program execution.context.forget
  let record : HookRecord F ν :=
    ⟨note ended.1, execution.context.cancelled, ended.2.cancelled, ended.2.shared⟩
  let middle : Execution (Journaled F ω ν) ν :=
    { execution with context := ended.2.noted (execution.context.world.journal ++ [record]) }
  obtain ⟨next, moves, holds⟩ := each ended.1 middle rfl ⟨rfl, rfl⟩
  have called : call (hook (recorded note program)) execution = (ended.1, middle) := by
    rw [hook, call_onPart, call_recorded]
  have added : plan.monitor.journal middle = plan.monitor.journal execution ++ [record] := rfl
  refine .record called added ?_ holds
  show plan.read run record = _
  have kept : record.found = run.cancelled ∧ (record.found = true → record.left = true) :=
    ⟨token.symm, keeps execution.context.forget⟩
  rw [Plan.read, if_pos kept]
  show Option.map _ (plan.advance run middle.context.shared (note ended.1)) = _
  rw [moves]
  rfl

theorem follows_emit {surroundings : Surroundings F ω ν} {event : PipelineEvent}
    {post : Except PyExc Unit → Execution (Journaled F ω ν) ν → RunState ω ν → Prop}
    (token : run.cancelled = execution.context.cancelled)
    (each : ∀ middle, Beside execution middle →
      ∃ next, plan.advance run middle.context.shared (.emitted event) = some next ∧
        post (.ok ()) middle { next with cancelled := middle.context.cancelled }) :
    plan.monitor.Follows (hook (surroundings.emitFn event)) execution run post := by
  have keeps : KeepsToken (modify (surroundings.emit event) : Py (PipelineContext ω ν) Unit) :=
    fun context => surroundings.emit_keeps event context
  exact follows_hook keeps token (fun _ middle answered beside => answered ▸ each middle beside)

theorem follows_sleep {surroundings : Surroundings F ω ν} {seconds : F}
    {post : Except PyExc Unit → Execution (Journaled F ω ν) ν → RunState ω ν → Prop}
    (token : run.cancelled = execution.context.cancelled)
    (each : ∀ middle, Beside execution middle →
      ∃ next, plan.advance run middle.context.shared (.slept seconds) = some next ∧
        post (.ok ()) middle { next with cancelled := middle.context.cancelled }) :
    plan.monitor.Follows (hook (surroundings.timing.sleep seconds)) execution run post := by
  have keeps : KeepsToken (modify (surroundings.sleep seconds) : Py (PipelineContext ω ν) Unit) :=
    fun context => surroundings.sleep_keeps seconds context
  have follows : plan.monitor.Follows (hook (recorded (fun _ => .slept seconds)
      (modify (surroundings.sleep seconds)))) execution run post :=
    follows_hook keeps token (fun _ middle answered beside => answered ▸ each middle beside)
  exact follows

/-- A step that no hook takes part in. -/
theorem follows_silent {program : ExecutionPy (Journaled F ω ν) ν α} {value : α}
    {next : Execution (Journaled F ω ν) ν}
    {post : Except PyExc α → Execution (Journaled F ω ν) ν → RunState ω ν → Prop}
    (called : call program execution = (.ok value, next))
    (journal : next.context.world = execution.context.world) (holds : post (.ok value) next run) :
    plan.monitor.Follows program execution run post :=
  .silent called (congrArg Journaled.journal journal) holds

theorem Amid.hook (amid : Amid run execution results checkpoint store)
    {middle : Execution (Journaled F ω ν) ν} (beside : Beside execution middle)
    (control : Control ω ν) :
    Amid { run.goto control with cancelled := middle.context.cancelled } middle results checkpoint
      store :=
  ⟨rfl, amid.collected, beside.results.trans amid.listed, amid.reached, amid.kept,
    beside.store.trans amid.stored⟩

/-- A change of the statistics, or an observation. -/
theorem Amid.silent (amid : Amid run execution results checkpoint store)
    {next : Execution (Journaled F ω ν) ν}
    (same : next.context.cancelled = execution.context.cancelled)
    (beside : Beside execution next) : Amid run next results checkpoint store :=
  ⟨amid.token.trans same.symm, amid.collected, beside.results.trans amid.listed, amid.reached,
    amid.kept, beside.store.trans amid.stored⟩

end Rules

section Attempts

variable (surroundings : Surroundings F ω ν)

def Surroundings.plan (stages : List (PipelineStage ω ν)) (completed : List StageId) :
    Plan F ω ν where
  stages := stages
  completed := completed
  floats := surroundings.floats
  backoff := surroundings.backoff

/-- What an `execute` call in these surroundings is given. -/
def Surroundings.planOf (pipeline : Pipeline ω ν) (resume : Bool) (context : PipelineContext ω ν)
    (store : CheckpointStore ν) : Plan F ω ν :=
  surroundings.plan pipeline.stages (startCheckpoint context store resume).completedStages

/-- How the attempts at a stage end. -/
structure AttemptsEnd (stage : PipelineStage ω ν) (todo : List (PipelineStage ω ν))
    (results : List StageResult) (checkpoint : Checkpoint ν) (store : CheckpointStore ν)
    (answer : Except PyExc StageResult) (execution : Execution (Journaled F ω ν) ν)
    (last : RunState ω ν) : Prop where
  token : last.cancelled = execution.context.cancelled
  listed : execution.results = results
  stored : execution.store = store
  outcome : match answer with
    | .ok result =>
        last.results = results ++ [result] ∧
          if result.success then
            last.control = .saved stage todo ∧
              last.checkpoint = checkpoint.withStage stage.id execution.context.shared ∧
              last.store = store.save (checkpoint.withStage stage.id execution.context.shared)
          else last.control = .rollingBack stage ∧ last.store = store
    | .error exc =>
        exc = .overflowError "(34, 'Numerical result out of range')" ∧
          last.control = .ended .raised ∧ last.results = results ∧ last.store = store

variable {surroundings} {stages : List (PipelineStage ω ν)} {completed : List StageId}
  {run : RunState ω ν} {execution : Execution (Journaled F ω ν) ν}
  {results : List StageResult} {checkpoint : Checkpoint ν} {store : CheckpointStore ν}
  {stage : PipelineStage ω ν} {todo : List (PipelineStage ω ν)} {attempt : Nat}

/-- The pause before an attempt that is to be made. -/
theorem follows_pause (amid : Amid run execution results checkpoint store)
    (there : run.control = (surroundings.plan stages completed).retrying stage attempt todo)
    {next : ExecutionPy (Journaled F ω ν) ν StageResult}
    (later : ∀ last middle, Amid last middle results checkpoint store →
      last.control = .starting stage attempt todo →
      (surroundings.plan stages completed).monitor.Follows next middle last
        (AttemptsEnd stage todo results checkpoint store)) :
    (surroundings.plan stages completed).monitor.Follows
      (hook (surroundings.timing.pause (stage.journaled F) attempt) >>= fun _ => next) execution run
      (AttemptsEnd stage todo results checkpoint store) := by
  have same : surroundings.timing.delayFor (stage.journaled F) attempt =
      (surroundings.plan stages completed).delayFor stage attempt := rfl
  rw [Timing.pause, same]
  rw [Plan.retrying] at there
  cases delay : (surroundings.plan stages completed).delayFor stage attempt with
  | error exc =>
      rw [delay] at there
      exact .silent rfl rfl ⟨amid.token, amid.listed, amid.stored, Backoff.delayFor_raised delay,
        there, amid.collected, amid.kept⟩
  | ok seconds =>
      rw [delay] at there
      dsimp only at there
      show Monitor.Follows _ (hook (if surroundings.floats.lt surroundings.floats.zero seconds = true
        then _ else _) >>= _) _ _ _
      by_cases positive : surroundings.floats.lt surroundings.floats.zero seconds = true
      · have waiting : run.control = .pausing stage attempt todo :=
          there.trans (if_pos positive)
        rw [if_pos positive]
        refine .bind (follows_sleep amid.token (fun middle beside => ?_))
        exact ⟨_, Plan.advance_slept waiting seconds, later _ middle (amid.hook beside _) rfl⟩
      · have ready : run.control = .starting stage attempt todo :=
          there.trans (if_neg positive)
        rw [if_neg positive]
        exact .bind (.silent rfl rfl (later run execution amid ready))

/-- What follows an attempt that has failed. -/
theorem follows_failAttempt (amid : Amid run execution results checkpoint store)
    {lastError : String} (there : run.control = .failing stage attempt lastError todo)
    {again : ExecutionPy (Journaled F ω ν) ν StageResult}
    (later : stage.retryPolicy.shouldRetry attempt = true → ∀ last middle,
      Amid last middle results checkpoint store →
      last.control = (surroundings.plan stages completed).retrying stage (attempt + 1) todo →
      (surroundings.plan stages completed).monitor.Follows again middle last
        (AttemptsEnd stage todo results checkpoint store)) :
    (surroundings.plan stages completed).monitor.Follows
      (failAttempt surroundings.emitFn (stage.journaled F) attempt lastError again) execution run
      (AttemptsEnd stage todo results checkpoint store) := by
  refine .bind (follows_silent rfl rfl ?_)
  refine .bind (follows_emit amid.token (fun middle beside => ?_))
  refine ⟨_, Plan.advance_stageFailed there, ?_⟩
  have left : Beside execution middle := beside.after ⟨rfl, rfl⟩
  rw [Plan.judged]
  by_cases retried : stage.retryPolicy.shouldRetry attempt = true
  · have again' : (stage.journaled F).retryPolicy.shouldRetry attempt = true := retried
    rw [if_pos retried, if_pos again']
    refine .bind (follows_silent rfl rfl ?_)
    refine later retried _ _ ((amid.hook left _).silent rfl ⟨rfl, rfl⟩) rfl
  · have final : ¬ (stage.journaled F).retryPolicy.shouldRetry attempt = true := retried
    rw [if_neg retried, if_neg final]
    refine .pure ⟨rfl, left.results.trans amid.listed, left.store.trans amid.stored, ?_, rfl,
      amid.kept⟩
    show run.results ++ _ = _
    rw [amid.collected]
    rfl

/-- The body of the `try` in one attempt. -/
theorem follows_attemptStage (keeps : KeepsToken stage.execute)
    (amid : Amid run execution results checkpoint store)
    (there : run.control = .executing stage attempt todo)
    {post : Except PyExc StageResult → Execution (Journaled F ω ν) ν → RunState ω ν → Prop}
    (failed : ∀ answer last middle, Amid last middle results checkpoint store →
      succeeded answer = false → last.control = Plan.tried stage attempt todo answer →
      post answer middle last)
    (passed : ∀ result last middle, result.success = true →
      last.cancelled = middle.context.cancelled → last.control = .saved stage todo →
      last.results = results ++ [{ result with attempts := attempt }] → middle.results = results →
      last.checkpoint = checkpoint.withStage stage.id middle.context.shared →
      last.store = store.save (checkpoint.withStage stage.id middle.context.shared) →
      middle.store = store → post (.ok result) middle last) :
    (surroundings.plan stages completed).monitor.Follows
      (attemptStage surroundings.emitFn (stage.journaled F)) execution run post := by
  refine .bind (follows_silent rfl rfl ?_)
  refine .bind (follows_hook keeps amid.token (fun answer middle _ beside => ?_))
  refine ⟨_, Plan.advance_executed there answer, ?_⟩
  have left : Beside execution middle := beside.after ⟨rfl, rfl⟩
  have reached := amid.hook left (Plan.tried stage attempt todo answer)
  cases answer with
  | error exc => exact failed _ _ middle reached rfl rfl
  | ok result =>
      dsimp only
      by_cases success : result.success = true
      · rw [if_pos success]
        have announced : Plan.tried stage attempt todo (.ok result) =
            .completing stage attempt result todo := if_pos success
        rw [announced] at reached ⊢
        refine .bind (follows_emit reached.token (fun last beside' => ?_))
        refine ⟨_, Plan.advance_stageCompleted rfl, .pure (passed result _ last success rfl rfl ?_ ?_
          ?_ ?_ ?_)⟩
        · exact congrArg (· ++ _) reached.collected
        · exact beside'.results.trans reached.listed
        · exact congrArg (Checkpoint.withStage · _ _) reached.reached
        · show run.store.save (run.checkpoint.withStage stage.id last.context.shared) = _
          rw [amid.kept, amid.reached]
        · exact beside'.store.trans reached.stored
      · rw [if_neg success]
        exact .pure (failed _ _ middle reached (by simpa [succeeded] using success) rfl)

/-- The loop of attempts, while the fuel lasts. -/
theorem follows_timedAttempts (keeps : KeepsToken stage.execute) (fuel attempt : Nat)
    (positive : 0 < fuel) (enough : stage.retryPolicy.maxAttempts < fuel + attempt)
    (amid : Amid run execution results checkpoint store)
    (there : run.control = .starting stage attempt todo) :
    (surroundings.plan stages completed).monitor.Follows
      (timedAttempts surroundings.emitFn surroundings.timing (stage.journaled F) fuel attempt)
      execution run (AttemptsEnd stage todo results checkpoint store) := by
  induction fuel generalizing attempt run execution with
  | zero => omega
  | succ fuel ih =>
      have again (lastError : String) {last : RunState ω ν}
          {middle : Execution (Journaled F ω ν) ν} (amid : Amid last middle results checkpoint store)
          (there : last.control = .failing stage attempt lastError todo) :
          (surroundings.plan stages completed).monitor.Follows
            (failAttempt surroundings.emitFn (stage.journaled F) attempt lastError (do
              hook (surroundings.timing.pause (stage.journaled F) (attempt + 1))
              timedAttempts surroundings.emitFn surroundings.timing (stage.journaled F) fuel
                (attempt + 1))) middle last (AttemptsEnd stage todo results checkpoint store) := by
        refine follows_failAttempt amid there (fun retried _ _ amid there => ?_)
        have below := RetryPolicy.lt_of_shouldRetry retried
        exact follows_pause amid there (fun _ _ amid there =>
          ih (attempt + 1) (by omega) (by omega) amid there)
      refine .bind (follows_emit amid.token (fun middle beside => ?_))
      refine ⟨_, Plan.advance_started there, ?_⟩
      refine .bind (.attempt (follows_attemptStage keeps (amid.hook beside _) rfl ?_ ?_))
      · intro answer last middle amid failed there
        cases answer with
        | error exc => exact again exc.text amid there
        | ok result =>
            have reported : ¬ result.success = true := by simpa [succeeded] using failed
            rw [Plan.tried, if_neg reported] at there
            dsimp only
            rw [judgeAttempt, if_neg reported]
            exact again _ amid there
      · intro result last middle success token control collected listed reached kept stored
        dsimp only
        rw [judgeAttempt, if_pos success]
        refine .pure ⟨token, listed, stored, collected, ?_⟩
        rw [if_pos success]
        exact ⟨control, reached, kept⟩

theorem follows_runStage {registry : PipelineRegistry ω ν} (known : registry.find? stage.id = some stage)
    (keeps : KeepsToken stage.execute) (amid : Amid run execution results checkpoint store)
    (there : run.control = .starting stage 1 todo) :
    (surroundings.plan stages completed).monitor.Follows
      (runStage (paced surroundings.emitFn surroundings.timing (registry.journaled F))
        (stage.journaled F)) execution run (AttemptsEnd stage todo results checkpoint store) := by
  have found : (registry.journaled F).find? (stage.journaled F).id = some (stage.journaled F) := by
    rw [PipelineRegistry.find?_journaled]
    exact congrArg (Option.map (PipelineStage.journaled F)) known
  rw [runStage_paced _ _ _ _ found]
  refine .bind (follows_silent rfl rfl ?_)
  have limit : stage.retryPolicy.maxAttempts < (stage.retryPolicy.maxAttempts.toNat + 1 : Nat) + 1 := by
    omega
  exact follows_timedAttempts keeps _ 1 (Nat.succ_pos _) limit (amid.silent rfl ⟨rfl, rfl⟩) there

end Attempts

section Stages

variable {surroundings : Surroundings F ω ν} {stages : List (PipelineStage ω ν)}
  {completed : List StageId} {run : RunState ω ν} {execution : Execution (Journaled F ω ν) ν}
  {checkpoint : Checkpoint ν} {todo : List (PipelineStage ω ν)}

/-- The run stands where the loop over these stages begins. -/
structure AtLoop (completed : List StageId) (todo : List (PipelineStage ω ν))
    (checkpoint : Checkpoint ν) (run : RunState ω ν) (execution : Execution (Journaled F ω ν) ν) :
    Prop where
  token : run.cancelled = execution.context.cancelled
  control : run.control = .looping (enter completed todo execution.results).1
  results : run.results = (enter completed todo execution.results).2
  reached : run.checkpoint = checkpoint
  store : run.store = execution.store

/-- How the loop over the stages ends. -/
structure LoopEnds (answer : Except PyExc Bool) (execution : Execution (Journaled F ω ν) ν)
    (last : RunState ω ν) : Prop where
  token : last.cancelled = execution.context.cancelled
  results : last.results = execution.results
  store : last.store = execution.store
  outcome : match answer with
    | .ok true => last.control = .looping []
    | .ok false => last.control = .ended .failed
    | .error (.pipelineCancelled _) =>
        (last.cancelled = true ∧ ∃ stage todo, last.control = .looping (stage :: todo)) ∨
          last.control = .cancelling
    | .error _ => last.control = .ended .raised

theorem enter_known {stage : PipelineStage ω ν} (inside : stage.id ∈ completed)
    (results : List StageResult) :
    enter completed (stage :: todo) results =
      enter completed todo (results ++ [.skipped stage.id "already completed"]) := if_pos inside

theorem enter_new {stage : PipelineStage ω ν} (outside : stage.id ∉ completed)
    (results : List StageResult) :
    enter completed (stage :: todo) results = (stage :: todo, results) := if_neg outside

/-- The run in the loop again. -/
theorem AtLoop.again {cancelled : Bool} {next : Execution (Journaled F ω ν) ν}
    (token : cancelled = next.context.cancelled) (collected : run.results = next.results)
    (reached : run.checkpoint = checkpoint) (kept : run.store = next.store) :
    AtLoop completed todo checkpoint { run.loop completed todo with cancelled := cancelled }
      next := by
  refine ⟨token, ?_, ?_, reached, kept⟩
  · rw [RunState.loop, collected]
  · rw [RunState.loop, collected]

/-- What the loop does with a stage whose attempts have ended in a success. -/
theorem follows_success {stage : PipelineStage ω ν} {result : StageResult}
    {emit : EmitFn (Journaled F ω ν) ν}
    (announces : emit (.checkpointCreated stage.id) =
      surroundings.emitFn (.checkpointCreated stage.id))
    (token : run.cancelled = execution.context.cancelled)
    (there : run.control = .saved stage todo)
    (collected : run.results = execution.results ++ [result])
    (reached : run.checkpoint = checkpoint.withStage stage.id execution.context.shared)
    (kept : run.store =
      execution.store.save (checkpoint.withStage stage.id execution.context.shared))
    {next : Checkpoint ν → ExecutionPy (Journaled F ω ν) ν Bool}
    (later : ∀ last middle advanced, AtLoop completed todo advanced last middle →
      (surroundings.plan stages completed).monitor.Follows (next advanced) middle last LoopEnds) :
    (surroundings.plan stages completed).monitor.Follows
      (do
        addResult result
        observe (.succeeded stage.id)
        let advanced := checkpoint.withStage stage.id (← get).context.shared
        saveCheckpoint advanced
        hook (emit (.checkpointCreated stage.id))
        next advanced) execution run LoopEnds := by
  refine .bind (follows_silent rfl rfl (.bind (follows_silent rfl rfl (.bind (.get ?_)))))
  refine .bind (follows_silent rfl rfl ?_)
  rw [announces]
  refine .bind (follows_emit token (fun middle beside => ?_))
  refine ⟨_, Plan.advance_saved there, later _ _ _ (.again rfl ?_ reached ?_)⟩
  · exact collected.trans beside.results.symm
  · exact kept.trans beside.store.symm

/-- What the loop does with a stage that has failed. -/
theorem follows_failure {stage : PipelineStage ω ν} {result : StageResult}
    {emit : EmitFn (Journaled F ω ν) ν}
    (announces : ∀ pipelineId, emit (.pipelineFailed pipelineId stage.id) =
      surroundings.emitFn (.pipelineFailed pipelineId stage.id))
    (keeps : KeepsToken stage.rollback) (token : run.cancelled = execution.context.cancelled)
    (there : run.control = .rollingBack stage)
    (collected : run.results = execution.results ++ [result]) (kept : run.store = execution.store) :
    (surroundings.plan stages completed).monitor.Follows
      (do
        addResult result
        rollback (stage.journaled F)
        hook (emit (.pipelineFailed (← get).context.pipelineId stage.id))
        return false) execution run LoopEnds := by
  refine .bind (follows_silent rfl rfl ?_)
  refine .bind (.bind (.attempt (follows_hook keeps token (fun answer middle _ beside => ?_))))
  refine ⟨_, Plan.advance_rolledBack there answer, .pure (.bind (.get ?_))⟩
  dsimp only
  rw [announces]
  refine .bind (follows_emit rfl (fun last beside' => ?_))
  refine ⟨_, Plan.advance_reported rfl _, .pure ⟨rfl, ?_, ?_, rfl⟩⟩
  · exact collected.trans (beside'.results.trans beside.results).symm
  · exact kept.trans (beside'.store.trans beside.store).symm

variable (surroundings stages) in
/-- The loop over the stages. The induction is on the stages still to do. -/
theorem follows_runStages {registry : PipelineRegistry ω ν}
    (known : ∀ stage ∈ todo, registry.find? stage.id = some stage)
    (keeps : ∀ stage ∈ todo, stage.KeepsToken)
    (there : AtLoop completed todo checkpoint run execution) :
    (surroundings.plan stages completed).monitor.Follows
      (runStages (paced surroundings.emitFn surroundings.timing (registry.journaled F)) completed
        (todo.map (PipelineStage.journaled F)) checkpoint) execution run LoopEnds := by
  induction todo generalizing checkpoint run execution with
  | nil =>
      exact .pure ⟨there.token, there.results, there.store, there.control⟩
  | cons stage rest ih =>
      rw [List.forall_mem_cons] at known keeps
      have next : ∀ last middle advanced, AtLoop completed rest advanced last middle →
          (surroundings.plan stages completed).monitor.Follows
            (runStages (paced surroundings.emitFn surroundings.timing (registry.journaled F))
              completed (rest.map (PipelineStage.journaled F)) advanced) middle last LoopEnds :=
        fun last middle advanced there => ih known.2 keeps.2 there
      rw [List.map_cons, runStages]
      by_cases inside : stage.id ∈ completed
      · have listed : (stage.journaled F).id ∈ completed := inside
        rw [if_pos listed]
        have control := there.control
        have results := there.results
        rw [enter_known inside] at control results
        exact .bind (follows_silent rfl rfl (.bind (follows_silent rfl rfl
          (next _ _ _ ⟨there.token, control, results, there.reached, there.store⟩))))
      · have unlisted : (stage.journaled F).id ∉ completed := inside
        have control := there.control
        have results := there.results
        rw [enter_new inside] at control results
        rw [if_neg unlisted]
        by_cases cancelled : run.cancelled = true
        · have stopped : execution.context.cancelled = true := there.token.symm.trans cancelled
          have raised : call (raiseIfCancelled : ExecutionPy (Journaled F ω ν) ν Unit) execution =
              (.error (.pipelineCancelled (cancellationText execution.context.reason)),
                execution) := by
            rw [call_raiseIfCancelled, if_pos stopped]
          exact .bind (.silent raised rfl ⟨there.token, results, there.store,
            .inl ⟨cancelled, stage, rest, control⟩⟩)
        have going : run.cancelled = false := by simpa using cancelled
        have passes : call (raiseIfCancelled : ExecutionPy (Journaled F ω ν) ν Unit) execution =
            (.ok (), execution) := by
          rw [call_raiseIfCancelled, ← there.token, going]
          rfl
        refine .bind (follows_silent passes rfl ?_)
        refine .bind (follows_hook keeps.1.validate there.token (fun answer middle _ beside => ?_))
        refine ⟨_, Plan.advance_validated control going answer, ?_⟩
        rcases answer with exc | (_ | _)
        · have kept := there.store.trans beside.store.symm
          have same := results.trans beside.results.symm
          cases exc with
          | pipelineCancelled message => exact ⟨rfl, same, kept, .inr rfl⟩
          | _ => exact ⟨rfl, same, kept, rfl⟩
        · dsimp only
          rw [if_neg Bool.false_ne_true]
          refine .bind (follows_silent rfl rfl (.bind (follows_silent rfl rfl
            (.bind (follows_silent rfl rfl (next _ _ _ (.again rfl ?_ there.reached ?_)))))))
          · exact congrArg (· ++ [_]) (results.trans beside.results.symm)
          · exact there.store.trans beside.store.symm
        · dsimp only
          rw [if_pos rfl]
          have amid : Amid run execution execution.results checkpoint execution.store :=
            ⟨there.token, results, rfl, there.reached, there.store, rfl⟩
          refine .bind ((follows_runStage known.1 keeps.1.execute (amid.hook beside _) rfl).mono ?_)
          intro answer after reached ends
          cases answer with
          | error exc =>
              obtain ⟨rfl, raised, collected, kept⟩ := ends.outcome
              exact ⟨ends.token, collected.trans ends.listed.symm, kept.trans ends.stored.symm,
                raised⟩
          | ok result =>
              obtain ⟨collected, outcome⟩ := ends.outcome
              rw [← ends.listed] at collected
              rw [← ends.stored] at outcome
              dsimp only
              by_cases success : result.success = true
              · rw [if_pos success] at outcome ⊢
                obtain ⟨control, point, kept⟩ := outcome
                exact follows_success rfl ends.token control collected point kept next
              · rw [if_neg success] at outcome ⊢
                exact follows_failure (fun _ => rfl) keeps.1.rollback ends.token outcome.1 collected
                  outcome.2

end Stages

section Runs

variable (surroundings : Surroundings F ω ν) (pipeline : Pipeline ω ν) (resume : Bool)
  (context : PipelineContext ω ν) (store : CheckpointStore ν)

/-- How an `execute` call ends. -/
structure RunEnds (answer : Except PyExc PipelineResult)
    (execution : Execution (Journaled F ω ν) ν) (last : RunState ω ν) : Prop where
  token : last.cancelled = execution.context.cancelled
  results : last.results = execution.results
  store : last.store = execution.store
  outcome : match answer with
    | .ok result => ∃ fate, last.control = .ended fate ∧ fate ≠ .raised ∧
        result = ⟨context.pipelineId, context.documentId, last.results, fate = .completed⟩
    | .error _ => last.control = .ended .raised

variable {surroundings pipeline resume context store} {stages : List (PipelineStage ω ν)}
  {completed : List StageId} {run : RunState ω ν} {execution : Execution (Journaled F ω ν) ν}

/-- What follows the stage loop. -/
theorem follows_conclude (context : PipelineContext ω ν) {emit : EmitFn (Journaled F ω ν) ν}
    (announces : ∀ pipelineId, emit (.pipelineCompleted pipelineId) =
        surroundings.emitFn (.pipelineCompleted pipelineId) ∧
      emit (.pipelineCancelled pipelineId) = surroundings.emitFn (.pipelineCancelled pipelineId))
    {answer : Except PyExc Bool} (ends : LoopEnds answer execution run) :
    (surroundings.plan stages completed).monitor.Follows
      (conclude emit context.pipelineId context.documentId answer) execution run
      (RunEnds context) := by
  have outcome := ends.outcome
  rcases answer with exc | (_ | _)
  · by_cases cancelled : ∃ message, exc = .pipelineCancelled message
    · obtain ⟨message, rfl⟩ := cancelled
      refine .bind (.get ?_)
      dsimp only
      rw [(announces _).2]
      refine .bind (follows_emit ends.token (fun middle beside => ?_))
      refine ⟨run.goto (.ended .cancelled), ?_, .bind (.get (.pure ⟨rfl, ?_, ?_, .cancelled, rfl,
        nofun, ?_⟩))⟩
      · rcases outcome with ⟨stopped, stage, todo, there⟩ | there
        · exact Plan.advance_cancelled there stopped _
        · exact Plan.advance_cancelling there _
      · exact ends.results.trans beside.results.symm
      · exact ends.store.trans beside.store.symm
      · show _ = PipelineResult.mk _ _ run.results _
        rw [ends.results, beside.results]
        rfl
    · cases exc with
      | pipelineCancelled message => exact absurd ⟨message, rfl⟩ cancelled
      | _ => exact .throw ⟨ends.token, ends.results, ends.store, outcome⟩
  · refine .bind (.get (.pure ⟨ends.token, ends.results, ends.store, .failed, outcome, nofun, ?_⟩))
    rw [ends.results]
    rfl
  · refine .bind (.get ?_)
    dsimp only
    rw [(announces _).1]
    refine .bind (follows_emit ends.token (fun middle beside => ?_))
    refine ⟨_, Plan.advance_completed outcome _, .bind (.get (.pure ⟨rfl, ?_, ?_, .completed, rfl,
      nofun, ?_⟩))⟩
    · exact ends.results.trans beside.results.symm
    · exact ends.store.trans beside.store.symm
    · show _ = PipelineResult.mk _ _ run.results _
      rw [ends.results, beside.results]
      rfl

theorem call_initialCheckpoint {ω' : Type} (resume : Bool) (first : Execution ω' ν) :
    ∃ entered, call (initialCheckpoint resume) first =
        (.ok (startCheckpoint first.context first.store resume), entered) ∧
      entered.context.cancelled = first.context.cancelled ∧
      entered.context.world = first.context.world ∧ entered.results = first.results ∧
      entered.store = first.store := by
  rw [initialCheckpoint, startCheckpoint, call_bind, call_get, andThen_ok]
  dsimp only
  cases existingCheckpoint first.store first.context.pipelineId resume with
  | none => exact ⟨first, rfl, rfl, rfl, rfl, rfl⟩
  | some existing => exact ⟨_, rfl, rfl, rfl, rfl, rfl⟩

/-- Every run of a valid pipeline is read to its end. -/
theorem run_followed (surroundings : Surroundings F ω ν) {pipeline : Pipeline ω ν}
    (valid : pipeline.validate = .ok ()) (keeps : ∀ stage ∈ pipeline.stages, stage.KeepsToken)
    (resume : Bool) (context : PipelineContext ω ν) (store : CheckpointStore ν) :
    ∃ last, (surroundings.planOf pipeline resume context store).monitor.readAll
        (.start context store resume) (surroundings.journal pipeline resume context store) =
          some last ∧
      RunEnds context (surroundings.run pipeline resume context store).1
        (surroundings.run pipeline resume context store).2 last := by
  let first : Execution (Journaled F ω ν) ν := beginning (context.noted []) store
  have follows : (surroundings.planOf pipeline resume context store).monitor.Follows
      (execute (paced surroundings.emitFn surroundings.timing (pipeline.journaled F).registry)
        (pipeline.journaled F) resume) first (.start context store resume) (RunEnds context) := by
    have sound : call (check (pipeline.journaled F).validate) first = (.ok (), first) := by
      rw [call_check, pipeline.validate_journaled, valid]
    obtain ⟨entered, started, token, world, listed, stored⟩ := call_initialCheckpoint resume first
    refine .bind (follows_silent sound rfl (.bind (.get ?_)))
    refine .bind (follows_silent started world ?_)
    refine .bind (follows_emit token.symm (fun middle beside => ?_))
    refine ⟨_, Plan.advance_opening rfl _, .bind (.attempt ?_)⟩
    rw [pipeline.stages_journaled]
    have there : AtLoop (startCheckpoint context store resume).completedStages pipeline.stages
        (startCheckpoint context store resume)
        { (RunState.start context store resume).loop
            (startCheckpoint context store resume).completedStages pipeline.stages with
          cancelled := middle.context.cancelled } middle :=
      .again rfl (beside.results.trans listed).symm rfl (beside.store.trans stored).symm
    have looped := follows_runStages surroundings pipeline.stages
      (fun _ inside => Pipeline.find?_of_mem_stages inside) keeps there
    exact looped.mono (fun answer after reached ends => follows_conclude context (fun _ => ⟨rfl, rfl⟩) ends)
  obtain ⟨records, last, added, reads, ends⟩ := follows
  have whole : surroundings.journal pipeline resume context store = records := added
  exact ⟨last, whole ▸ reads, ends⟩

end Runs

end LexMind.Pipelines
