import LexMind.Pipeline.Executor

set_option autoImplicit false

namespace LexMind.Pipelines

open Lib

/-- The stage whose turn an observation ends: it was skipped, or it has succeeded. -/
def StageEvent.settles : StageEvent → Option StageId
  | alreadyCompleted stage => some stage
  | invalid stage => some stage
  | called _ => none
  | succeeded stage => some stage

/-- The stages whose turn is over. -/
def settled (events : List StageEvent) : List StageId := events.filterMap StageEvent.settles

/-- Observations of stages that take their turns in the listed order, up to any point. -/
inductive Turns (completed : List StageId) : List StageId → List StageEvent → Prop
  | stop (todo : List StageId) : Turns completed todo []
  | alreadyCompleted {stage : StageId} {todo : List StageId} {events : List StageEvent}
      (inside : stage ∈ completed) (rest : Turns completed todo events) :
      Turns completed (stage :: todo) (.alreadyCompleted stage :: events)
  | invalid {stage : StageId} {todo : List StageId} {events : List StageEvent}
      (rest : Turns completed todo events) :
      Turns completed (stage :: todo) (.invalid stage :: events)
  | called {stage : StageId} {todo : List StageId} {events : List StageEvent}
      (rest : Turns completed (stage :: todo) events) :
      Turns completed (stage :: todo) (.called stage :: events)
  | succeeded {stage : StageId} {todo : List StageId} {events : List StageEvent}
      (rest : Turns completed todo events) :
      Turns completed (stage :: todo) (.succeeded stage :: events)

namespace Turns

variable {completed todo : List StageId} {events before after : List StageEvent}
  {stage : StageId}

theorem calls (count : Nat) (rest : Turns completed (stage :: todo) events) :
    Turns completed (stage :: todo) (List.replicate count (.called stage) ++ events) := by
  induction count with
  | zero => exact rest
  | succ count ih => exact .called ih

/-- A stage is called where its turn comes in the list. -/
theorem position (turns : Turns completed todo (before ++ .called stage :: after)) :
    ∃ later, todo = settled before ++ stage :: later := by
  induction before generalizing todo with
  | nil =>
      cases turns with
      | called rest => exact ⟨_, rfl⟩
  | cons event before ih =>
      cases turns with
      | alreadyCompleted inside rest =>
          obtain ⟨later, rfl⟩ := ih rest
          exact ⟨later, rfl⟩
      | invalid rest =>
          obtain ⟨later, rfl⟩ := ih rest
          exact ⟨later, rfl⟩
      | called rest => exact ih rest
      | succeeded rest =>
          obtain ⟨later, rfl⟩ := ih rest
          exact ⟨later, rfl⟩

theorem known (turns : Turns completed todo events)
    (skipped : .alreadyCompleted stage ∈ events) : stage ∈ completed := by
  induction turns with
  | stop todo => cases skipped
  | alreadyCompleted inside rest ih =>
      rcases List.mem_cons.mp skipped with same | later
      · cases same
        exact inside
      · exact ih later
  | invalid rest ih => exact ih (by simpa using skipped)
  | called rest ih => exact ih (by simpa using skipped)
  | succeeded rest ih => exact ih (by simpa using skipped)

/-- A settled stage was completed before the run, was not valid, or has succeeded. -/
theorem settled_cases (turns : Turns completed todo (before ++ after))
    (done : stage ∈ settled before) :
    stage ∈ completed ∨ .invalid stage ∈ before ∨ .succeeded stage ∈ before := by
  obtain ⟨event, inside, settles⟩ := List.mem_filterMap.mp done
  cases event with
  | alreadyCompleted other =>
      cases settles
      exact .inl (turns.known (List.mem_append_left _ inside))
  | invalid other =>
      cases settles
      exact .inr (.inl inside)
  | called other => cases settles
  | succeeded other =>
      cases settles
      exact .inr (.inr inside)

end Turns

section Attempts

variable {ω ν α : Type} (emit : EmitFn ω ν)

/-- Neither the store nor the observations have changed. -/
def Quiet (first last : Execution ω ν) : Prop :=
  last.store = first.store ∧ last.events = first.events

/-- The attempts at a stage leave the store alone and are observed as calls of it. -/
def OnlyCalls (stage : StageId) (first last : Execution ω ν) : Prop :=
  last.store = first.store ∧
    ∃ count, last.events = first.events ++ List.replicate count (.called stage)

theorem Quiet.refl (execution : Execution ω ν) : Quiet execution execution := ⟨rfl, rfl⟩

theorem Quiet.trans (first middle last : Execution ω ν) (before : Quiet first middle)
    (after : Quiet middle last) : Quiet first last :=
  ⟨after.1.trans before.1, after.2.trans before.2⟩

theorem Quiet.onlyCalls {first last : Execution ω ν} (quiet : Quiet first last)
    (stage : StageId) : OnlyCalls stage first last :=
  ⟨quiet.1, 0, by simp [quiet.2]⟩

theorem OnlyCalls.trans {stage : StageId} (first middle last : Execution ω ν)
    (before : OnlyCalls stage first middle) (after : OnlyCalls stage middle last) :
    OnlyCalls stage first last := by
  obtain ⟨store, count, events⟩ := before
  obtain ⟨store', count', events'⟩ := after
  refine ⟨store'.trans store, count + count', ?_⟩
  rw [events', events, List.append_assoc, List.replicate_add]

/-- A hook reaches neither the store nor the observations. -/
theorem hook_quiet (program : Py (PipelineContext ω ν) α) : Leaves Quiet (hook program) := by
  intro execution
  rw [hook, call_onPart]
  exact ⟨rfl, rfl⟩

theorem changeStatistics_quiet (change : PipelineStatistics → PipelineStatistics) :
    Leaves Quiet (changeStatistics change : ExecutionPy ω ν Unit) :=
  hook_quiet _

theorem addResult_quiet (result : StageResult) :
    Leaves Quiet (addResult result : ExecutionPy ω ν Unit) :=
  Leaves.modify (fun _ => ⟨rfl, rfl⟩)

theorem rollback_quiet (stage : PipelineStage ω ν) : Leaves Quiet (rollback stage) :=
  .bind Quiet.trans (.attempt (hook_quiet _)) (fun _ => .pure Quiet.refl _)

theorem raiseIfCancelled_quiet : Leaves Quiet (raiseIfCancelled : ExecutionPy ω ν Unit) := by
  intro execution
  rw [call_raiseIfCancelled]
  exact ⟨rfl, rfl⟩

theorem conclude_quiet (pipelineId documentId : String) (ended : Except PyExc Bool) :
    Leaves Quiet (conclude emit pipelineId documentId ended) := by
  have answered (completed : Bool) : Leaves Quiet (do
      return ⟨pipelineId, documentId, (← get).results, completed⟩ :
        ExecutionPy ω ν PipelineResult) :=
    .bind Quiet.trans (.get Quiet.refl) (fun _ => .pure Quiet.refl _)
  unfold conclude
  split
  · exact .bind Quiet.trans (.get Quiet.refl)
      (fun _ => .bind Quiet.trans (hook_quiet _) (fun _ => answered true))
  · exact answered false
  · exact .bind Quiet.trans (.get Quiet.refl)
      (fun _ => .bind Quiet.trans (hook_quiet _) (fun _ => answered false))
  · exact .throw Quiet.refl _

theorem onlyCalls_of_quiet {program : ExecutionPy ω ν α} (quiet : Leaves Quiet program)
    (stage : StageId) : Leaves (OnlyCalls stage) program :=
  fun execution => (quiet execution).onlyCalls stage

theorem pure_onlyCalls (stage : StageId) (value : α) :
    Leaves (OnlyCalls stage) (pure value : ExecutionPy ω ν α) :=
  .pure (fun _ => Quiet.onlyCalls ⟨rfl, rfl⟩ stage) value

theorem attemptStage_onlyCalls (stage : PipelineStage ω ν) :
    Leaves (OnlyCalls stage.id) (attemptStage emit stage) := by
  refine .bind OnlyCalls.trans (.modify (fun execution => ⟨rfl, 1, rfl⟩)) (fun _ => ?_)
  refine .bind OnlyCalls.trans (onlyCalls_of_quiet (hook_quiet _) _) (fun result => ?_)
  split
  · exact .bind OnlyCalls.trans (onlyCalls_of_quiet (hook_quiet _) _) (fun _ => pure_onlyCalls _ _)
  · exact pure_onlyCalls _ _

theorem failAttempt_onlyCalls (stage : PipelineStage ω ν) (attempt : Nat) (lastError : String)
    {again : ExecutionPy ω ν StageResult} (later : Leaves (OnlyCalls stage.id) again) :
    Leaves (OnlyCalls stage.id) (failAttempt emit stage attempt lastError again) := by
  refine .bind OnlyCalls.trans (onlyCalls_of_quiet (changeStatistics_quiet _) _) (fun _ => ?_)
  refine .bind OnlyCalls.trans (onlyCalls_of_quiet (hook_quiet _) _) (fun _ => ?_)
  split
  · exact .bind OnlyCalls.trans (onlyCalls_of_quiet (changeStatistics_quiet _) _) (fun _ => later)
  · exact pure_onlyCalls _ _

theorem runAttempts_onlyCalls (stage : PipelineStage ω ν) (fuel attempt : Nat) :
    Leaves (OnlyCalls stage.id) (runAttempts emit stage fuel attempt) := by
  induction fuel generalizing attempt with
  | zero => exact pure_onlyCalls _ _
  | succ fuel ih =>
      refine .bind OnlyCalls.trans (onlyCalls_of_quiet (hook_quiet _) _) (fun _ => ?_)
      refine .bind OnlyCalls.trans (.attempt (attemptStage_onlyCalls emit stage)) (fun ended => ?_)
      cases ended with
      | ok result =>
          rw [judgeAttempt]
          split
          · exact pure_onlyCalls _ _
          · exact failAttempt_onlyCalls emit stage attempt _ (ih (attempt + 1))
      | error exc => exact failAttempt_onlyCalls emit stage attempt _ (ih (attempt + 1))

theorem runStage_onlyCalls (stage : PipelineStage ω ν) :
    Leaves (OnlyCalls stage.id) (runStage emit stage) :=
  .bind OnlyCalls.trans (onlyCalls_of_quiet (changeStatistics_quiet _) _)
    (fun _ => runAttempts_onlyCalls emit stage _ _)

end Attempts

section Stages

variable {ω ν : Type} (emit : EmitFn ω ν)

theorem Checkpoint.mem_withStage {checkpoint : Checkpoint ν} {shared : Shared ν}
    {stage other : StageId} :
    other ∈ (checkpoint.withStage stage shared).completedStages ↔
      other ∈ checkpoint.completedStages ∨ other = stage := by
  unfold Checkpoint.withStage
  dsimp only
  split
  · rename_i known
    exact ⟨.inl, fun inside => inside.elim id (fun same => same ▸ known)⟩
  · simp

/-- What a run has stored, from its observations: nothing before a stage succeeds,
and then a checkpoint that lists no other stages than these and its first ones. -/
structure Saved (checkpoint : Checkpoint ν) (events : List StageEvent)
    (first last : CheckpointStore ν) : Prop where
  others : ∀ pipelineId, pipelineId ≠ checkpoint.pipelineId →
    last.find? pipelineId = first.find? pipelineId
  own : ((∀ stage, .succeeded stage ∉ events) ∧
      last.find? checkpoint.pipelineId = first.find? checkpoint.pipelineId) ∨
    (∃ stage, .succeeded stage ∈ events) ∧
      ∃ latest, last.find? checkpoint.pipelineId = some latest ∧
        ∀ stage ∈ latest.completedStages,
          stage ∈ checkpoint.completedStages ∨ .succeeded stage ∈ events

namespace Saved

variable {checkpoint : Checkpoint ν} {events : List StageEvent} {first last : CheckpointStore ν}

theorem nothing (checkpoint : Checkpoint ν) (store : CheckpointStore ν) :
    Saved checkpoint [] store store :=
  ⟨fun _ _ => rfl, .inl ⟨fun _ => List.not_mem_nil, rfl⟩⟩

/-- An observation that is no success stands for nothing stored. -/
theorem cons {event : StageEvent} (failure : ∀ stage, event ≠ .succeeded stage)
    (saved : Saved checkpoint events first last) :
    Saved checkpoint (event :: events) first last := by
  have same : ∀ stage, .succeeded stage ∈ event :: events ↔ .succeeded stage ∈ events := by
    intro stage
    simp [Ne.symm (failure stage)]
  refine ⟨saved.others, ?_⟩
  simp only [same]
  exact saved.own

theorem calls (stage : StageId) (count : Nat) (saved : Saved checkpoint events first last) :
    Saved checkpoint (List.replicate count (.called stage) ++ events) first last := by
  induction count with
  | zero => exact saved
  | succ count ih => exact ih.cons (fun _ => by simp)

theorem succeeded {stage : StageId} {shared : Shared ν}
    (saved : Saved (checkpoint.withStage stage shared) events
      (first.save (checkpoint.withStage stage shared)) last) :
    Saved checkpoint (.succeeded stage :: events) first last := by
  constructor
  · intro pipelineId differs
    rw [saved.others pipelineId differs]
    exact Keyed.find?_put_of_ne _ _ (Ne.symm differs)
  · refine .inr ⟨⟨stage, List.mem_cons_self⟩, ?_⟩
    rcases saved.own with ⟨_, unchanged⟩ | ⟨_, latest, found, listed⟩
    · refine ⟨checkpoint.withStage stage shared, ?_, ?_⟩
      · exact unchanged.trans (Keyed.find?_put_self _ _)
      · intro other inside
        rcases Checkpoint.mem_withStage.mp inside with known | rfl
        · exact .inl known
        · exact .inr List.mem_cons_self
    · refine ⟨latest, found, ?_⟩
      intro other inside
      rcases listed other inside with inside | later
      · rcases Checkpoint.mem_withStage.mp inside with known | rfl
        · exact .inl known
        · exact .inr List.mem_cons_self
      · exact .inr (List.mem_cons_of_mem _ later)

end Saved

/-- The stages to do take their turns, and the store is what the turns make of it. -/
def Progress (completed todo : List StageId) (checkpoint : Checkpoint ν)
    (first last : Execution ω ν) : Prop :=
  ∃ events, last.events = first.events ++ events ∧ Turns completed todo events ∧
    Saved checkpoint events first.store last.store

namespace Progress

variable {completed todo : List StageId} {checkpoint : Checkpoint ν}
  {first middle last : Execution ω ν} {stage : StageId}

theorem stop (quiet : Quiet first last) : Progress completed todo checkpoint first last := by
  refine ⟨[], ?_, .stop todo, ?_⟩
  · rw [quiet.2, List.append_nil]
  · rw [quiet.1]
    exact .nothing checkpoint first.store

theorem after_quiet (quiet : Quiet first middle)
    (later : Progress completed todo checkpoint middle last) :
    Progress completed todo checkpoint first last := by
  obtain ⟨events, appended, turns, saved⟩ := later
  rw [quiet.2] at appended
  rw [quiet.1] at saved
  exact ⟨events, appended, turns, saved⟩

theorem before_quiet (earlier : Progress completed todo checkpoint first middle)
    (quiet : Quiet middle last) : Progress completed todo checkpoint first last := by
  obtain ⟨events, appended, turns, saved⟩ := earlier
  refine ⟨events, quiet.2.trans appended, turns, ?_⟩
  rwa [quiet.1]

theorem after_calls (called : OnlyCalls stage first middle)
    (later : Progress completed (stage :: todo) checkpoint middle last) :
    Progress completed (stage :: todo) checkpoint first last := by
  obtain ⟨store, count, calls⟩ := called
  obtain ⟨events, appended, turns, saved⟩ := later
  refine ⟨_, ?_, turns.calls count, ?_⟩
  · rw [appended, calls, List.append_assoc]
  · rw [store] at saved
    exact saved.calls stage count

/-- After an observation that is no success. -/
theorem bind_observe {α : Type} {event : StageEvent} {left : List StageId}
    {next : Unit → ExecutionPy ω ν α} (failure : ∀ stage, event ≠ .succeeded stage)
    (turn : ∀ events, Turns completed left events → Turns completed todo (event :: events))
    (later : ∀ middle, Progress completed left checkpoint middle (call (next ()) middle).2) :
    Progress completed todo checkpoint first (call (observe event >>= next) first).2 := by
  rw [call_bind, observe, call_modify, andThen_ok]
  obtain ⟨events, appended, turns, saved⟩ :=
    later { first with events := first.events ++ [event] }
  refine ⟨event :: events, ?_, turn events turns, saved.cons failure⟩
  rw [appended, List.append_assoc, List.singleton_append]

/-- After a success, whose checkpoint is stored. -/
theorem bind_succeeded {α : Type} {shared : Shared ν} {next : Unit → ExecutionPy ω ν α}
    (later : ∀ middle, Progress completed todo (checkpoint.withStage stage shared) middle
      (call (next ()) middle).2) :
    Progress completed (stage :: todo) checkpoint first
      (call (saveCheckpoint (checkpoint.withStage stage shared) >>= next)
        { first with events := first.events ++ [.succeeded stage] }).2 := by
  rw [call_bind, saveCheckpoint, call_modify, andThen_ok]
  obtain ⟨events, appended, turns, saved⟩ := later
    { first with
      events := first.events ++ [.succeeded stage]
      store := first.store.save (checkpoint.withStage stage shared) }
  refine ⟨.succeeded stage :: events, ?_, .succeeded turns, saved.succeeded⟩
  rw [appended, List.append_assoc, List.singleton_append]

/-- After a computation that neither stores nor observes. -/
theorem bind_quiet {α β : Type} {program : ExecutionPy ω ν α} {next : α → ExecutionPy ω ν β}
    (quiet : Leaves Quiet program)
    (later : ∀ value middle, Quiet first middle →
      Progress completed todo checkpoint middle (call (next value) middle).2) :
    Progress completed todo checkpoint first (call (program >>= next) first).2 :=
  bind_ends (stop (quiet first))
    (fun value _ => after_quiet (quiet first) (later value _ (quiet first)))

end Progress

/-- Whatever the hooks do, and wherever the loop ends, the stages take their turns. -/
theorem runStages_progress (completed : List StageId) (stages : List (PipelineStage ω ν))
    (checkpoint : Checkpoint ν) (execution : Execution ω ν) :
    Progress completed (stages.map PipelineStage.id) checkpoint execution
      (call (runStages emit completed stages checkpoint) execution).2 := by
  induction stages generalizing checkpoint execution with
  | nil => exact .stop ⟨rfl, rfl⟩
  | cons stage rest ih =>
      rw [runStages, call_ite]
      split
      · rename_i inside
        refine .bind_observe (fun _ => by simp) (fun _ => .alreadyCompleted inside) (fun _ => ?_)
        exact .bind_quiet (addResult_quiet _) (fun _ middle _ => ih checkpoint middle)
      · refine .bind_quiet raiseIfCancelled_quiet (fun _ execution _ => ?_)
        refine .bind_quiet (hook_quiet _) (fun valid execution _ => ?_)
        rw [call_ite]
        split
        · have called := runStage_onlyCalls emit stage execution
          refine bind_ends (.after_calls called (.stop ⟨rfl, rfl⟩)) (fun result _ => ?_)
          refine .after_calls called ?_
          refine .bind_quiet (addResult_quiet _) (fun _ execution _ => ?_)
          rw [call_ite]
          split
          · rw [call_bind, observe, call_modify, andThen_ok, call_bind, call_get, andThen_ok]
            refine .bind_succeeded (fun execution => ?_)
            exact .bind_quiet (hook_quiet _) (fun _ middle _ => ih _ middle)
          · refine .bind_quiet (rollback_quiet stage) (fun _ execution _ => ?_)
            rw [call_bind, call_get, andThen_ok]
            exact .bind_quiet (hook_quiet _) (fun _ _ _ => .stop ⟨rfl, rfl⟩)
        · refine .bind_observe (fun _ => by simp) (fun _ => .invalid) (fun execution => ?_)
          refine .bind_quiet (changeStatistics_quiet _) (fun _ execution _ => ?_)
          exact .bind_quiet (addResult_quiet _) (fun _ middle _ => ih checkpoint middle)

/-- The checkpoint a run starts with. -/
def startCheckpoint (context : PipelineContext ω ν) (store : CheckpointStore ν)
    (resume : Bool) : Checkpoint ν :=
  (existingCheckpoint store context.pipelineId resume).getD
    ⟨context.pipelineId, context.documentId, [], none, ∅⟩

theorem startCheckpoint_pipelineId (store : CheckpointStore ν) (context : PipelineContext ω ν)
    (resume : Bool) :
    (startCheckpoint context store resume).pipelineId = context.pipelineId := by
  unfold startCheckpoint existingCheckpoint CheckpointStore.restore
  split
  · cases found : store.find? context.pipelineId with
    | none => rfl
    | some existing => exact Keyed.key_of_find? found
  · rfl

theorem initialCheckpoint_spec (resume : Bool) (execution : Execution ω ν) :
    (call (initialCheckpoint resume) execution).1 =
        .ok (startCheckpoint execution.context execution.store resume) ∧
      Quiet execution (call (initialCheckpoint resume) execution).2 := by
  rw [initialCheckpoint, startCheckpoint, call_bind, call_get, andThen_ok]
  dsimp only
  cases existingCheckpoint execution.store execution.context.pipelineId resume with
  | none => exact ⟨rfl, rfl, rfl⟩
  | some existing =>
      dsimp only
      rw [call_bind, hook, call_onPart, call_modify, andThen_ok, call_pure]
      exact ⟨rfl, rfl, rfl⟩

theorem execute_progress (pipeline : Pipeline ω ν) (resume : Bool)
    (context : PipelineContext ω ν) (store : CheckpointStore ν) :
    Progress (startCheckpoint context store resume).completedStages
      (pipeline.stages.map PipelineStage.id) (startCheckpoint context store resume)
      (beginning context store)
      (call (execute emit pipeline resume) (beginning context store)).2 := by
  rw [execute, call_bind, call_check]
  cases pipeline.validate with
  | error exc => exact .stop ⟨rfl, rfl⟩
  | ok _ =>
      rw [andThen_ok, call_bind, call_get, andThen_ok]
      obtain ⟨found, quiet⟩ := initialCheckpoint_spec resume (beginning context store)
      refine bind_ends (.stop quiet) (fun checkpoint answer => .after_quiet quiet ?_)
      cases found.symm.trans answer
      refine .bind_quiet (hook_quiet _) (fun _ execution _ => ?_)
      rw [call_bind, call_attempt, andThen_ok]
      exact .before_quiet (runStages_progress emit _ pipeline.stages _ execution)
        (conclude_quiet emit _ _ _ _)

end Stages

end LexMind.Pipelines
