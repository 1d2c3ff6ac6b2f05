import LexMind.Pipeline.CancellationPoints
import LexMind.Pipeline.RunInvariant
import LexMind.Pipeline.StageAccounting

set_option autoImplicit false

namespace LexMind.Pipelines

open Lib

variable {F ω ν : Type}

/-- What a run owes its caller: a result for each stage up to the first failure, a rollback of that
stage alone, no call of a stage that is completed already, and a checkpoint of the successes. -/
structure Disciplined (pipelineId : String) (stages : List (PipelineStage ω ν))
    (completed : List StageId) (result : PipelineResult) (journal : List (HookRecord F ν))
    (store : CheckpointStore ν) : Prop where
  listed : List.Forall₂ (ResultFor completed journal)
    (stages.take result.stageResults.length) result.stageResults
  whole : (∀ given ∈ result.stageResults, given.success = true) →
    result.stageResults.length = stages.length ∧ result.completed = true ∧
      rolledBackStages journal = []
  broken : ∀ given ∈ result.stageResults, given.success = false →
    result.completed = false ∧ ∃ front stage earlier,
      stages.take result.stageResults.length = front ++ [stage] ∧
      result.stageResults = earlier ++ [given] ∧ (∀ other ∈ earlier, other.success = true) ∧
      rolledBackStages journal = [stage.id]
  spared : ∀ stageId ∈ completed, ∀ answer, .executed stageId answer ∉ callsOf journal
  announced : (completions journal).map Prod.fst = succeededStages journal
  stored : ∀ last ∈ (completions journal).getLast?, ∃ checkpoint,
    store.restore pipelineId = some checkpoint ∧
    checkpoint.completedStages = completed ++ succeededStages journal ∧
    checkpoint.shared = last.2

theorem Pipeline.stages_distinct {pipeline : Pipeline ω ν} (distinct : pipeline.order.Nodup) :
    (pipeline.stages.map PipelineStage.id).Nodup := by
  rw [stages, List.map_filterMap]
  refine distinct.filterMap (fun first second stageId left right => ?_)
  obtain ⟨stage, found, rfl⟩ := Option.map_eq_some_iff.mp left
  obtain ⟨other, found', same⟩ := Option.map_eq_some_iff.mp right
  rw [← Keyed.key_of_find? found, ← Keyed.key_of_find? found', same]

namespace Plan

variable {plan : Plan F ω ν} {run last : RunState ω ν} {records : List (HookRecord F ν)}

/-- A token that is not cancelled at the end never was. -/
theorem uncancelled_run (going : last.cancelled = false)
    (reads : plan.monitor.readAll run records = some last) :
    run.cancelled = false ∧ ∀ record ∈ records, record.left = false := by
  induction records generalizing run with
  | nil =>
      cases reads
      exact ⟨going, fun _ inside => absurd inside List.not_mem_nil⟩
  | cons record records ih =>
      obtain ⟨next, step, rest⟩ := Monitor.readAll_cons_eq_some _ reads
      obtain ⟨before, later⟩ := ih rest
      constructor
      · by_contra cancelled
        have kept := read_keeps_token (by simpa using cancelled) step
        exact Bool.false_ne_true (before.symm.trans kept)
      · obtain ⟨_, _, moved, _, rfl⟩ := read_cases step
        exact List.forall_mem_cons.mpr ⟨before, later⟩

variable {pipelineId : String} {journal : List (HookRecord F ν)} {fate : Fate}
  {done todo : List (PipelineStage ω ν)} {results : List StageResult}

theorem Listed.taken (listed : plan.Listed journal done todo results) :
    plan.stages.take results.length = done := by
  rw [listed.split, ← listed.matched.length_eq]
  exact List.take_left

/-- A run that is upheld to an end other than a raise has kept its discipline. -/
theorem disciplined_of_upheld (documentId : String) (upheld : plan.Upheld pipelineId journal last)
    (there : last.control = .ended fate) (answered : fate ≠ .raised) :
    Disciplined pipelineId plan.stages plan.completed
      ⟨pipelineId, documentId, last.results, fate = .completed⟩ journal last.store := by
  have stands := upheld.stands
  have settled := upheld.settled
  rw [there] at stands settled
  have announced : (completions journal).map Prod.fst = succeededStages journal := by
    rw [settled]
    exact (List.append_nil _).symm
  have stored : ∀ latest ∈ (completions journal).getLast?, ∃ checkpoint,
      last.store.restore pipelineId = some checkpoint ∧
      checkpoint.completedStages = plan.completed ++ succeededStages journal ∧
      checkpoint.shared = latest.2 := by
    intro latest inside
    obtain ⟨restored, shared⟩ := upheld.checkpointed.latest latest inside
    refine ⟨last.checkpoint, restored, ?_, shared⟩
    rw [upheld.checkpointed.completed, announced]
  cases fate with
  | completed =>
      obtain ⟨⟨done, listed⟩, untouched⟩ := stands
      have taken := listed.taken
      refine ⟨?_, fun _ => ⟨?_, rfl, untouched⟩, ?_, upheld.spared, announced, stored⟩
      · rw [taken]
        exact listed.matched
      · rw [listed.split, List.append_nil]
        exact listed.matched.length_eq.symm
      · intro given inside failure
        exact absurd (failure.symm.trans (listed.well given inside)) Bool.false_ne_true
  | failed =>
      obtain ⟨stage, ⟨done, todo, earlier, result, listed, given, failure, same⟩, rolledBack⟩ :=
        stands
      have taken : plan.stages.take last.results.length = done ++ [stage] := by
        rw [same, listed.split, List.length_append, ← listed.matched.length_eq, List.append_cons,
          List.length_singleton, ← List.length_singleton (a := stage), ← List.length_append]
        exact List.take_left
      refine ⟨?_, ?_, ?_, upheld.spared, announced, stored⟩
      · rw [taken, same]
        exact List.rel_append listed.matched (.cons given .nil)
      · intro well
        have inside : result ∈ last.results := by
          rw [same]
          exact List.mem_append_right _ (List.mem_singleton_self result)
        exact absurd (failure.symm.trans (well result inside)) Bool.false_ne_true
      · intro other inside failed
        refine ⟨rfl, done, stage, earlier, taken, ?_, listed.well, rolledBack⟩
        rw [same] at inside ⊢
        rcases List.mem_append.mp inside with before | final
        · exact absurd (failed.symm.trans (listed.well other before)) Bool.false_ne_true
        · rw [List.mem_singleton.mp final]
  | cancelled => exact stands.elim
  | raised => exact absurd rfl answered

end Plan

/-- A run that is not cancelled, and none of whose `validate` hooks raises, keeps its discipline
exactly if no delay overflows; where one does, it has no result. -/
theorem discipline_iff (surroundings : Surroundings F ω ν) (pipeline : TokenPipeline ω ν)
    (resume : Bool) (context : PipelineContext ω ν) (store : CheckpointStore ν)
    (distinct : pipeline.order.Nodup) (valid : pipeline.toPipeline.validate = .ok ())
    (answered : ∀ record ∈ surroundings.journal pipeline.toPipeline resume context store,
      record.call.validateRaised = false)
    (going : (surroundings.run pipeline.toPipeline resume context store).2.context.cancelled =
      false) :
    (∃ result, (surroundings.run pipeline.toPipeline resume context store).1 = .ok result ∧
      Disciplined context.pipelineId pipeline.stages
        (startCheckpoint context store resume).completedStages result
        (surroundings.journal pipeline.toPipeline resume context store)
        (surroundings.run pipeline.toPipeline resume context store).2.store) ↔
    ∀ record ∈ surroundings.journal pipeline.toPipeline resume context store,
      ¬ (surroundings.planOf pipeline.toPipeline resume context store).Overflows record := by
  have apart := Pipeline.stages_distinct distinct
  obtain ⟨last, reads, ends⟩ :=
    run_followed surroundings valid pipeline.keeps resume context store
  obtain ⟨fresh, kept⟩ := Plan.uncancelled_run (ends.token.trans going) reads
  have undisturbed : ∀ record ∈ surroundings.journal pipeline.toPipeline resume context store,
      Plan.Undisturbed record := fun record inside => ⟨kept record inside, answered record inside⟩
  have opening := Plan.upheld_start surroundings pipeline.toPipeline resume store fresh
  have raised := Plan.raised_iff apart opening nofun undisturbed reads
  have outcome := ends.outcome
  constructor
  · rintro ⟨result, returned, _⟩ record inside overflows
    rw [returned] at outcome
    obtain ⟨fate, control, differs, _⟩ := outcome
    rw [raised.mpr ⟨record, inside, overflows⟩] at control
    injection control with same
    exact differs same.symm
  · intro clear
    have upheld := Plan.upheld_run apart opening undisturbed reads
    cases returned : (surroundings.run pipeline.toPipeline resume context store).1 with
    | error exc =>
        rw [returned] at outcome
        obtain ⟨record, inside, overflows⟩ := raised.mp outcome
        exact absurd overflows (clear record inside)
    | ok result =>
        rw [returned] at outcome
        obtain ⟨fate, control, differs, rfl⟩ := outcome
        refine ⟨_, rfl, ?_⟩
        rw [← ends.store]
        exact Plan.disciplined_of_upheld context.documentId upheld control differs

/-- A stage without retries. -/
def onceStage (stageId : StageId) (execute : Py (PipelineContext Nat Unit) StageResult) :
    PipelineStage Nat Unit where
  id := stageId
  dependencies := []
  retryPolicy := noRetry
  validate := pure true
  execute := execute
  rollback := pure ()

theorem onceStage_keepsToken (stageId : StageId)
    {execute : Py (PipelineContext Nat Unit) StageResult} (keeps : KeepsToken execute) :
    (onceStage stageId execute).KeepsToken :=
  ⟨fun _ cancelled => cancelled, keeps, fun _ cancelled => cancelled⟩

def breakingRegistry : PipelineRegistry Nat Unit :=
  ⟨[onceStage .ocr (pure (.ok .ocr)), onceStage .parser (throw (.runtimeError "unreadable"))],
    by decide⟩

def breakingPipeline : TokenPipeline Nat Unit where
  registry := breakingRegistry
  order := [.ocr, .parser]
  keeps stage inside := by
    have stages : Pipeline.stages ⟨breakingRegistry, [.ocr, .parser]⟩ = breakingRegistry.rows := rfl
    rw [stages] at inside
    rcases List.mem_cons.mp inside with rfl | inside
    · exact onceStage_keepsToken _ (fun _ cancelled => cancelled)
    · obtain rfl := List.mem_singleton.mp inside
      exact onceStage_keepsToken _ (fun _ cancelled => cancelled)

def breakingAnswer : Except PyExc PipelineResult :=
  (calm.run breakingPipeline.toPipeline false (firstContext false) .empty).1

def breakingJournal : List (HookRecord Int Unit) :=
  calm.journal breakingPipeline.toPipeline false (firstContext false) .empty

def breakingStore : CheckpointStore Unit :=
  (calm.run breakingPipeline.toPipeline false (firstContext false) .empty).2.store

theorem breakingPipeline_paced (record : HookRecord Int Unit) :
    ¬ (calm.planOf breakingPipeline.toPipeline false (firstContext false) .empty).Overflows
      record := by
  rintro ⟨stage, inside, attempt, lastError, exc, _, retried, _⟩
  have never : stage.retryPolicy = noRetry := by
    obtain ⟨stageId, _, found⟩ := List.mem_filterMap.mp inside
    rcases List.mem_cons.mp (Keyed.mem_of_find? found) with rfl | member
    · rfl
    · rw [List.mem_singleton.mp member]
      rfl
  rw [never] at retried
  cases retried

/-- The second stage fails and is rolled back; the first one is in the checkpoint. -/
theorem breaking_disciplined :
    ∃ result, breakingAnswer = .ok result ∧
      Disciplined "run" breakingPipeline.stages [] result breakingJournal breakingStore := by
  have distinct : breakingPipeline.order.Nodup := by decide
  have valid : breakingPipeline.toPipeline.validate = .ok () := by decide +kernel
  have answered : ∀ record ∈ breakingJournal, record.call.validateRaised = false := by
    decide +kernel
  have going : (calm.run breakingPipeline.toPipeline false (firstContext false)
      .empty).2.context.cancelled = false := by
    decide +kernel
  exact (discipline_iff calm breakingPipeline false (firstContext false) .empty distinct valid
    answered going).mpr (fun record _ => breakingPipeline_paced record)

/-- A multiplier whose square is out of range. -/
def steep : Surroundings Int Nat Unit := { calm with backoff := fun _ => ⟨0, 60, 2 ^ 600⟩ }

def overflowingPipeline : TokenPipeline Nat Unit where
  registry := ⟨[overflowing.stage], by decide⟩
  order := [.ocr]
  keeps stage inside := by
    obtain rfl := List.mem_singleton.mp inside
    exact ⟨fun _ cancelled => cancelled, fun _ cancelled => cancelled, fun _ cancelled => cancelled⟩

def overflowingAnswer : Except PyExc PipelineResult :=
  (steep.run overflowingPipeline.toPipeline false (firstContext false) .empty).1

def overflowingJournal : List (HookRecord Int Unit) :=
  steep.journal overflowingPipeline.toPipeline false (firstContext false) .empty

def overflowingStore : CheckpointStore Unit :=
  (steep.run overflowingPipeline.toPipeline false (firstContext false) .empty).2.store

/-- The stage fails twice. The delay before its third attempt raises, so there is no result, and it
is not rolled back. -/
theorem overflowing_undisciplined :
    overflowingPipeline.order.Nodup ∧ overflowingPipeline.toPipeline.validate = .ok () ∧
      (∀ record ∈ overflowingJournal, record.call.validateRaised = false) ∧
      (steep.run overflowingPipeline.toPipeline false (firstContext false)
        .empty).2.context.cancelled = false ∧
      rolledBackStages overflowingJournal = [] ∧
      ¬ ∃ result, overflowingAnswer = .ok result ∧
        Disciplined "run" overflowingPipeline.stages [] result overflowingJournal
          overflowingStore := by
  have raised : overflowingAnswer =
      .error (.overflowError "(34, 'Numerical result out of range')") := by
    decide +kernel
  refine ⟨by decide, by decide +kernel, by decide +kernel, by decide +kernel, by decide +kernel, ?_⟩
  rintro ⟨result, returned, _⟩
  cases raised.symm.trans returned

end LexMind.Pipelines
