import LexMind.Pipeline.RunFollowed

set_option autoImplicit false

/- What a run without cancellation keeps, from one hook to the next. -/
namespace LexMind.Pipelines

open Lib

variable {F ω ν : Type}

/-- The stage whose `execute` has reported a success. -/
def HookCall.success? : HookCall F → Option StageId
  | .executed stage (.ok result) => if result.success then some stage else none
  | _ => none

/-- Whether this is a `validate` that has raised. -/
def HookCall.validateRaised : HookCall F → Bool
  | .validated _ (.error _) => true
  | _ => false

def HookCall.rollback? : HookCall F → Option StageId
  | .rolledBack stage _ => some stage
  | _ => none

/-- The stage whose completion is announced, and the shared map that this leaves. -/
def HookRecord.completion? (record : HookRecord F ν) : Option (StageId × Shared ν) :=
  match record.call with
  | .emitted (.stageCompleted stage) => some (stage, record.shared)
  | _ => none

section Journals

variable (journal : List (HookRecord F ν)) (record : HookRecord F ν)

def callsOf : List (HookCall F) := journal.map HookRecord.call

/-- The stages that have succeeded, in execution order. -/
def succeededStages : List StageId := journal.filterMap (fun record => record.call.success?)

/-- The stages whose `rollback` has been called. -/
def rolledBackStages : List StageId := journal.filterMap (fun record => record.call.rollback?)

def completions : List (StageId × Shared ν) := journal.filterMap HookRecord.completion?

theorem mem_callsOf_snoc (call : HookCall F) :
    call ∈ callsOf (journal ++ [record]) ↔ call ∈ callsOf journal ∨ call = record.call := by
  rw [callsOf, List.map_append, List.mem_append, List.map_singleton, List.mem_singleton, callsOf]

theorem succeededStages_snoc :
    succeededStages (journal ++ [record]) =
      succeededStages journal ++ record.call.success?.toList := by
  rw [succeededStages, List.filterMap_append]
  cases success : record.call.success? <;> simp [success, succeededStages]

theorem rolledBackStages_snoc :
    rolledBackStages (journal ++ [record]) =
      rolledBackStages journal ++ record.call.rollback?.toList := by
  rw [rolledBackStages, List.filterMap_append]
  cases rollback : record.call.rollback? <;> simp [rollback, rolledBackStages]

theorem completions_snoc :
    completions (journal ++ [record]) = completions journal ++ record.completion?.toList := by
  rw [completions, List.filterMap_append]
  cases completion : record.completion? <;> simp [completion, completions]

end Journals

/-- The result that a run gives for a stage, and what in the journal it comes from. -/
inductive ResultFor (completed : List StageId) (journal : List (HookRecord F ν))
    (stage : PipelineStage ω ν) : StageResult → Prop
  | known (inside : stage.id ∈ completed) :
      ResultFor completed journal stage (.skipped stage.id "already completed")
  | refused (outside : stage.id ∉ completed)
      (answered : .validated stage.id (.ok false) ∈ callsOf journal) :
      ResultFor completed journal stage (.skipped stage.id "validate() returned False")
  | passed (outside : stage.id ∉ completed) {result : StageResult} (attempt : Nat)
      (answered : .executed stage.id (.ok result) ∈ callsOf journal)
      (success : result.success = true) :
      ResultFor completed journal stage { result with attempts := attempt }
  | failed (outside : stage.id ∉ completed) {attempt : Nat} {lastError : String}
      (announced : .emitted (.stageFailed stage.id attempt lastError) ∈ callsOf journal) :
      ResultFor completed journal stage
        { StageResult.failed stage.id lastError with attempts := attempt }

theorem ResultFor.later {completed : List StageId} {journal : List (HookRecord F ν)}
    {stage : PipelineStage ω ν} {result : StageResult}
    (given : ResultFor completed journal stage result) (record : HookRecord F ν) :
    ResultFor completed (journal ++ [record]) stage result := by
  cases given with
  | known inside => exact .known inside
  | refused outside answered => exact .refused outside ((mem_callsOf_snoc _ _ _).mpr (.inl answered))
  | passed outside attempt answered success =>
      exact .passed outside attempt ((mem_callsOf_snoc _ _ _).mpr (.inl answered)) success
  | failed outside announced => exact .failed outside ((mem_callsOf_snoc _ _ _).mpr (.inl announced))

/-- The stage that has succeeded, where this is not announced yet. -/
def Control.unsaved : Control ω ν → List StageId
  | .completing stage _ _ _ => [stage.id]
  | _ => []

namespace Plan

variable (plan : Plan F ω ν)

/-- The stages behind the run have their results, none of which is a failure; only they have been
announced as completed. -/
structure Listed (journal : List (HookRecord F ν)) (done todo : List (PipelineStage ω ν))
    (results : List StageResult) : Prop where
  split : plan.stages = done ++ todo
  matched : List.Forall₂ (ResultFor plan.completed journal) done results
  well : ∀ result ∈ results, result.success = true
  announced : ∀ completion ∈ completions journal, ∃ stage ∈ done, stage.id = completion.1

/-- No stage has failed, and these are still to come. -/
def Going (journal : List (HookRecord F ν)) (todo : List (PipelineStage ω ν))
    (results : List StageResult) : Prop :=
  (∃ done, plan.Listed journal done todo results) ∧ rolledBackStages journal = []

/-- The stage has failed, as the first one. -/
def Broken (journal : List (HookRecord F ν)) (stage : PipelineStage ω ν)
    (results : List StageResult) : Prop :=
  ∃ done todo earlier result, plan.Listed journal done (stage :: todo) earlier ∧
    ResultFor plan.completed journal stage result ∧ result.success = false ∧
    results = earlier ++ [result]

/-- What holds at each point of a run without cancellation whose `validate` hooks have answered. -/
def Stands (journal : List (HookRecord F ν)) (results : List StageResult) : Control ω ν → Prop
  | .opening => plan.Going journal plan.stages results
  | .looping todo =>
      plan.Going journal todo results ∧ ∀ stage ∈ todo.head?, stage.id ∉ plan.completed
  | .starting stage _ todo | .executing stage _ todo | .failing stage _ _ todo
  | .pausing stage _ todo =>
      plan.Going journal (stage :: todo) results ∧ stage.id ∉ plan.completed
  | .completing stage _ result todo =>
      plan.Going journal (stage :: todo) results ∧ stage.id ∉ plan.completed ∧
        .executed stage.id (.ok result) ∈ callsOf journal ∧ result.success = true
  | .saved _ todo => plan.Going journal todo results
  | .rollingBack stage => plan.Broken journal stage results ∧ rolledBackStages journal = []
  | .reporting stage => plan.Broken journal stage results ∧ rolledBackStages journal = [stage.id]
  | .ended .completed => plan.Going journal [] results
  | .ended .failed =>
      ∃ stage, plan.Broken journal stage results ∧ rolledBackStages journal = [stage.id]
  | .ended .raised => True
  | .cancelling | .ended .cancelled => False

/-- The completed stages are those of the restored checkpoint and the announced ones, and the last
announcement is followed by a save. -/
structure Checkpointed (pipelineId : String) (journal : List (HookRecord F ν))
    (run : RunState ω ν) : Prop where
  owner : run.checkpoint.pipelineId = pipelineId
  completed : run.checkpoint.completedStages =
    plan.completed ++ (completions journal).map Prod.fst
  latest : ∀ completion ∈ (completions journal).getLast?,
    run.store.restore pipelineId = some run.checkpoint ∧ run.checkpoint.shared = completion.2

section Listings

variable {plan} {journal : List (HookRecord F ν)} {record : HookRecord F ν}
  {done todo : List (PipelineStage ω ν)} {stage : PipelineStage ω ν} {results : List StageResult}
  {result : StageResult}

theorem Listed.later (listed : plan.Listed journal done todo results)
    (behind : ∀ completion ∈ record.completion?, ∃ stage ∈ done, stage.id = completion.1) :
    plan.Listed (journal ++ [record]) done todo results where
  split := listed.split
  matched := listed.matched.imp (fun _ _ given => given.later record)
  well := listed.well
  announced completion inside := by
    rw [completions_snoc, List.mem_append, Option.mem_toList] at inside
    exact inside.elim (listed.announced completion) (behind completion)

theorem Listed.silent (listed : plan.Listed journal done todo results)
    (silent : record.completion? = none) :
    plan.Listed (journal ++ [record]) done todo results :=
  listed.later (fun _ inside => nomatch silent.symm.trans inside)

theorem Listed.snoc (listed : plan.Listed journal done (stage :: todo) results)
    (given : ResultFor plan.completed journal stage result) (success : result.success = true) :
    plan.Listed journal (done ++ [stage]) todo (results ++ [result]) where
  split := listed.split.trans (List.append_cons done stage todo)
  matched := List.rel_append listed.matched (.cons given .nil)
  well := List.forall_mem_append.mpr ⟨listed.well, List.forall_mem_singleton.mpr success⟩
  announced completion inside := by
    obtain ⟨other, before, same⟩ := listed.announced completion inside
    exact ⟨other, List.mem_append_left _ before, same⟩

/-- The loop lists the stages that it goes past. -/
theorem Listed.entered (listed : plan.Listed journal done todo results) :
    (∃ done, plan.Listed journal done (enter plan.completed todo results).1
      (enter plan.completed todo results).2) ∧
    ∀ stage ∈ (enter plan.completed todo results).1.head?, stage.id ∉ plan.completed := by
  induction todo generalizing done results with
  | nil => exact ⟨⟨done, listed⟩, fun _ inside => nomatch inside⟩
  | cons stage rest ih =>
      by_cases inside : stage.id ∈ plan.completed
      · rw [enter_known inside]
        exact ih (listed.snoc (.known inside) rfl)
      · rw [enter_new inside]
        refine ⟨⟨done, listed⟩, fun first same => ?_⟩
        cases same
        exact inside

theorem Going.later (going : plan.Going journal todo results) (silent : record.completion? = none)
    (forward : record.call.rollback? = none) : plan.Going (journal ++ [record]) todo results := by
  obtain ⟨⟨done, listed⟩, untouched⟩ := going
  refine ⟨⟨done, listed.silent silent⟩, ?_⟩
  rw [rolledBackStages_snoc, untouched, forward]
  rfl

theorem Going.snoc (going : plan.Going journal (stage :: todo) results)
    (given : ResultFor plan.completed journal stage result) (success : result.success = true) :
    plan.Going journal todo (results ++ [result]) := by
  obtain ⟨⟨done, listed⟩, untouched⟩ := going
  exact ⟨⟨_, listed.snoc given success⟩, untouched⟩

theorem Going.loop (run : RunState ω ν) (going : plan.Going journal todo run.results) :
    plan.Stands journal (run.loop plan.completed todo).results
      (run.loop plan.completed todo).control := by
  obtain ⟨⟨done, listed⟩, untouched⟩ := going
  obtain ⟨later, fresh⟩ := listed.entered
  exact ⟨⟨later, untouched⟩, fresh⟩

theorem Broken.later (broken : plan.Broken journal stage results)
    (silent : record.completion? = none) : plan.Broken (journal ++ [record]) stage results := by
  obtain ⟨done, todo, earlier, result, listed, given, failure, same⟩ := broken
  exact ⟨done, todo, earlier, result, listed.silent silent, given.later record, failure, same⟩

end Listings

section Steps

variable {plan} {journal : List (HookRecord F ν)} {run next : RunState ω ν}
  {record : HookRecord F ν}

/-- Neither a `validate` hook that raises, nor one during which the token is cancelled. -/
structure Undisturbed (record : HookRecord F ν) : Prop where
  going : record.left = false
  answered : record.call.validateRaised = false

/-- Where a run stands once a failed attempt is announced. -/
theorem stands_judged {stage : PipelineStage ω ν} {attempt : Nat} {lastError : String}
    {todo : List (PipelineStage ω ν)} (going : plan.Going journal (stage :: todo) run.results)
    (outside : stage.id ∉ plan.completed)
    (announced : .emitted (.stageFailed stage.id attempt lastError) ∈ callsOf journal) :
    plan.Stands journal (plan.judged run stage attempt lastError todo).results
      (plan.judged run stage attempt lastError todo).control := by
  rw [judged]
  split
  · show plan.Stands journal run.results (plan.retrying stage (attempt + 1) todo)
    rw [retrying]
    split
    · trivial
    · split <;> exact ⟨going, outside⟩
  · obtain ⟨⟨done, listed⟩, untouched⟩ := going
    exact ⟨⟨done, todo, run.results, _, listed, .failed outside announced, rfl, rfl⟩, untouched⟩

theorem stands_step (going : run.cancelled = false) (undisturbed : Undisturbed record)
    (stands : plan.Stands journal run.results run.control)
    (reads : plan.read run record = some next) :
    plan.Stands (journal ++ [record]) next.results next.control := by
  obtain ⟨_, _, moved, moves, rfl⟩ := read_cases reads
  have answered := undisturbed.answered
  obtain ⟨call, found, left, shared⟩ := record
  have written : call ∈ callsOf (journal ++ [⟨call, found, left, shared⟩]) :=
    (mem_callsOf_snoc _ _ _).mpr (.inr rfl)
  cases moves with
  | opened there pipelineId =>
      rw [there] at stands
      exact (stands.later rfl rfl).loop run
  | completed there pipelineId =>
      rw [there] at stands
      exact stands.1.later rfl rfl
  | stopped there cancelled pipelineId => exact absurd (going.symm.trans cancelled) Bool.false_ne_true
  | @validated stage todo there _ answer =>
      rw [there] at stands
      have here : plan.Going (journal ++ [⟨.validated stage.id answer, found, left, shared⟩])
          (stage :: todo) run.results := stands.1.later rfl rfl
      have outside := stands.2 stage rfl
      rcases answer with exc | (_ | _)
      · exact nomatch answered
      · exact (here.snoc (.refused outside written) rfl).loop (run.addResult _)
      · exact ⟨here, outside⟩
  | started there =>
      rw [there] at stands
      exact ⟨stands.1.later rfl rfl, stands.2⟩
  | @executed stage attempt todo there answer =>
      rw [there] at stands
      have here : plan.Going (journal ++ [⟨.executed stage.id answer, found, left, shared⟩])
          (stage :: todo) run.results := stands.1.later rfl rfl
      cases answer with
      | error exc => exact ⟨here, stands.2⟩
      | ok result =>
          by_cases success : result.success = true
          · have control : tried stage attempt todo (.ok result) =
                .completing stage attempt result todo := if_pos success
            show plan.Stands _ run.results (tried stage attempt todo (.ok result))
            rw [control]
            exact ⟨here, stands.2, written, success⟩
          · have control : tried stage attempt todo (.ok result) =
                .failing stage attempt (reportedErrors result.errors) todo := if_neg success
            show plan.Stands _ run.results (tried stage attempt todo (.ok result))
            rw [control]
            exact ⟨here, stands.2⟩
  | @passed stage attempt result todo there =>
      rw [there] at stands
      obtain ⟨⟨⟨done, listed⟩, untouched⟩, outside, answered, success⟩ := stands
      refine ⟨⟨_, (listed.snoc (.passed outside attempt answered success) success).later ?_⟩, ?_⟩
      · intro completion same
        cases same
        exact ⟨stage, List.mem_append_right _ (List.mem_singleton_self stage), rfl⟩
      · rw [rolledBackStages_snoc, untouched]
        rfl
  | @failed stage attempt lastError todo there =>
      rw [there] at stands
      exact stands_judged (stands.1.later rfl rfl) stands.2 written
  | waited there seconds =>
      rw [there] at stands
      exact ⟨stands.1.later rfl rfl, stands.2⟩
  | saved there =>
      rw [there] at stands
      exact (Going.later stands rfl rfl).loop run
  | @rolledBack stage there answer =>
      rw [there] at stands
      refine ⟨stands.1.later rfl, ?_⟩
      rw [rolledBackStages_snoc, stands.2]
      rfl
  | @reported stage there pipelineId =>
      rw [there] at stands
      refine ⟨stage, stands.1.later rfl, ?_⟩
      rw [rolledBackStages_snoc, stands.2]
      rfl
  | cancelled there pipelineId =>
      rw [there] at stands
      exact stands.elim

theorem gated_kept (plan : Plan F ω ν) (run : RunState ω ν) (stage : PipelineStage ω ν)
    (todo : List (PipelineStage ω ν)) (answer : Except PyExc Bool) :
    (plan.gated run stage todo answer).checkpoint = run.checkpoint ∧
      (plan.gated run stage todo answer).store = run.store ∧
      (plan.gated run stage todo answer).control.unsaved = [] := by
  unfold gated
  split <;> exact ⟨rfl, rfl, rfl⟩

theorem judged_kept (plan : Plan F ω ν) (run : RunState ω ν) (stage : PipelineStage ω ν)
    (attempt : Nat) (lastError : String) (todo : List (PipelineStage ω ν)) :
    (plan.judged run stage attempt lastError todo).checkpoint = run.checkpoint ∧
      (plan.judged run stage attempt lastError todo).store = run.store ∧
      (plan.judged run stage attempt lastError todo).control.unsaved = [] := by
  unfold judged
  split
  · refine ⟨rfl, rfl, ?_⟩
    show (plan.retrying stage (attempt + 1) todo).unsaved = []
    unfold retrying
    split
    · rfl
    · split <;> rfl
  · exact ⟨rfl, rfl, rfl⟩

theorem spared_step (stands : plan.Stands journal run.results run.control)
    (spared : ∀ stageId ∈ plan.completed, ∀ answer, .executed stageId answer ∉ callsOf journal)
    (reads : plan.read run record = some next) :
    ∀ stageId ∈ plan.completed, ∀ answer,
      .executed stageId answer ∉ callsOf (journal ++ [record]) := by
  intro stageId inside answer executed
  obtain ⟨_, _, moved, moves, rfl⟩ := read_cases reads
  rcases (mem_callsOf_snoc _ _ _).mp executed with before | same
  · exact spared stageId inside answer before
  · obtain ⟨call, found, left, shared⟩ := record
    cases moves with
    | executed there answer =>
        rw [there] at stands
        cases same
        exact stands.2 inside
    | _ => cases same

theorem settled_step
    (settled : succeededStages journal =
      (completions journal).map Prod.fst ++ run.control.unsaved)
    (reads : plan.read run record = some next) :
    succeededStages (journal ++ [record]) =
      (completions (journal ++ [record])).map Prod.fst ++ next.control.unsaved := by
  obtain ⟨_, _, moved, moves, rfl⟩ := read_cases reads
  rw [succeededStages_snoc, completions_snoc, settled, List.map_append, List.append_assoc,
    List.append_assoc]
  apply congrArg ((completions journal).map Prod.fst ++ ·)
  obtain ⟨call, found, left, shared⟩ := record
  cases moves with
  | validated there going answer =>
      rw [there]
      exact (plan.gated_kept _ _ _ answer).2.2.symm
  | failed there =>
      rw [there]
      exact (plan.judged_kept _ _ _ _ _).2.2.symm
  | @executed stage attempt todo there answer =>
      rw [there]
      show _ = (tried stage attempt todo answer).unsaved
      cases answer with
      | error exc => rfl
      | ok result =>
          by_cases success : result.success = true
          · rw [tried, if_pos success]
            show (if result.success then some stage.id else none).toList = _
            rw [if_pos success]
            rfl
          · rw [tried, if_neg success]
            show (if result.success then some stage.id else none).toList = _
            rw [if_neg success]
            rfl
  | _ there =>
      rw [there]
      rfl

theorem Checkpointed.later {pipelineId : String}
    (checkpointed : plan.Checkpointed pipelineId journal run)
    (silent : record.completion? = none) (checkpoint : next.checkpoint = run.checkpoint)
    (store : next.store = run.store) : plan.Checkpointed pipelineId (journal ++ [record]) next := by
  have same : completions (journal ++ [record]) = completions journal := by
    rw [completions_snoc, silent, Option.toList_none, List.append_nil]
  refine ⟨?_, ?_, ?_⟩
  · rw [checkpoint, checkpointed.owner]
  · rw [checkpoint, same, checkpointed.completed]
  · rw [checkpoint, store, same]
    exact checkpointed.latest

theorem checkpointed_step {pipelineId : String} (distinct : (plan.stages.map PipelineStage.id).Nodup)
    (stands : plan.Stands journal run.results run.control)
    (checkpointed : plan.Checkpointed pipelineId journal run)
    (reads : plan.read run record = some next) :
    plan.Checkpointed pipelineId (journal ++ [record]) next := by
  obtain ⟨_, _, moved, moves, rfl⟩ := read_cases reads
  obtain ⟨call, found, left, shared⟩ := record
  cases moves with
  | validated there going answer =>
      obtain ⟨checkpoint, store, _⟩ := plan.gated_kept run _ _ answer
      exact checkpointed.later rfl checkpoint store
  | failed there =>
      obtain ⟨checkpoint, store, _⟩ := plan.judged_kept run _ _ _ _
      exact checkpointed.later rfl checkpoint store
  | @passed stage attempt result todo there =>
      rw [there] at stands
      obtain ⟨⟨⟨done, listed⟩, _⟩, outside, _, _⟩ := stands
      have fresh : stage.id ∉ run.checkpoint.completedStages := by
        rw [checkpointed.completed, List.mem_append, not_or]
        refine ⟨outside, fun inside => ?_⟩
        obtain ⟨completion, announced, same⟩ := List.mem_map.mp inside
        obtain ⟨other, before, key⟩ := listed.announced completion announced
        rw [listed.split, List.map_append, List.map_cons] at distinct
        exact (List.nodup_append.mp distinct).2.2 _ (List.mem_map_of_mem before) _
          List.mem_cons_self (key.trans same)
      have saved : (run.checkpoint.withStage stage.id shared).pipelineId = pipelineId :=
        checkpointed.owner
      refine ⟨saved, ?_, ?_⟩
      · have extended : (run.checkpoint.withStage stage.id shared).completedStages =
            run.checkpoint.completedStages ++ [stage.id] := if_neg fresh
        show (run.checkpoint.withStage stage.id shared).completedStages = _
        rw [extended, completions_snoc, checkpointed.completed, List.map_append, List.append_assoc]
        rfl
      · rw [completions_snoc]
        intro completion last
        have same : completion = (stage.id, shared) := by
          have latest : completion ∈ (completions journal ++ [(stage.id, shared)]).getLast? := last
          rw [List.getLast?_concat] at latest
          exact (Option.some.inj latest).symm
        rw [same]
        refine ⟨?_, rfl⟩
        show (run.store.put (run.checkpoint.withStage stage.id shared)).find? pipelineId = _
        rw [← saved]
        exact Keyed.find?_put_self _ _
  | _ there => exact checkpointed.later rfl rfl rfl

/-- What a run without cancellation keeps. -/
structure Upheld (plan : Plan F ω ν) (pipelineId : String) (journal : List (HookRecord F ν))
    (run : RunState ω ν) : Prop where
  going : run.cancelled = false
  stands : plan.Stands journal run.results run.control
  spared : ∀ stageId ∈ plan.completed, ∀ answer, .executed stageId answer ∉ callsOf journal
  settled : succeededStages journal = (completions journal).map Prod.fst ++ run.control.unsaved
  checkpointed : plan.Checkpointed pipelineId journal run

theorem upheld_start (surroundings : Surroundings F ω ν) (pipeline : Pipeline ω ν) (resume : Bool)
    {context : PipelineContext ω ν} (store : CheckpointStore ν) (going : context.cancelled = false) :
    (surroundings.planOf pipeline resume context store).Upheld context.pipelineId []
      (.start context store resume) where
  going := going
  stands := ⟨⟨[], ⟨rfl, .nil, fun _ inside => absurd inside List.not_mem_nil,
    fun _ inside => absurd inside List.not_mem_nil⟩⟩, rfl⟩
  spared _ _ _ inside := List.not_mem_nil inside
  settled := rfl
  checkpointed := ⟨startCheckpoint_pipelineId store context resume, (List.append_nil _).symm,
    fun _ inside => nomatch inside⟩

theorem upheld_step {pipelineId : String} (distinct : (plan.stages.map PipelineStage.id).Nodup)
    (upheld : plan.Upheld pipelineId journal run) (undisturbed : Undisturbed record)
    (reads : plan.read run record = some next) :
    plan.Upheld pipelineId (journal ++ [record]) next where
  going := by
    obtain ⟨_, _, moved, _, rfl⟩ := read_cases reads
    exact undisturbed.going
  stands := stands_step upheld.going undisturbed upheld.stands reads
  spared := spared_step upheld.stands upheld.spared reads
  settled := settled_step upheld.settled reads
  checkpointed := checkpointed_step distinct upheld.stands upheld.checkpointed reads

/-- The delay before the attempt that follows this failure cannot be computed. -/
def Overflows (plan : Plan F ω ν) (record : HookRecord F ν) : Prop :=
  ∃ stage ∈ plan.stages, ∃ attempt lastError exc,
    record.call = .emitted (.stageFailed stage.id attempt lastError) ∧
    stage.retryPolicy.shouldRetry attempt = true ∧ plan.delayFor stage (attempt + 1) = .error exc

theorem judged_raised_iff (plan : Plan F ω ν) (run : RunState ω ν) (stage : PipelineStage ω ν)
    (attempt : Nat) (lastError : String) (todo : List (PipelineStage ω ν)) :
    (plan.judged run stage attempt lastError todo).control = .ended .raised ↔
      stage.retryPolicy.shouldRetry attempt = true ∧
        ∃ exc, plan.delayFor stage (attempt + 1) = .error exc := by
  unfold judged
  split
  · rename_i retried
    rw [and_iff_right retried]
    show plan.retrying stage (attempt + 1) todo = .ended .raised ↔ _
    unfold retrying
    split
    · rename_i exc delay
      exact iff_of_true rfl ⟨exc, delay⟩
    · rename_i seconds delay
      refine iff_of_false ?_ (fun raised => raised.elim (fun _ same => nomatch delay.symm.trans same))
      split <;> exact nofun
  · rename_i final
    exact iff_of_false nofun (fun holds => final holds.1)

theorem raised_iff_overflows (distinct : (plan.stages.map PipelineStage.id).Nodup)
    (undisturbed : Undisturbed record) (stands : plan.Stands journal run.results run.control)
    (reads : plan.read run record = some next) :
    next.control = .ended .raised ↔ plan.Overflows record := by
  obtain ⟨_, _, moved, moves, rfl⟩ := read_cases reads
  have answered := undisturbed.answered
  obtain ⟨call, found, left, shared⟩ := record
  have other (differs : ∀ stageId attempt lastError,
      call ≠ .emitted (.stageFailed stageId attempt lastError)) :
      ¬ plan.Overflows ⟨call, found, left, shared⟩ := by
    rintro ⟨stage, _, attempt, lastError, _, same, _⟩
    exact differs _ _ _ same
  cases moves with
  | @failed stage attempt lastError todo there =>
      rw [there] at stands
      obtain ⟨⟨⟨done, listed⟩, _⟩, _⟩ := stands
      have member : stage ∈ plan.stages := by
        rw [listed.split]
        exact List.mem_append_right _ List.mem_cons_self
      refine (plan.judged_raised_iff run stage attempt lastError todo).trans ?_
      constructor
      · rintro ⟨retried, exc, delay⟩
        exact ⟨stage, member, attempt, lastError, exc, rfl, retried, delay⟩
      · rintro ⟨second, inside, _, _, exc, same, retried, delay⟩
        have key := (HookCall.emitted.inj same)
        injection key with sameId sameAttempt _
        obtain rfl := List.inj_on_of_nodup_map distinct member inside sameId
        obtain rfl := sameAttempt
        exact ⟨retried, exc, delay⟩
  | @validated stage todo there _ answer =>
      refine iff_of_false ?_ (other nofun)
      rcases answer with exc | (_ | _)
      · exact nomatch answered
      · exact nofun
      · exact nofun
  | @executed stage attempt todo there answer =>
      refine iff_of_false (fun raised => ?_) (other nofun)
      rcases tried_cases stage attempt todo answer with ⟨result, control⟩ | ⟨lastError, control⟩
      · exact nomatch control.symm.trans raised
      · exact nomatch control.symm.trans raised
  | _ => exact iff_of_false nofun (other nofun)

variable {pipelineId : String} {records : List (HookRecord F ν)} {last : RunState ω ν}

/-- An undisturbed run keeps this to its end. -/
theorem upheld_run (distinct : (plan.stages.map PipelineStage.id).Nodup)
    (upheld : plan.Upheld pipelineId [] run) (undisturbed : ∀ record ∈ records, Undisturbed record)
    (reads : plan.monitor.readAll run records = some last) :
    plan.Upheld pipelineId records last :=
  plan.monitor.readAll_keeps (plan.Upheld pipelineId) Undisturbed []
    (fun _ _ _ _ upheld => upheld_step distinct upheld) upheld undisturbed reads

/-- The undisturbed runs that raise are those in which a delay overflows. -/
theorem raised_iff (distinct : (plan.stages.map PipelineStage.id).Nodup)
    (upheld : plan.Upheld pipelineId [] run) (running : run.control ≠ .ended .raised)
    (undisturbed : ∀ record ∈ records, Undisturbed record)
    (reads : plan.monitor.readAll run records = some last) :
    last.control = .ended .raised ↔ ∃ record ∈ records, plan.Overflows record :=
  plan.monitor.readAll_final_iff (plan.Upheld pipelineId) Undisturbed []
    (fun run => run.control = .ended .raised) plan.Overflows
    (fun _ _ _ _ upheld => upheld_step distinct upheld) (fun _ _ ended => read_ended ended)
    (fun _ _ _ _ upheld undisturbed => raised_iff_overflows distinct undisturbed upheld.stands)
    upheld running undisturbed reads

end Steps

end Plan

end LexMind.Pipelines
