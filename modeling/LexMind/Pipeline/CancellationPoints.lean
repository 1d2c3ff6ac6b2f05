import LexMind.Pipeline.RunFollowed

set_option autoImplicit false

namespace LexMind.Pipelines

open Lib

variable {F ω ν : Type}

/-- Whether the token is cancelled once these hooks have been called. -/
def tokenAfter (token : Bool) (records : List (HookRecord F ν)) : Bool :=
  records.foldl (fun _ record => record.left) token

/-- The cancelled event. -/
def HookCall.AnnouncesCancellation (call : HookCall F) : Prop :=
  ∃ pipelineId, call = .emitted (.pipelineCancelled pipelineId)

/-- What a cancellation owes, where the journal is at these hooks and these are still to come: no
`execute` begins, the run does not report completion, and the cancelled event is emitted. -/
structure Stopped (answer : Except PyExc PipelineResult) (front back : List (HookRecord F ν)) :
    Prop where
  noCall : ∀ record ∈ back, ∀ stage result, record.call ≠ .executed stage result
  incomplete : ∀ result, answer = .ok result → result.completed = false
  announced : ∃ record ∈ front ++ back, record.call.AnnouncesCancellation

namespace Plan

variable (plan : Plan F ω ν)

/-- A stage that is not completed already is still to come. -/
def Unfinished (todo : List (PipelineStage ω ν)) : Prop := ∃ stage ∈ todo, stage.id ∉ plan.completed

/-- The executor reads the token before it calls another `execute`, and there is a stage at whose
turn it does; or it is about to report the cancellation, or has done so. -/
def Interruptible : Control ω ν → Prop
  | .opening => plan.Unfinished plan.stages
  | .looping todo => todo ≠ []
  | .completing _ _ _ todo => plan.Unfinished todo
  | .saved _ todo => plan.Unfinished todo
  | .cancelling => True
  | .ended .cancelled => True
  | _ => False

end Plan

section Steps

variable {plan : Plan F ω ν} {run next : RunState ω ν} {record : HookRecord F ν}

theorem enter_ne_nil {completed : List StageId} {todo : List (PipelineStage ω ν)}
    {results : List StageResult} :
    (enter completed todo results).1 ≠ [] ↔ ∃ stage ∈ todo, stage.id ∉ completed := by
  induction todo generalizing results with
  | nil =>
      exact iff_of_false (fun differs => differs rfl)
        (fun found => found.elim (fun _ holds => List.not_mem_nil holds.1))
  | cons stage rest ih =>
      by_cases inside : stage.id ∈ completed
      · rw [enter_known inside, ih, List.exists_mem_cons_iff]
        exact (or_iff_right (fun outside => outside inside)).symm
      · rw [enter_new inside]
        exact iff_of_true (List.cons_ne_nil _ _) ⟨stage, List.mem_cons_self, inside⟩

theorem Plan.interruptible_loop (plan : Plan F ω ν) (run : RunState ω ν)
    (todo : List (PipelineStage ω ν)) :
    plan.Interruptible (run.loop plan.completed todo).control ↔ plan.Unfinished todo := by
  have control : (run.loop plan.completed todo).control =
      .looping (enter plan.completed todo run.results).1 := rfl
  rw [control]
  exact enter_ne_nil

theorem Plan.gated_control (plan : Plan F ω ν) (run : RunState ω ν) (stage : PipelineStage ω ν)
    (todo : List (PipelineStage ω ν)) (answer : Except PyExc Bool) :
    (plan.gated run stage todo answer).control ≠ .ended .cancelled := by
  unfold gated
  split <;> exact nofun

/-- After a failed attempt the token is not read: the executor tries again, or gives the stage up. -/
theorem Plan.judged_control (plan : Plan F ω ν) (run : RunState ω ν)
    (stage : PipelineStage ω ν) (attempt : Nat) (lastError : String) (todo : List (PipelineStage ω ν)) :
    ¬ plan.Interruptible (plan.judged run stage attempt lastError todo).control := by
  unfold judged
  split
  · show ¬ plan.Interruptible (plan.retrying stage (attempt + 1) todo)
    unfold retrying
    split
    · exact id
    · split <;> exact id
  · exact id

/-- Only the cancelled event ends a run as cancelled, and it does so wherever it is emitted. -/
theorem cancelled_iff_announces (reads : plan.read run record = some next) :
    next.control = .ended .cancelled ↔ record.call.AnnouncesCancellation := by
  obtain ⟨_, _, moved, moves, rfl⟩ := Plan.read_cases reads
  obtain ⟨call, found, left, shared⟩ := record
  have other {event : HookCall F} (differs : ∀ pipelineId, event ≠ .emitted (.pipelineCancelled pipelineId)) :
      ¬ event.AnnouncesCancellation := fun announces => announces.elim differs
  cases moves with
  | stopped there cancelled pipelineId => exact iff_of_true rfl ⟨pipelineId, rfl⟩
  | cancelled there pipelineId => exact iff_of_true rfl ⟨pipelineId, rfl⟩
  | validated there going answer => exact iff_of_false (plan.gated_control _ _ _ _) (other nofun)
  | executed there answer =>
      refine iff_of_false (fun ended => ?_) (other nofun)
      rcases Plan.tried_cases _ _ _ answer with ⟨result, control⟩ | ⟨lastError, control⟩
      · exact nomatch control.symm.trans ended
      · exact nomatch control.symm.trans ended
  | @failed stage attempt lastError todo there =>
      refine iff_of_false (fun ended => ?_) (other nofun)
      have control : (plan.judged run stage attempt lastError todo).control = .ended .cancelled :=
        ended
      have passed := plan.judged_control run stage attempt lastError todo
      rw [control] at passed
      exact passed trivial
  | _ => exact iff_of_false nofun (other nofun)

/-- With a cancelled token, the executor does not get past the next turn of the loop. -/
theorem interruptible_step (cancelled : run.cancelled = true)
    (there : plan.Interruptible run.control) (reads : plan.read run record = some next) :
    plan.Interruptible next.control ∧ ∀ stage result, record.call ≠ .executed stage result := by
  obtain ⟨_, _, moved, moves, rfl⟩ := Plan.read_cases reads
  obtain ⟨call, found, left, shared⟩ := record
  cases moves with
  | opened control pipelineId =>
      rw [control] at there
      exact ⟨(plan.interruptible_loop run _).mpr there, fun _ _ same => by cases same⟩
  | completed control pipelineId =>
      rw [control] at there
      exact absurd rfl there
  | stopped control _ pipelineId => exact ⟨trivial, fun _ _ same => by cases same⟩
  | validated control going answer => exact absurd (going.symm.trans cancelled) Bool.false_ne_true
  | passed control =>
      rw [control] at there
      exact ⟨there, fun _ _ same => by cases same⟩
  | saved control =>
      rw [control] at there
      exact ⟨(plan.interruptible_loop run _).mpr there, fun _ _ same => by cases same⟩
  | cancelled control pipelineId => exact ⟨trivial, fun _ _ same => by cases same⟩
  | started control =>
      rw [control] at there
      exact there.elim
  | executed control answer =>
      rw [control] at there
      exact there.elim
  | failed control =>
      rw [control] at there
      exact there.elim
  | waited control seconds =>
      rw [control] at there
      exact there.elim
  | rolledBack control answer =>
      rw [control] at there
      exact there.elim
  | reported control pipelineId =>
      rw [control] at there
      exact there.elim

/-- Elsewhere it gets to an `execute`, or to an end, without having read the token. -/
theorem uninterruptible_step (cancelled : run.cancelled = true)
    (there : ¬ plan.Interruptible run.control) (reads : plan.read run record = some next) :
    (∃ stage result, record.call = .executed stage result) ∨
      ¬ plan.Interruptible next.control := by
  obtain ⟨_, _, moved, moves, rfl⟩ := Plan.read_cases reads
  obtain ⟨call, found, left, shared⟩ := record
  cases moves with
  | opened control pipelineId =>
      rw [control] at there
      exact .inr (fun todo => there ((plan.interruptible_loop run _).mp todo))
  | completed control pipelineId => exact .inr id
  | stopped control _ pipelineId =>
      rw [control] at there
      exact absurd (List.cons_ne_nil _ _) there
  | validated control going answer => exact absurd (going.symm.trans cancelled) Bool.false_ne_true
  | started control => exact .inr id
  | executed control answer => exact .inl ⟨_, answer, rfl⟩
  | passed control =>
      rw [control] at there
      exact .inr there
  | failed control => exact .inr (plan.judged_control _ _ _ _ _)
  | waited control seconds => exact .inr id
  | saved control =>
      rw [control] at there
      exact .inr (fun todo => there ((plan.interruptible_loop run _).mp todo))
  | rolledBack control answer => exact .inr id
  | reported control pipelineId => exact .inr id
  | cancelled control pipelineId =>
      rw [control] at there
      exact absurd trivial there

/-- A run that is cancelled is so by the event, wherever in the journal it is. -/
theorem cancelled_iff_announced {last : RunState ω ν} {records : List (HookRecord F ν)}
    (running : run.control ≠ .ended .cancelled)
    (reads : plan.monitor.readAll run records = some last) :
    last.control = .ended .cancelled ↔ ∃ record ∈ records, record.call.AnnouncesCancellation :=
  plan.monitor.readAll_final_iff (fun _ _ => True) (fun _ => True) []
    (fun run => run.control = .ended .cancelled) (fun record => record.call.AnnouncesCancellation)
    (fun _ _ _ _ _ _ _ => trivial) (fun _ _ ended => Plan.read_ended ended)
    (fun _ _ _ _ _ _ step => cancelled_iff_announces step) trivial running (fun _ _ => trivial)
    reads

theorem readAll_token {last : RunState ω ν} {records : List (HookRecord F ν)}
    (reads : plan.monitor.readAll run records = some last) :
    last.cancelled = tokenAfter run.cancelled records := by
  induction records generalizing run with
  | nil =>
      cases reads
      rfl
  | cons record records ih =>
      obtain ⟨next, step, rest⟩ := Monitor.readAll_cons_eq_some _ reads
      obtain ⟨_, _, moved, _, rfl⟩ := Plan.read_cases step
      exact ih rest

/-- From an interruptible point on no `execute` begins, and the run stays interruptible. -/
theorem interruptible_run {last : RunState ω ν} {records : List (HookRecord F ν)}
    (cancelled : run.cancelled = true) (there : plan.Interruptible run.control)
    (reads : plan.monitor.readAll run records = some last) :
    plan.Interruptible last.control ∧
      ∀ record ∈ records, ∀ stage result, record.call ≠ .executed stage result := by
  induction records generalizing run with
  | nil =>
      cases reads
      exact ⟨there, fun _ inside => absurd inside List.not_mem_nil⟩
  | cons record records ih =>
      obtain ⟨next, step, rest⟩ := Monitor.readAll_cons_eq_some _ reads
      obtain ⟨here, quiet⟩ := interruptible_step cancelled there step
      obtain ⟨after, later⟩ := ih (Plan.read_keeps_token cancelled step) here rest
      exact ⟨after, List.forall_mem_cons.mpr ⟨quiet, later⟩⟩

/-- From any other point on an `execute` begins, or the run ends uninterruptible. -/
theorem uninterruptible_run {last : RunState ω ν} {records : List (HookRecord F ν)}
    (cancelled : run.cancelled = true) (there : ¬ plan.Interruptible run.control)
    (reads : plan.monitor.readAll run records = some last) :
    (∃ record ∈ records, ∃ stage result, record.call = .executed stage result) ∨
      ¬ plan.Interruptible last.control := by
  induction records generalizing run with
  | nil =>
      cases reads
      exact .inr there
  | cons record records ih =>
      obtain ⟨next, step, rest⟩ := Monitor.readAll_cons_eq_some _ reads
      rw [List.exists_mem_cons_iff]
      rcases uninterruptible_step cancelled there step with begun | here
      · exact .inl (.inl begun)
      · rcases ih (Plan.read_keeps_token cancelled step) here rest with later | after
        · exact .inl (.inr later)
        · exact .inr after

end Steps

section Points

variable (surroundings : Surroundings F ω ν) (pipeline : TokenPipeline ω ν) (resume : Bool)
  (context : PipelineContext ω ν) (store : CheckpointStore ν)

/-- Where the executor stands once these hooks have been called. -/
def Surroundings.standing (pipeline : Pipeline ω ν) (front : List (HookRecord F ν)) :
    Option (RunState ω ν) :=
  (surroundings.planOf pipeline resume context store).monitor.readAll
    (.start context store resume) front

variable {surroundings pipeline resume context store}

/-- An invalid pipeline is refused before any hook is called. -/
theorem journal_invalid {exc : PyExc} (invalid : pipeline.toPipeline.validate = .error exc) :
    surroundings.journal pipeline.toPipeline resume context store = [] := by
  have refused : (pipeline.toPipeline.journaled F).validate = .error exc :=
    pipeline.toPipeline.validate_journaled.trans invalid
  rw [Surroundings.journal, Surroundings.run, execute, call_bind, call_check, refused]
  rfl

theorem RunEnds.cancelled_of_interruptible {plan : Plan F ω ν}
    {answer : Except PyExc PipelineResult} {execution : Execution (Journaled F ω ν) ν}
    {last : RunState ω ν} (ends : RunEnds context answer execution last)
    (there : plan.Interruptible last.control) :
    last.control = .ended .cancelled ∧
      ∀ result, answer = .ok result → result.completed = false := by
  have outcome := ends.outcome
  cases answer with
  | error exc =>
      rw [outcome] at there
      exact there.elim
  | ok result =>
      obtain ⟨fate, control, _, rfl⟩ := outcome
      rw [control] at there ⊢
      cases fate with
      | cancelled => exact ⟨rfl, fun _ same => Except.ok.inj same ▸ rfl⟩
      | completed => exact there.elim
      | failed => exact there.elim
      | raised => exact there.elim

/-- A cancellation is observed exactly at the points from which the executor reads the token before
it calls another `execute`: before a stage, and in one that succeeds, if a stage that is not
completed already is still to come. -/
theorem cancellation_iff (front back : List (HookRecord F ν))
    (whole : surroundings.journal pipeline.toPipeline resume context store = front ++ back)
    (token : tokenAfter context.cancelled front = true) :
    Stopped (surroundings.run pipeline.toPipeline resume context store).1 front back ↔
      pipeline.toPipeline.validate = .ok () ∧
        ∃ run, surroundings.standing resume context store pipeline.toPipeline front = some run ∧
          (surroundings.planOf pipeline.toPipeline resume context store).Interruptible
            run.control := by
  cases valid : pipeline.toPipeline.validate with
  | error exc =>
      rw [journal_invalid valid] at whole
      refine iff_of_false (fun stopped => ?_) (fun holds => nomatch holds.1)
      obtain ⟨record, inside, _⟩ := stopped.announced
      rw [← whole] at inside
      exact List.not_mem_nil inside
  | ok _ =>
      rw [and_iff_right rfl]
      obtain ⟨last, reads, ends⟩ :=
        run_followed surroundings valid pipeline.keeps resume context store
      rw [whole] at reads
      obtain ⟨middle, before, after⟩ := (Monitor.readAll_append_eq_some _).mp reads
      have cancelled : middle.cancelled = true := (readAll_token before).trans token
      have opening : (RunState.start context store resume).control ≠ .ended .cancelled := by
        intro same
        cases same
      have announced := cancelled_iff_announced opening reads
      have here : (∃ run, surroundings.standing resume context store pipeline.toPipeline front =
          some run ∧ (surroundings.planOf pipeline.toPipeline resume context store).Interruptible
            run.control) ↔
          (surroundings.planOf pipeline.toPipeline resume context store).Interruptible
            middle.control := by
        rw [Surroundings.standing, before]
        constructor
        · rintro ⟨run, same, there⟩
          cases same
          exact there
        · exact fun there => ⟨middle, rfl, there⟩
      rw [here]
      constructor
      · intro stopped
        by_contra elsewhere
        rcases uninterruptible_run cancelled elsewhere after with
          ⟨record, inside, stage, result, begun⟩ | beyond
        · exact stopped.noCall record inside stage result begun
        · rw [announced.mpr stopped.announced] at beyond
          exact beyond trivial
      · intro there
        obtain ⟨interruptible, quiet⟩ := interruptible_run cancelled there after
        obtain ⟨final, incomplete⟩ := ends.cancelled_of_interruptible interruptible
        exact ⟨quiet, incomplete, announced.mp final⟩

end Points

/-- An `emit` and a `sleep` that do nothing. -/
def calm : Surroundings Int Nat Unit where
  floats := wholeFloats
  backoff _ := ⟨0, 60, 2⟩
  emit _ context := context
  sleep _ context := context
  emit_keeps _ _ cancelled := cancelled
  sleep_keeps _ _ cancelled := cancelled

/-- A stage that cancels the run it is in. Its first attempt fails, and a second one is allowed. -/
def interrupting : PipelineStage Nat Unit where
  id := .ocr
  dependencies := []
  retryPolicy := ⟨.immediate, 2⟩
  validate := pure true
  execute := do
    let context ← get
    set { context with cancelled := true, world := context.world + 1 }
    return if context.world = 0 then .failed .ocr "interrupted" else .ok .ocr
  rollback := pure ()

def interruptingPipeline : TokenPipeline Nat Unit where
  registry := ⟨[interrupting], by decide⟩
  order := [.ocr]
  keeps stage inside := by
    obtain rfl := List.mem_singleton.mp inside
    exact ⟨fun _ cancelled => cancelled, fun _ _ => rfl, fun _ cancelled => cancelled⟩

def firstContext (cancelled : Bool) : PipelineContext Nat Unit :=
  ⟨"run", "doc", cancelled, none, .empty, ∅, 0⟩

def interruptedAnswer (cancelled : Bool) : Except PyExc PipelineResult :=
  (calm.run interruptingPipeline.toPipeline false (firstContext cancelled) .empty).1

def interruptedJournal (cancelled : Bool) : List (HookRecord Int Unit) :=
  calm.journal interruptingPipeline.toPipeline false (firstContext cancelled) .empty

theorem interruptingPipeline_valid : interruptingPipeline.toPipeline.validate = .ok () := by
  decide +kernel

/-- A stage that succeeds and does nothing else. -/
def passing (id : StageId) (dependencies : List StageId) : PipelineStage Nat Unit :=
  { interrupting with id := id, dependencies := dependencies, execute := return .ok id }

theorem passing_keeps (id : StageId) (dependencies : List StageId) :
    (passing id dependencies).KeepsToken :=
  ⟨fun _ cancelled => cancelled, fun _ cancelled => cancelled, fun _ cancelled => cancelled⟩

/-- Two stages, of which the second needs the first. -/
def twoStages : TokenPipeline Nat Unit where
  registry := ⟨[passing .ocr [], passing .parser [.ocr]], by decide⟩
  order := [.ocr, .parser]
  keeps stage inside := by
    rcases List.mem_cons.mp inside with rfl | last
    · exact passing_keeps _ _
    · exact List.mem_singleton.mp last ▸ passing_keeps _ _

/-- Whoever hears of a checkpoint cancels the run. -/
def stopping : Surroundings Int Nat Unit :=
  { calm with
    emit := fun event context =>
      match event with
      | .checkpointCreated _ => { context with cancelled := true }
      | _ => context
    emit_keeps := fun event context cancelled => by
      cases event with
      | checkpointCreated => rfl
      | _ => exact cancelled }

def stoppedJournal : List (HookRecord Int Unit) :=
  stopping.journal twoStages.toPipeline false (firstContext false) .empty

/-- Cancelled before it starts, a run stops at its first stage; cancelled between two stages, at
the second one. -/
theorem cancelled_in_time :
    Stopped (interruptedAnswer true) [] (interruptedJournal true) ∧
      Stopped (stopping.run twoStages.toPipeline false (firstContext false) .empty).1
        (stoppedJournal.take 6) (stoppedJournal.drop 6) := by
  constructor
  · have standing : calm.standing false (firstContext true) .empty interruptingPipeline.toPipeline
        [] = some (.start (firstContext true) .empty false) := Monitor.readAll_nil _ _
    have unfinished : (calm.planOf interruptingPipeline.toPipeline false (firstContext true)
        .empty).Unfinished interruptingPipeline.toPipeline.stages := by
      refine ⟨interrupting, ?_, List.not_mem_nil⟩
      exact List.mem_filterMap.mpr ⟨.ocr, List.mem_singleton_self _, rfl⟩
    have token : tokenAfter (firstContext true).cancelled ([] : List (HookRecord Int Unit)) = true :=
      rfl
    exact (cancellation_iff [] (interruptedJournal true) (List.nil_append _).symm token).mpr
      ⟨interruptingPipeline_valid, _, standing, unfinished⟩
  · have between : (stopping.standing false (firstContext false) .empty twoStages.toPipeline
        (stoppedJournal.take 6)).map (fun run => match run.control with
          | .looping todo => todo.length
          | _ => 0) = some 1 := by decide +kernel
    obtain ⟨run, standing, length⟩ := Option.map_eq_some_iff.mp between
    have interruptible : (stopping.planOf twoStages.toPipeline false (firstContext false)
        .empty).Interruptible run.control := by
      cases control : run.control with
      | looping todo =>
          rw [control] at length
          rintro rfl
          cases length
      | _ =>
          rw [control] at length
          cases length
    have whole := (List.take_append_drop 6 stoppedJournal).symm
    exact (cancellation_iff _ _ whole (by decide +kernel)).mpr
      ⟨by decide +kernel, run, standing, interruptible⟩

/-- Cancelled in its first attempt, the stage is executed again, and the run reports completion. -/
theorem retried_after_cancellation :
    tokenAfter false ((interruptedJournal false).take 4) = true ∧
      ¬ Stopped (interruptedAnswer false) ((interruptedJournal false).take 4)
        ((interruptedJournal false).drop 4) := by
  have token : tokenAfter false ((interruptedJournal false).take 4) = true := by decide +kernel
  have completed : interruptedAnswer false =
      .ok ⟨"run", "doc", [{ StageResult.ok .ocr with attempts := 2 }], true⟩ := by
    decide +kernel
  refine ⟨token, fun stopped => ?_⟩
  have incomplete := stopped.incomplete _ completed
  cases incomplete

end LexMind.Pipelines
