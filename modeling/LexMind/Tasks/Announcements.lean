import LexMind.Events.Transparency
import LexMind.Tasks.TaskExecutor

set_option autoImplicit false

/- Which calls of the task executor come to an event. -/
namespace LexMind.Tasks

open Lib Events

/-- The call ends before it comes to an event. -/
def TaskOperation.Quiet (state : TaskState) : TaskOperation → Prop
  | .execute execution => (state.tasks execution.ref).status ≠ .pending
  | .cancel execution => (state.tasks execution.ref).isTerminal = true
  | .executeBatch executions => ∀ first, executions.head? = some first →
      (state.tasks first.ref).status ≠ .pending
  | .register .. => True
  | .retry .. => True

namespace TaskExecutorService

variable {ref : TaskRef} {turn : Turn} {state : TaskState} {clock : Nat → Timestamp}

theorem call_onTask_stored {α : Type} (program : Py Task α) (bus : Option EventBus) :
    call (onTask (storedTask ref turn) program) ⟨state, bus⟩ =
      ((call program (state.tasks ref)).1,
        ⟨state.write ref (call program (state.tasks ref)).2, bus⟩) := by
  rw [call_onTask]
  rfl

theorem call_readTask_stored (bus : Option EventBus) :
    call (readTask (storedTask ref turn)) ⟨state, bus⟩ = (.ok (state.tasks ref), ⟨state, bus⟩) := by
  rw [call_readTask]
  rfl

section Plain

variable (ref) (turn) (clock)

theorem onTask_plain {α : Type} {program : Py Task α} (tame : Tame program) :
    Plain (onTask (storedTask ref turn) program) := Plain.onPart (fun _ _ => rfl) tame

theorem readTask_plain : Plain (readTask (storedTask ref turn)) := RaisesOnly.get.map _

theorem transitionTo_tame (target : TaskStatus) (now : Timestamp) :
    Tame (Task.transitionTo target now) :=
  RaisesOnly.get.bind fun _ => .ite (Tame.set _) (.throw trivial)

theorem publish_plain (event : EventObject) : Plain ((storedTask ref turn).publish event) :=
  Plain.emit event

/-- Whatever the handler raises becomes a value. -/
theorem handled_plain : Plain (Lib.attempt (storedTask ref turn).handle) := by
  rintro ⟨service, bus⟩ rfl
  rw [call_attempt]
  exact ⟨nofun, by simp [storedTask]⟩

theorem delay_plain (seconds : Rat) : Plain ((storedTask ref turn).delay seconds) := by
  dsimp only [storedTask]
  exact Plain.onService (.modify fun _ _ => trivial)

theorem afterHandler_plain (attempt : Nat) {again : Py (Wired TaskState) Unit}
    (repeats : Plain again) (outcome : Except PyExc String) :
    Plain (afterHandler (storedTask ref turn) clock attempt again outcome) := by
  cases outcome with
  | ok result =>
      refine (onTask_plain ref turn (.modify fun _ _ => trivial)).bind fun _ => ?_
      refine (onTask_plain ref turn (transitionTo_tame _ _)).bind fun _ => ?_
      exact (readTask_plain ref turn).bind fun _ => publish_plain ref turn _
  | error exc =>
      refine (onTask_plain ref turn (.modify fun _ _ => trivial)).bind fun _ => ?_
      refine (readTask_plain ref turn).bind fun task => .ite ?_ ?_
      · refine (publish_plain ref turn _).bind fun _ => (readTask_plain ref turn).bind fun _ => ?_
        exact (delay_plain ref turn _).bind fun _ => repeats
      · refine (onTask_plain ref turn (transitionTo_tame _ _)).bind fun _ => ?_
        exact (readTask_plain ref turn).bind fun _ => publish_plain ref turn _

theorem tryOnce_plain (attempt : Nat) {again : Py (Wired TaskState) Unit} (repeats : Plain again) :
    Plain (tryOnce (storedTask ref turn) clock attempt again) := by
  refine (onTask_plain ref turn (.modify fun _ _ => trivial)).bind fun _ => ?_
  refine (readTask_plain ref turn).bind fun _ => (publish_plain ref turn _).bind fun _ => ?_
  exact (handled_plain ref turn).bind fun outcome =>
    afterHandler_plain ref turn clock attempt repeats outcome

theorem attemptsFrom_plain (fuel attempt : Nat) :
    Plain (attemptsFrom (storedTask ref turn) clock fuel attempt) := by
  induction fuel generalizing attempt with
  | zero => exact tryOnce_plain ref turn clock attempt (.pure _)
  | succ fuel ih => exact tryOnce_plain ref turn clock attempt (ih (attempt + 1))

theorem find_plain (taskType : String) : Plain ((storedTask ref turn).find taskType) := by
  refine Plain.onService (Tame.onPart ?_)
  exact RaisesOnly.get.bind fun registered => .ite (.throw trivial) (.pure _)

theorem execute_plain : Plain (execute (storedTask ref turn) clock) := by
  refine (readTask_plain ref turn).bind fun task => .ite ?_ (.throw trivial)
  refine (publish_plain ref turn _).bind fun _ => (readTask_plain ref turn).bind fun _ => ?_
  refine (find_plain ref turn _).bind fun _ => ?_
  refine (onTask_plain ref turn (transitionTo_tame _ _)).bind fun _ => ?_
  exact (readTask_plain ref turn).bind fun _ => attemptsFrom_plain ref turn clock _ _

theorem cancel_plain : Plain (cancel (storedTask ref turn) clock) := by
  refine (readTask_plain ref turn).bind fun task => .ite (.throw trivial) ?_
  refine (onTask_plain ref turn (transitionTo_tame _ _)).bind fun _ => ?_
  exact (readTask_plain ref turn).bind fun _ => publish_plain ref turn _

end Plain

theorem program_refused {execution : Execution}
    (refused : (state.tasks execution.ref).status ≠ .pending) :
    ∃ exc, ∀ bus, call execution.program ⟨state, bus⟩ = (.error exc, ⟨state, bus⟩) := by
  refine ⟨.invalidTaskState ("Task " ++ (state.tasks execution.ref).taskId
    ++ " must be PENDING to execute, got " ++ (state.tasks execution.ref).status.value),
    fun bus => ?_⟩
  rw [Execution.program, call_bind, execute, call_bind, call_readTask_stored, andThen_ok,
    if_neg refused, call_throw, andThen_error]

/-- A pending task is announced before anything else. -/
theorem execute_announces (waiting : (state.tasks ref).status = .pending) :
    Announces (execute (storedTask ref turn) clock) state := by
  refine .later _ (fun bus => call_readTask_stored bus) ?_
  rw [if_pos waiting]
  exact (Announces.emit (domainEvent_unnamed _ _ _ rfl)).bind

theorem cancel_busFree (final : (state.tasks ref).isTerminal = true) :
    BusFree (cancel (storedTask ref turn) clock) state := by
  refine .raised (.invalidTaskState ("Cannot cancel task " ++ (state.tasks ref).taskId
    ++ " in state " ++ (state.tasks ref).status.value)) fun bus => ?_
  rw [cancel, call_bind, call_readTask_stored, andThen_ok, if_pos final, call_throw]

/-- The task is CANCELLED before its event is published. -/
theorem cancel_announces (unfinished : (state.tasks ref).isTerminal = false) :
    Announces (cancel (storedTask ref turn) clock) state := by
  have valid := Task.cancelled_mem_transitions unfinished
  have moved := Task.call_transitionTo .cancelled (clock 0) valid
  refine .later _ (fun bus => call_readTask_stored bus) ?_
  rw [unfinished, if_neg Bool.false_ne_true]
  refine .later _ (fun bus => by rw [call_onTask_stored, moved]) ?_
  refine .later _ (fun bus => call_readTask_stored bus) ?_
  exact Announces.emit (domainEvent_unnamed _ _ _ rfl)

theorem executeBatch_plain (executions : List Execution) : Plain (executeBatch executions) := by
  induction executions with
  | nil => exact .pure _
  | cons first rest ih =>
      have leads : Plain first.program := (execute_plain _ _ _).bind fun _ => .pure _
      exact leads.bind fun _ => ih.bind fun _ => .pure _

/-- A batch ends at a task that is refused. -/
theorem executeBatch_busFree {executions : List Execution}
    (refused : ∀ first, executions.head? = some first →
      (state.tasks first.ref).status ≠ .pending) :
    BusFree (executeBatch executions) state := by
  cases executions with
  | nil => exact .returned _
  | cons first rest =>
      obtain ⟨exc, raises⟩ := program_refused (refused first rfl)
      refine .raised exc fun bus => ?_
      rw [executeBatch, call_bind, raises, andThen_error]

theorem executeBatch_announces {first : Execution} {rest : List Execution}
    (waiting : (state.tasks first.ref).status = .pending) :
    Announces (executeBatch (first :: rest)) state :=
  Announces.bind (Announces.bind (execute_announces waiting))

end TaskExecutorService

section Classification

variable {state : TaskState} {made : TaskOperation}

theorem Task.retry_tame : Tame Task.retry :=
  RaisesOnly.get.bind fun _ => .ite (.modify fun _ _ => trivial) (.throw trivial)

theorem TaskRegistry.register_tame (taskType : String) (handlerGiven : Bool) :
    Tame (register taskType handlerGiven) := by
  refine .ite (.throw_bind trivial) (.ite (.throw_bind trivial) ?_)
  exact .modify fun _ _ => trivial

theorem TaskOperation.plain (made : TaskOperation) : Plain made.program := by
  cases made with
  | execute execution =>
      have leads := TaskExecutorService.execute_plain execution.ref execution.turn execution.clock
      exact (leads.bind fun _ => RaisesOnly.pure _).map _
  | cancel execution => exact (TaskExecutorService.cancel_plain _ _ _).map _
  | executeBatch executions => exact (TaskExecutorService.executeBatch_plain executions).map _
  | register taskType handlerGiven =>
      exact (Plain.onService (TaskRegistry.register_tame taskType handlerGiven).onPart).map _
  | retry execution => exact (TaskExecutorService.onTask_plain _ _ Task.retry_tame).map _

theorem TaskOperation.busFree (quiet : made.Quiet state) : BusFree made.program state := by
  cases made with
  | execute execution =>
      obtain ⟨exc, raises⟩ := TaskExecutorService.program_refused quiet
      exact (BusFree.raised exc raises).map _
  | cancel execution => exact (TaskExecutorService.cancel_busFree quiet).map _
  | executeBatch executions => exact (TaskExecutorService.executeBatch_busFree quiet).map _
  | register taskType handlerGiven => exact (BusFree.onService _).map _
  | retry execution =>
      exact BusFree.map _ ⟨_, _, TaskExecutorService.call_onTask_stored Task.retry⟩

theorem TaskOperation.announces (heard : ¬ made.Quiet state) : Announces made.program state := by
  cases made with
  | execute execution =>
      have waiting := not_not.mp heard
      exact (TaskExecutorService.execute_announces waiting).bind.map _
  | cancel execution =>
      exact (TaskExecutorService.cancel_announces (Bool.eq_false_iff.mpr heard)).map _
  | executeBatch executions =>
      unfold Quiet at heard
      push Not at heard
      obtain ⟨first, leads, waiting⟩ := heard
      obtain ⟨rest, rfl⟩ := List.head?_eq_some_iff.mp leads
      exact (TaskExecutorService.executeBatch_announces waiting).map _
  | register taskType handlerGiven => exact absurd trivial heard
  | retry execution => exact absurd trivial heard

theorem TaskOperation.transparent_iff {β : Type} (bus : EventBus) (state : TaskState)
    (uses : List (Use TaskState TaskOperation β)) :
    Transparent TaskOperation.program bus state uses ↔
      QuietRun TaskOperation.program TaskOperation.Quiet state uses := by
  refine Events.transparent_iff ?_ ?_ bus state uses
  · exact fun state made quiet => busFree quiet
  · exact fun state made unquiet => (announces unquiet).heard made.plain

end Classification

end LexMind.Tasks
