import LexMind.Lib.Run
import LexMind.Tasks.TaskExecutor
import Mathlib.Data.ENat.Lattice

set_option autoImplicit false

/- One task, executed while what the service asks of its collaborators is written down. -/
namespace LexMind.Tasks

open Lib Events TaskExecutorService

inductive Observation
  | emitted (event : EventObject)
  | handlerCalled
  | delayed (seconds : Rat)
  | cancelCalled
deriving DecidableEq

/-- The task, the registered types, what has been observed, and whatever the collaborators keep. -/
structure World (γ : Type) where
  task : Task
  registered : TaskRegistry
  trace : List Observation
  env : γ

/-- The bus, the handler of the task's type and the delay. -/
structure Collaborators (γ : Type) where
  publish : EventObject → Py (World γ) Unit
  handle : Py (World γ) String
  delay : Rat → Py (World γ) Unit

variable {γ : Type}

def observe (observation : Observation) : Py (World γ) Unit :=
  modify (fun world => { world with trace := world.trace ++ [observation] })

/-- The service, whose calls of its collaborators are observed. -/
def Collaborators.observed (collaborators : Collaborators γ) : Executor (World γ) where
  task := World.task
  write := fun world task => { world with task := task }
  find := fun taskType => onPart World.registered
    (fun world registered => { world with registered := registered }) (TaskRegistry.find taskType)
  publish := fun event => do
    observe (.emitted event)
    collaborators.publish event
  handle := do
    observe .handlerCalled
    collaborators.handle
  delay := fun seconds => do
    observe (.delayed seconds)
    collaborators.delay seconds
  task_write := fun _ _ => rfl

@[simp] theorem observed_task (collaborators : Collaborators γ) (world : World γ) :
    collaborators.observed.task world = world.task := rfl

@[simp] theorem observed_write (collaborators : Collaborators γ) (world : World γ) (task : Task) :
    collaborators.observed.write world task = { world with task := task } := rfl

theorem call_find_known (collaborators : Collaborators γ) (world : World γ) {taskType : String}
    (known : taskType ∈ world.registered) :
    call (collaborators.observed.find taskType) world = (.ok (), world) := by
  simp [Collaborators.observed, TaskRegistry.find, known]

theorem call_find_unknown (collaborators : Collaborators γ) (world : World γ) {taskType : String}
    (unknown : taskType ∉ world.registered) : ∃ exc,
    call (collaborators.observed.find taskType) world = (.error exc, world) := by
  simp [Collaborators.observed, TaskRegistry.find, unknown]

def World.start (task : Task) (registered : TaskRegistry) (env : γ) : World γ :=
  ⟨task, registered, [], env⟩

@[simp] theorem start_task (task : Task) (registered : TaskRegistry) (env : γ) :
    (World.start task registered env).task = task := rfl

@[simp] theorem start_trace (task : Task) (registered : TaskRegistry) (env : γ) :
    (World.start task registered env).trace = [] := rfl

namespace Observation

def isEvent (className : String) : Observation → Bool
  | emitted event => event.className = className
  | _ => false

def seconds? : Observation → Option Rat
  | delayed seconds => some seconds
  | _ => none

end Observation

def handlerCalls (trace : List Observation) : Nat := trace.count .handlerCalled

def eventsOf (className : String) (trace : List Observation) : Nat :=
  trace.countP (Observation.isEvent className)

def delays (trace : List Observation) : List Rat := trace.filterMap Observation.seconds?

/-- The collaborators neither act on the task nor raise, but that the handler answers with the given
outcomes, call by call. -/
structure Scripted (collaborators : Collaborators γ) (outcomes : Nat → Except PyExc String) :
    Prop where
  publishes : ∀ event world, ∃ env,
    call (collaborators.publish event) world = (.ok (), { world with env := env })
  handles : ∀ world, ∃ env,
    call collaborators.handle world = (outcomes (handlerCalls world.trace), { world with env := env })
  delays : ∀ seconds world, ∃ env,
    call (collaborators.delay seconds) world = (.ok (), { world with env := env })

section Turns

variable {collaborators : Collaborators γ} {outcomes : Nat → Except PyExc String}
  (scripted : Scripted collaborators outcomes) (clock : Nat → Timestamp)

include scripted

theorem call_publish (event : EventObject) (world : World γ) : ∃ env,
    call (collaborators.observed.publish event) world =
      (.ok (), { world with trace := world.trace ++ [.emitted event], env := env }) := by
  obtain ⟨env, published⟩ := scripted.publishes event
    { world with trace := world.trace ++ [.emitted event] }
  exact ⟨env, by simp [Collaborators.observed, observe, published]⟩

theorem call_delay (seconds : Rat) (world : World γ) : ∃ env,
    call (collaborators.observed.delay seconds) world =
      (.ok (), { world with trace := world.trace ++ [.delayed seconds], env := env }) := by
  obtain ⟨env, waited⟩ := scripted.delays seconds
    { world with trace := world.trace ++ [.delayed seconds] }
  exact ⟨env, by simp [Collaborators.observed, observe, waited]⟩

theorem call_handle (world : World γ) : ∃ env,
    call collaborators.observed.handle world = (outcomes (handlerCalls world.trace + 1),
      { world with trace := world.trace ++ [.handlerCalled], env := env }) := by
  obtain ⟨env, answered⟩ := scripted.handles { world with trace := world.trace ++ [.handlerCalled] }
  have counted : handlerCalls (world.trace ++ [.handlerCalled]) = handlerCalls world.trace + 1 := by
    simp [handlerCalls]
  exact ⟨env, by simp [Collaborators.observed, observe, answered, counted]⟩

/-- The task once its last attempt has failed. -/
def Task.givenUp (task : Task) (attempt : Nat) (exc : PyExc) (now : Timestamp) : Task :=
  Task.moved { task with attempts := attempt, errorMessage := exc.text } .failed now

/-- The task once an attempt has succeeded. -/
def Task.fulfilled (task : Task) (attempt : Nat) (result : String) (now : Timestamp) : Task :=
  Task.moved { task with attempts := attempt, result := result } .completed now

/-- What is seen of an attempt that fails within the limit. -/
def failedTry (task : Task) (attempt : Nat) : List Observation :=
  [.emitted (taskStarted task attempt), .handlerCalled, .emitted (taskRetried task (attempt + 1)),
    .delayed task.timeoutSeconds]

/-- An attempt as far as the handler's outcome. -/
theorem call_tryOnce (world : World γ) (attempt : Nat) (again : Py (World γ) Unit) : ∃ env,
    call (tryOnce collaborators.observed clock attempt again) world =
      call (afterHandler collaborators.observed clock attempt again
          (outcomes (handlerCalls world.trace + 1)))
        { world with
          task := { world.task with attempts := attempt }
          trace := world.trace ++ [.emitted (taskStarted world.task attempt), .handlerCalled]
          env := env } := by
  obtain ⟨env, published⟩ := call_publish scripted (taskStarted world.task attempt)
    { world with task := { world.task with attempts := attempt } }
  obtain ⟨env', handled⟩ := call_handle scripted
    { world with
      task := { world.task with attempts := attempt }
      trace := world.trace ++ [.emitted (taskStarted world.task attempt)]
      env := env }
  have counted : handlerCalls (world.trace ++ [.emitted (taskStarted world.task attempt)]) =
      handlerCalls world.trace := by
    simp [handlerCalls]
  have started : taskStarted { world.task with attempts := (attempt : Int) } attempt =
      taskStarted world.task attempt := rfl
  exact ⟨env', by simp [tryOnce, started, published, handled, counted]⟩

variable {world : World γ} (attempt : Nat) (again : Py (World γ) Unit)

theorem tryOnce_retries {exc : PyExc}
    (failed : outcomes (handlerCalls world.trace + 1) = .error exc)
    (within : attempt ≤ world.task.maxRetries) : ∃ env,
    call (tryOnce collaborators.observed clock attempt again) world =
      call again { world with
        task := { world.task with attempts := attempt, errorMessage := exc.text }
        trace := world.trace ++ failedTry world.task attempt
        env := env } := by
  obtain ⟨env, outcome⟩ := call_tryOnce scripted clock world attempt again
  obtain ⟨env', published⟩ := call_publish scripted (taskRetried world.task (attempt + 1))
    { world with
      task := { world.task with attempts := attempt, errorMessage := exc.text }
      trace := world.trace ++ [.emitted (taskStarted world.task attempt), .handlerCalled]
      env := env }
  obtain ⟨env'', waited⟩ := call_delay scripted world.task.timeoutSeconds
    { world with
      task := { world.task with attempts := attempt, errorMessage := exc.text }
      trace := world.trace ++ [.emitted (taskStarted world.task attempt), .handlerCalled,
        .emitted (taskRetried world.task (attempt + 1))]
      env := env' }
  have told : taskRetried { world.task with attempts := (attempt : Int), errorMessage := exc.text }
      (attempt + 1) = taskRetried world.task (attempt + 1) := rfl
  have seconds : (if world.task.timeoutSeconds = 0 then 0 else world.task.timeoutSeconds) =
      world.task.timeoutSeconds := by
    split
    · rename_i zero
      exact zero.symm
    · rfl
  refine ⟨env'', ?_⟩
  rw [outcome, failed, afterHandler]
  simp [within, told, published, seconds, waited, failedTry]

theorem tryOnce_gives_up {exc : PyExc}
    (failed : outcomes (handlerCalls world.trace + 1) = .error exc)
    (beyond : world.task.maxRetries < attempt) (running : world.task.status = .running) : ∃ env,
    call (tryOnce collaborators.observed clock attempt again) world =
      (.ok (), { world with
        task := world.task.givenUp attempt exc (clock 1)
        trace := world.trace ++ [.emitted (taskStarted world.task attempt), .handlerCalled,
          .emitted (taskFailed (world.task.givenUp attempt exc (clock 1)) attempt)]
        env := env }) := by
  obtain ⟨env, outcome⟩ := call_tryOnce scripted clock world attempt again
  obtain ⟨env', published⟩ := call_publish scripted
    (taskFailed (world.task.givenUp attempt exc (clock 1)) attempt)
    { world with
      task := world.task.givenUp attempt exc (clock 1)
      trace := world.trace ++ [.emitted (taskStarted world.task attempt), .handlerCalled]
      env := env }
  have moves : call (Task.transitionTo .failed (clock 1))
      { world.task with attempts := (attempt : Int), errorMessage := exc.text } =
        (.ok (), world.task.givenUp attempt exc (clock 1)) :=
    Task.call_transitionTo .failed (clock 1) (by simp [running, transitions])
  refine ⟨env', ?_⟩
  rw [outcome, failed, afterHandler]
  simp [not_le.mpr beyond, moves, published]

theorem tryOnce_completes {result : String}
    (returned : outcomes (handlerCalls world.trace + 1) = .ok result)
    (running : world.task.status = .running) : ∃ env,
    call (tryOnce collaborators.observed clock attempt again) world =
      (.ok (), { world with
        task := world.task.fulfilled attempt result (clock 1)
        trace := world.trace ++ [.emitted (taskStarted world.task attempt), .handlerCalled,
          .emitted (taskCompleted (world.task.fulfilled attempt result (clock 1)) result attempt)]
        env := env }) := by
  obtain ⟨env, outcome⟩ := call_tryOnce scripted clock world attempt again
  obtain ⟨env', published⟩ := call_publish scripted
    (taskCompleted (world.task.fulfilled attempt result (clock 1)) result attempt)
    { world with
      task := world.task.fulfilled attempt result (clock 1)
      trace := world.trace ++ [.emitted (taskStarted world.task attempt), .handlerCalled]
      env := env }
  have moves : call (Task.transitionTo .completed (clock 1))
      { world.task with attempts := (attempt : Int), result := result } =
        (.ok (), world.task.fulfilled attempt result (clock 1)) :=
    Task.call_transitionTo .completed (clock 1) (by simp [running, transitions])
  refine ⟨env', ?_⟩
  rw [outcome, returned, afterHandler]
  simp [moves, published]

end Turns

def errorText : Except PyExc String → String
  | .error exc => exc.text
  | .ok _ => ""

/-- The record that the last attempt leaves, where `message` is the error message it found. -/
def Concluded (limit : Int) (last : Nat) (message result : String) (task : Task) :
    Except PyExc String → Prop
  | .ok answer => task.status = .completed ∧ task.result = answer ∧ task.errorMessage = message
  | .error exc =>
      limit < last ∧ task.status = .failed ∧ task.errorMessage = exc.text ∧ task.result = result

/-- The loop makes the attempts from `first` to `last`, of which all but the last are retried. -/
structure Settled (outcomes : Nat → Except PyExc String) (first last : Nat) (before after : World γ) :
    Prop where
  ordered : first ≤ last
  retried : ∀ k, first ≤ k → k < last →
    k ≤ before.task.maxRetries ∧ ∃ exc, outcomes k = .error exc
  attempts : after.task.attempts = last
  maxRetries : after.task.maxRetries = before.task.maxRetries
  registered : after.registered = before.registered
  trace : ∃ event, (event.className = "TaskFailedEvent" ∨ event.className = "TaskCompletedEvent") ∧
    after.trace = before.trace ++
      (List.range' first (last - first)).flatMap (failedTry before.task) ++
        [.emitted (taskStarted before.task last), .handlerCalled, .emitted event]
  concluded : Concluded before.task.maxRetries last
    (if first = last then before.task.errorMessage else errorText (outcomes (last - 1)))
    before.task.result after.task (outcomes last)

section Loop

variable {collaborators : Collaborators γ} {outcomes : Nat → Except PyExc String}
  (scripted : Scripted collaborators outcomes) (clock : Nat → Timestamp)

/-- A task that is not PENDING is refused before anything else happens. -/
theorem execute_refused (collaborators : Collaborators γ) (clock : Nat → Timestamp)
    (world : World γ) (status : world.task.status ≠ .pending) : ∃ exc,
    call (execute collaborators.observed clock) world = (.error exc, world) :=
  ⟨_, by simp [execute, status]; rfl⟩

theorem handlerCalls_failedTry (trace : List Observation) (task : Task) (attempt : Nat) :
    handlerCalls (trace ++ failedTry task attempt) = handlerCalls trace + 1 := by
  simp [handlerCalls, failedTry]

/-- One more attempt before the others. -/
theorem Settled.retry {world after : World γ} {first last : Nat} {exc : PyExc} {env : γ}
    (within : first ≤ world.task.maxRetries) (failed : outcomes first = .error exc)
    (settled : Settled outcomes (first + 1) last { world with
      task := { world.task with attempts := first, errorMessage := exc.text }
      trace := world.trace ++ failedTry world.task first
      env := env } after) : Settled outcomes first last world after := by
  have later := settled.ordered
  have apart : first ≠ last := by omega
  refine ⟨by omega, fun k from_first before => ?_, settled.attempts, settled.maxRetries,
    settled.registered, ?_, ?_⟩
  · rcases Nat.eq_or_lt_of_le from_first with rfl | beyond
    · exact ⟨within, exc, failed⟩
    · exact settled.retried k beyond before
  · obtain ⟨event, named, trace⟩ := settled.trace
    have split : last - first = (last - (first + 1)) + 1 := by omega
    refine ⟨event, named, trace.trans ?_⟩
    rw [split, List.range'_succ, List.flatMap_cons]
    simp only [List.append_assoc]
    rfl
  · have concluded := settled.concluded
    rw [if_neg apart]
    split at concluded
    · rename_i same
      have previous : last - 1 = first := by omega
      rw [previous, failed]
      exact concluded
    · exact concluded

include scripted

/-- An attempt that is not retried. -/
theorem tryOnce_settles {attempt : Nat} (world : World γ) (again : Py (World γ) Unit)
    (counted : handlerCalls world.trace + 1 = attempt) (running : world.task.status = .running)
    (last : ∀ exc, outcomes attempt = .error exc → world.task.maxRetries < attempt) : ∃ after,
      call (tryOnce collaborators.observed clock attempt again) world = (.ok (), after) ∧
        Settled outcomes attempt attempt world after := by
  have none : ∀ k, attempt ≤ k → k < attempt → k ≤ world.task.maxRetries ∧
      ∃ exc, outcomes k = .error exc := fun k above below => absurd above (not_le.mpr below)
  cases outcome : outcomes attempt with
  | error exc =>
      obtain ⟨env, ended⟩ := tryOnce_gives_up scripted clock attempt again
        (counted ▸ outcome) (last exc outcome) running
      refine ⟨_, ended, le_refl _, none, ?_, ?_, rfl,
        ⟨taskFailed (world.task.givenUp attempt exc (clock 1)) attempt, .inl rfl, by simp⟩, ?_⟩
      · simp [Task.givenUp]
      · simp [Task.givenUp]
      · rw [outcome]
        simp [Concluded, last exc outcome, Task.givenUp]
  | ok result =>
      obtain ⟨env, ended⟩ := tryOnce_completes scripted clock attempt again
        (counted ▸ outcome) running
      refine ⟨_, ended, le_refl _, none, ?_, ?_, rfl,
        ⟨taskCompleted (world.task.fulfilled attempt result (clock 1)) result attempt, .inr rfl,
          by simp⟩, ?_⟩
      · simp [Task.fulfilled]
      · simp [Task.fulfilled]
      · rw [outcome]
        simp [Concluded, Task.fulfilled]

theorem attemptsFrom_settles (fuel attempt : Nat) (world : World γ)
    (counted : handlerCalls world.trace + 1 = attempt) (running : world.task.status = .running)
    (enough : world.task.maxRetries < attempt + fuel) : ∃ last after,
      call (attemptsFrom collaborators.observed clock fuel attempt) world = (.ok (), after) ∧
        Settled outcomes attempt last world after := by
  induction fuel generalizing attempt world with
  | zero =>
      obtain ⟨after, ended, settled⟩ := tryOnce_settles scripted clock world (pure ()) counted running
        (fun _ _ => by simpa using enough)
      exact ⟨attempt, after, ended, settled⟩
  | succ fuel ih =>
      rw [attemptsFrom]
      by_cases last : ∀ exc, outcomes attempt = .error exc → world.task.maxRetries < attempt
      · obtain ⟨after, ended, settled⟩ := tryOnce_settles scripted clock world _ counted running last
        exact ⟨attempt, after, ended, settled⟩
      · push Not at last
        obtain ⟨exc, failed, within⟩ := last
        obtain ⟨env, retries⟩ := tryOnce_retries scripted clock attempt
          (attemptsFrom collaborators.observed clock fuel (attempt + 1)) (counted ▸ failed) within
        rw [retries]
        obtain ⟨last, after, ended, settled⟩ := ih (attempt + 1)
          { world with
            task := { world.task with attempts := attempt, errorMessage := exc.text }
            trace := world.trace ++ failedTry world.task attempt
            env := env }
          (by rw [handlerCalls_failedTry, counted]) running (by push_cast at enough ⊢; omega)
        exact ⟨last, after, ended, settled.retry within failed⟩

/-- A PENDING task whose type has no handler is announced, and that is all. -/
theorem execute_unknown (world : World γ) (pending : world.task.status = .pending)
    (unknown : world.task.taskType ∉ world.registered) : ∃ exc env,
    call (execute collaborators.observed clock) world = (.error exc,
      { world with trace := world.trace ++ [.emitted (taskSubmitted world.task)], env := env }) := by
  obtain ⟨env, published⟩ := call_publish scripted (taskSubmitted world.task) world
  obtain ⟨exc, missing⟩ := call_find_unknown collaborators
    { world with trace := world.trace ++ [.emitted (taskSubmitted world.task)], env := env } unknown
  exact ⟨exc, env, by simp [execute, runPending, pending, published, missing]⟩

/-- A PENDING task whose handler has not been called yet and is registered is run to its end. -/
theorem execute_settles (world : World γ) (pending : world.task.status = .pending)
    (known : world.task.taskType ∈ world.registered) (fresh : handlerCalls world.trace = 0) :
    ∃ env last after, call (execute collaborators.observed clock) world = (.ok (), after) ∧
      Settled outcomes 1 last { world with
        task := world.task.moved .running (clock 0)
        trace := world.trace ++ [.emitted (taskSubmitted world.task)]
        env := env } after := by
  obtain ⟨env, published⟩ := call_publish scripted (taskSubmitted world.task) world
  have moves : call (Task.transitionTo .running (clock 0)) world.task =
      (.ok (), world.task.moved .running (clock 0)) :=
    Task.call_transitionTo .running (clock 0) (by simp [pending, transitions])
  obtain ⟨last, after, ended, settled⟩ := attemptsFrom_settles scripted clock
    world.task.maxRetries.toNat 1 { world with
      task := world.task.moved .running (clock 0)
      trace := world.trace ++ [.emitted (taskSubmitted world.task)]
      env := env }
    (by simpa [handlerCalls] using fresh) rfl (by simp; omega)
  have found := call_find_known collaborators
    { world with trace := world.trace ++ [.emitted (taskSubmitted world.task)], env := env } known
  refine ⟨env, last, after, ?_, settled⟩
  simpa [execute, runPending, pending, published, found, moves] using ended

end Loop

end LexMind.Tasks
