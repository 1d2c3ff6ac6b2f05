import LexMind.Events.EventBus
import LexMind.Scheduler.JobRepository

set_option autoImplicit false

namespace LexMind.Scheduler

open Lib Events

/- Lifecycle events, each with the slots its class adds. -/

def jobCreated (job : Job) (workspaceId jobType : String) : EventObject :=
  domainEvent "JobCreated" job.id [("workspace_id", .str workspaceId), ("job_type", .str jobType)]

def jobStarted (job : Job) : EventObject :=
  domainEvent "JobStarted" job.id
    [("workspace_id", .str job.workspaceId), ("job_type", .str job.jobType)]

def jobCompleted (job : Job) : EventObject :=
  domainEvent "JobCompleted" job.id
    [("workspace_id", .str job.workspaceId), ("job_type", .str job.jobType),
      ("result", .str job.result)]

def jobFailed (job : Job) : EventObject :=
  domainEvent "JobFailed" job.id
    [("workspace_id", .str job.workspaceId), ("job_type", .str job.jobType),
      ("error_message", .str job.errorMessage)]

def jobCancelled (job : Job) : EventObject :=
  domainEvent "JobCancelled" job.id
    [("workspace_id", .str job.workspaceId), ("job_type", .str job.jobType)]

/-- The shared repository and the job types the executor has a handler for. -/
structure SchedulerState where
  store : JobStore
  registered : List String

/-- What the executor was constructed with as its bus: the object that the scheduler was given too,
or one of its own, or none. -/
inductive ExecutorBus
  | shared
  | own (bus : Option EventBus)

/-- The bus that the executor publishes on, by the one that the scheduler has. -/
def ExecutorBus.heard (executorBus : ExecutorBus) (bus : Option EventBus) : Option EventBus :=
  match executorBus with
  | .shared => bus
  | .own other => other

/-- A scheduler with its executor. -/
structure Scheduling where
  state : SchedulerState
  executorBus : ExecutorBus

abbrev SchedulerPy (α : Type) := Py (Wired Scheduling) α

/-- A call of the repository. -/
def onRepo {α : Type} (program : Py JobStore α) : SchedulerPy α :=
  onPart (fun wired => wired.service.state.store)
    (fun wired store => { wired with service :=
      { wired.service with state := { wired.service.state with store := store } } }) program

def observe (event : Observation) : SchedulerPy Unit :=
  onRepo (modify (fun store => store.observe event))

/-- What a handler does when it is called: it returns a result or raises a text. -/
abbrev HandlerOutcome := Except String String

/-- The successive readings of `datetime.now(UTC)` during one call. -/
abbrev Clock := Nat → Timestamp

namespace JobQueue

def enqueue (job : Job) : SchedulerPy Job := do
  if job.status ≠ .pending then
    throw (.valueError ("Can only enqueue PENDING jobs, got " ++ job.status.value))
  match ← onRepo (JobRepository.getById job.id) with
  | some _ => onRepo (JobRepository.update job)
  | none => onRepo (JobRepository.create job)

/-- The first pending row is read; nothing is removed. -/
def dequeue (scan : Arrangement Job) : SchedulerPy (Option Job) :=
  return (← onRepo (JobRepository.listPending scan)).head?

def size : SchedulerPy Nat := onRepo JobRepository.countPending

def isEmpty : SchedulerPy Bool := return (← size) = 0

end JobQueue

namespace JobExecutor

/-- The executor's own `_event_bus`. -/
def bus (wired : Wired Scheduling) : Option EventBus := wired.service.executorBus.heard wired.bus

/-- The handlers of the executor, by their job types. -/
def onHandlers (change : List String → List String) : SchedulerPy Unit :=
  modify (fun wired => { wired with service := { wired.service with state :=
    { wired.service.state with registered := change wired.service.state.registered } } })

def register (jobType : String) : SchedulerPy Unit := onHandlers (List.insert jobType)

def unregister (jobType : String) : SchedulerPy Unit := onHandlers (List.filter (· ≠ jobType))

/-- `_emit` of the executor, on its own bus. -/
def emit (event : EventObject) : SchedulerPy Unit := do
  match (← get).service.executorBus with
  | .shared => Events.emit event
  | .own none => pure ()
  | .own (some bus) =>
      let _ ← onPart (fun _ => bus)
        (fun wired after => { wired with service :=
          { wired.service with executorBus := .own (some after) } }) (EventBus.publish event)

def persist (job : Job) : SchedulerPy Unit := do
  match ← onRepo (JobRepository.getById job.id) with
  | some _ => let _ ← onRepo (JobRepository.update job)
  | none => let _ ← onRepo (JobRepository.create job)

/-- The body of the `try`: the job object as the body leaves it, and what the
body raised. The handler is given the job and does not modify it. -/
def tryHandler (running : Job) (outcome : HandlerOutcome) (now : Timestamp) :
    SchedulerPy (Job × Option PyExc) := do
  observe (.handled running.id)
  match outcome with
  | .error text => return (running, some (.callable text))
  | .ok result =>
      let resulted := { running with result := result }
      match resulted.transitionTo .completed now with
      | .error exc => return (resulted, some exc)
      | .ok done =>
          match ← attempt (emit (jobCompleted done)) with
          | .ok _ => return (done, none)
          | .error exc => return (done, some exc)

/-- The `except` clause when the body raised, then the last persist. -/
def finish (handled : Job) (raised : Option PyExc) (now : Timestamp) : SchedulerPy Job := do
  match raised with
  | none =>
      persist handled
      return handled
  | some exc =>
      let failed ← check ({ handled with errorMessage := exc.text }.transitionTo .failed now)
      emit (jobFailed failed)
      persist failed
      return failed

def execute (job : Job) (outcome : HandlerOutcome) (clock : Clock) : SchedulerPy Job := do
  if job.jobType ∉ (← get).service.state.registered then
    throw (.valueError ("No handler registered for job_type=" ++ pyRepr job.jobType))
  let running ← check (job.transitionTo .running (clock 0))
  emit (jobStarted running)
  persist running
  let (handled, raised) ← tryHandler running outcome (clock 1)
  finish handled raised (clock 1)

end JobExecutor

namespace JobScheduler

def submit (workspaceId jobType : String) (payload : List (String × String))
    (priority maxRetries : Int) (id : String) (clock : Clock) : SchedulerPy Job := do
  let job ← check (Job.create workspaceId jobType payload priority maxRetries id (clock 0) (clock 1))
  let _ ← JobQueue.enqueue job
  observe (.submitted job.id)
  emit (jobCreated job workspaceId jobType)
  return job

/-- What one round of work is given: the scan order of the database, what the
handler does and the clock. -/
structure Round where
  scan : Arrangement Job
  outcome : HandlerOutcome
  clock : Clock

def processNext (round : Round) : SchedulerPy (Option Job) := do
  match ← JobQueue.dequeue round.scan with
  | none => return none
  | some job => return some (← JobExecutor.execute job round.outcome round.clock)

/-- The loop, for as many iterations as there are rounds; `processAll_drains` says
how many are enough. -/
def processAll : List Round → SchedulerPy (List Job)
  | [] => pure []
  | round :: rest => do
      if ← JobQueue.isEmpty then return []
      let executed ← processNext round
      let later ← processAll rest
      return executed.toList ++ later

def retryJob (jobId : String) (clock : Clock) : SchedulerPy (Option Job) := do
  match ← onRepo (JobRepository.getById jobId) with
  | none => return none
  | some job =>
      if job.canRetry then
        let requeued ← check (job.retry (clock 0))
        let _ ← onRepo (JobRepository.update requeued)
        observe (.retried requeued.id)
        let _ ← JobQueue.enqueue requeued
        return some requeued
      else return none

def cancelJob (jobId : String) (clock : Clock) : SchedulerPy (Option Job) := do
  match ← onRepo (JobRepository.getById jobId) with
  | none => return none
  | some job =>
      if job.isTerminal then return none
      match job.transitionTo .cancelled (clock 0) with
      | .error _ => return none
      | .ok cancelled =>
          let _ ← onRepo (JobRepository.update cancelled)
          emit (jobCancelled cancelled)
          return some cancelled

def getJob (jobId : String) : SchedulerPy (Option Job) := onRepo (JobRepository.getById jobId)

def recoverPending (scan : Arrangement Job) : SchedulerPy (List Job) :=
  onRepo (JobRepository.listPending scan)

end JobScheduler

/-- The calls a scheduler and its executor answer. -/
inductive Operation
  | submit (workspaceId jobType : String) (payload : List (String × String))
      (priority maxRetries : Int) (id : String) (clock : Clock)
  | processNext (round : JobScheduler.Round)
  | processAll (rounds : List JobScheduler.Round)
  | retryJob (jobId : String) (clock : Clock)
  | cancelJob (jobId : String) (clock : Clock)
  | getJob (jobId : String)
  | recoverPending (scan : Arrangement Job)
  | register (jobType : String)
  | unregister (jobType : String)

inductive Answer
  | unit
  | job (found : Option Job)
  | jobs (all : List Job)
deriving DecidableEq, Repr

def Operation.program : Operation → SchedulerPy Answer
  | .submit workspaceId jobType payload priority maxRetries id clock =>
      (fun job => .job (some job)) <$>
        JobScheduler.submit workspaceId jobType payload priority maxRetries id clock
  | .processNext round => .job <$> JobScheduler.processNext round
  | .processAll rounds => .jobs <$> JobScheduler.processAll rounds
  | .retryJob jobId clock => .job <$> JobScheduler.retryJob jobId clock
  | .cancelJob jobId clock => .job <$> JobScheduler.cancelJob jobId clock
  | .getJob jobId => .job <$> JobScheduler.getJob jobId
  | .recoverPending scan => .jobs <$> JobScheduler.recoverPending scan
  | .register jobType => (fun _ => .unit) <$> JobExecutor.register jobType
  | .unregister jobType => (fun _ => .unit) <$> JobExecutor.unregister jobType

def schedulerStep (wired : Wired Scheduling) (operation : Operation) :
    Except PyExc Answer × Wired Scheduling :=
  call operation.program wired

end LexMind.Scheduler
