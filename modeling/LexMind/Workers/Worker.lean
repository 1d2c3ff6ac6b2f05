import LexMind.Scheduler.SchedulerCalls

set_option autoImplicit false

namespace LexMind.Workers

open Lib Events Scheduler

/- Worker events, each with the slots its class adds. -/

def taskAssigned (job : Job) : EventObject :=
  domainEvent "TaskAssigned" ""
    [("job_id", .str job.id), ("job_type", .str job.jobType),
      ("workspace_id", .str job.workspaceId)]

def taskCompleted (job : Job) : EventObject :=
  domainEvent "TaskCompleted" ""
    [("job_id", .str job.id), ("job_type", .str job.jobType), ("result", .str job.result)]

def taskFailed (jobId jobType errorMessage : String) : EventObject :=
  domainEvent "TaskFailed" ""
    [("job_id", .str jobId), ("job_type", .str jobType), ("error_message", .str errorMessage)]

/-- What calling an object does: the jobs its `handle` is called with, and how the call ends. -/
structure Invocation where
  handleCalls : List Job
  ended : HandlerOutcome
deriving DecidableEq

/-- An object with a method `handle`, and with a `__call__` of its own or without. -/
structure TaskHandler where
  className : String
  handle : Job → HandlerOutcome
  dunderCall : Option (Job → Invocation)

/-- `handler(job)`. An object without `__call__` cannot be called. -/
def TaskHandler.invoke (handler : TaskHandler) (job : Job) : Invocation :=
  match handler.dunderCall with
  | some body => body job
  | none => ⟨[], .error ("'" ++ handler.className ++ "' object is not callable")⟩

abbrev HandlerTable := Keyed (Prod.fst : String × TaskHandler → String)

/-- What the workers share: the scheduler with its executor and their buses, the worker registry, and
the objects that the executor's types are registered with. -/
structure WorkerState where
  scheduler : Wired Scheduling
  registry : HandlerTable
  handlers : HandlerTable

/-- The workers have a bus of their own. Where it is the scheduler's or the executor's object, the
two stay alike: publishing an event without a name changes no bus. -/
abbrev WorkerPy (α : Type) := Py (Wired WorkerState) α

def onScheduler {α : Type} (program : SchedulerPy α) : WorkerPy α :=
  onPart (fun wired => wired.service.scheduler)
    (fun wired scheduler => { wired with service := { wired.service with scheduler := scheduler } })
    program

@[simp] theorem call_onScheduler {α : Type} (program : SchedulerPy α) (wired : Wired WorkerState) :
    call (onScheduler program) wired =
      ((call program wired.service.scheduler).1,
        { wired with service := { wired.service with
          scheduler := (call program wired.service.scheduler).2 } }) := by
  rw [onScheduler, call_onPart]

namespace WorkerService

def register (jobType : String) (handler : TaskHandler) : WorkerPy Unit := do
  modify (fun wired => { wired with service :=
    { wired.service with registry := wired.service.registry.put (jobType, handler) } })
  modify (fun wired => { wired with service :=
    { wired.service with handlers := wired.service.handlers.put (jobType, handler) } })
  onScheduler (JobExecutor.register jobType)

/-- What follows the attempt: a raise is reported as a failed task without a job. -/
def conclude : Except PyExc (Option Job) → WorkerPy (Option Job)
  | .error exc => do
      emit (taskFailed "" "" exc.text)
      return none
  | .ok none => return none
  | .ok (some job) => do
      emit (taskAssigned job)
      if job.status = .failed then emit (taskFailed job.id job.jobType job.errorMessage)
      else emit (taskCompleted job)
      return some job

def runOnce (round : JobScheduler.Round) : WorkerPy (Option Job) := do
  conclude (← attempt (onScheduler (JobScheduler.processNext round)))

/-- The loop, for as many iterations as there are rounds. -/
def runAll : List JobScheduler.Round → WorkerPy (List Job)
  | [] => pure []
  | round :: rest => do
      match ← runOnce round with
      | none => return []
      | some job => return job :: (← runAll rest)

end WorkerService

/-- At least one worker, and the one whose turn it is; all of them share their collaborators. -/
structure WorkerPool where
  shared : Wired WorkerState
  size : Nat
  next : Nat
  inside : next < size

namespace WorkerPool

def create (shared : Wired WorkerState) (poolSize : Int) : Except PyExc WorkerPool :=
  if small : poolSize < 1 then .error (.valueError "pool_size must be >= 1")
  else .ok ⟨shared, poolSize.toNat, 0, by omega⟩

def onShared {α : Type} (program : WorkerPy α) : Py WorkerPool α :=
  onPart WorkerPool.shared (fun pool shared => { pool with shared := shared }) program

def register (jobType : String) (handler : TaskHandler) : Py WorkerPool Unit :=
  onShared (WorkerService.register jobType handler)

def advanced (pool : WorkerPool) : WorkerPool :=
  { pool with
    next := (pool.next + 1) % pool.size
    inside := Nat.mod_lt _ (Nat.zero_lt_of_lt pool.inside) }

def runOnce (round : JobScheduler.Round) : Py WorkerPool (Option Job) := do
  modify advanced
  onShared (WorkerService.runOnce round)

/-- The first worker drains the queue for all. -/
def runAll (rounds : List JobScheduler.Round) : Py WorkerPool (List Job) :=
  onShared (WorkerService.runAll rounds)

end WorkerPool

end LexMind.Workers
