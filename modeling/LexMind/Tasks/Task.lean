import LexMind.Python

set_option autoImplicit false

namespace LexMind.Tasks

open Lib

/-- Lifecycle states of a task. -/
inductive TaskStatus
  | pending
  | running
  | completed
  | failed
  | cancelled
deriving DecidableEq, Repr

def TaskStatus.value : TaskStatus → String
  | pending => "pending"
  | running => "running"
  | completed => "completed"
  | failed => "failed"
  | cancelled => "cancelled"

def transitions : TaskStatus → List TaskStatus
  | .pending => [.running, .cancelled]
  | .running => [.completed, .failed, .cancelled]
  | .completed => []
  | .failed => [.pending, .cancelled]
  | .cancelled => []

def canTransition (current target : TaskStatus) : Bool := target ∈ transitions current

/-- A unit of work. It always has a type: the check of `__post_init__` is a field. The timeout
is the value of a finite float. -/
structure Task where
  taskType : String
  name : String
  taskId : String
  workspaceId : String
  payload : List (String × String)
  status : TaskStatus
  attempts : Int
  maxRetries : Int
  timeoutSeconds : Rat
  result : String
  errorMessage : String
  createdAt : Timestamp
  startedAt : Option Timestamp
  completedAt : Option Timestamp
  typed : taskType ≠ ""

namespace Task

variable (task : Task)

def markStarted (target : TaskStatus) (now : Timestamp) : Task :=
  if target = .running ∧ task.startedAt = none then { task with startedAt := some now } else task

def markCompleted (target : TaskStatus) (now : Timestamp) : Task :=
  if target = .completed ∨ target = .failed ∨ target = .cancelled then
    { task with completedAt := some now }
  else task

/-- What a valid transition makes of the task. -/
def moved (target : TaskStatus) (now : Timestamp) : Task :=
  { (task.markStarted target now).markCompleted target now with status := target }

def isTerminal : Bool :=
  task.status = .completed ∨ task.status = .failed ∨ task.status = .cancelled

def canRetry : Bool :=
  (task.status = .pending ∨ task.status = .failed) ∧ task.attempts < task.maxRetries

/-- The methods change the task they are called on. -/
def transitionTo (target : TaskStatus) (now : Timestamp) : Py Task Unit := do
  let task ← get
  if canTransition task.status target then
    set (task.moved target now)
  else
    throw (.invalidTaskState ("Cannot transition task " ++ task.taskId ++ " from "
      ++ task.status.value ++ " to " ++ target.value))

def retry : Py Task Unit := do
  if (← get).canRetry then
    modify (fun task => { task with status := .pending, errorMessage := "" })
  else
    throw (.valueError "Task cannot be retried")

variable {task}

@[simp] theorem moved_status (target : TaskStatus) (now : Timestamp) :
    (task.moved target now).status = target := rfl

@[simp] theorem moved_attempts (target : TaskStatus) (now : Timestamp) :
    (task.moved target now).attempts = task.attempts := by
  unfold moved markStarted markCompleted
  split <;> split <;> rfl

@[simp] theorem moved_result (target : TaskStatus) (now : Timestamp) :
    (task.moved target now).result = task.result := by
  unfold moved markStarted markCompleted
  split <;> split <;> rfl

@[simp] theorem moved_errorMessage (target : TaskStatus) (now : Timestamp) :
    (task.moved target now).errorMessage = task.errorMessage := by
  unfold moved markStarted markCompleted
  split <;> split <;> rfl

@[simp] theorem moved_timeoutSeconds (target : TaskStatus) (now : Timestamp) :
    (task.moved target now).timeoutSeconds = task.timeoutSeconds := by
  unfold moved markStarted markCompleted
  split <;> split <;> rfl

@[simp] theorem moved_maxRetries (target : TaskStatus) (now : Timestamp) :
    (task.moved target now).maxRetries = task.maxRetries := by
  unfold moved markStarted markCompleted
  split <;> split <;> rfl

theorem call_transitionTo (target : TaskStatus) (now : Timestamp)
    (valid : target ∈ transitions task.status) :
    call (transitionTo target now) task = (.ok (), task.moved target now) := by
  simp [transitionTo, canTransition, valid]

/-- A task that is not terminal can be cancelled. -/
theorem cancelled_mem_transitions (unfinished : task.isTerminal = false) :
    .cancelled ∈ transitions task.status := by
  cases status : task.status <;> simp_all [isTerminal, transitions]

end Task

end LexMind.Tasks
