import LexMind.Python

set_option autoImplicit false

namespace LexMind.Scheduler

inductive JobStatus
  | pending
  | running
  | completed
  | failed
  | cancelled
deriving DecidableEq, Repr

def JobStatus.value : JobStatus → String
  | pending => "pending"
  | running => "running"
  | completed => "completed"
  | failed => "failed"
  | cancelled => "cancelled"

def validTransitions : JobStatus → List JobStatus
  | .pending => [.running, .cancelled]
  | .running => [.completed, .failed, .cancelled]
  | .completed => []
  | .failed => [.pending]
  | .cancelled => []

def canTransition (current target : JobStatus) : Bool := target ∈ validTransitions current

/-- A job always belongs to a workspace: the check of `__post_init__` is a field. -/
structure Job where
  workspaceId : String
  jobType : String
  id : String
  status : JobStatus
  payload : List (String × String)
  result : String
  errorMessage : String
  attempts : Int
  maxRetries : Int
  priority : Int
  createdAt : Timestamp
  startedAt : Option Timestamp
  completedAt : Option Timestamp
  updatedAt : Timestamp
  hasWorkspace : workspaceId ≠ ""
deriving DecidableEq, Repr

namespace Job

/-- The constructor call of `JobScheduler.submit`; the other fields get their defaults. -/
def create (workspaceId jobType : String) (payload : List (String × String))
    (priority maxRetries : Int) (id : String) (createdAt updatedAt : Timestamp) :
    Except PyExc Job :=
  if owned : workspaceId = "" then .error (.valueError "Job must belong to a workspace")
  else .ok {
    workspaceId := workspaceId
    jobType := jobType
    id := id
    status := .pending
    payload := payload
    result := ""
    errorMessage := ""
    attempts := 0
    maxRetries := maxRetries
    priority := priority
    createdAt := createdAt
    startedAt := none
    completedAt := none
    updatedAt := updatedAt
    hasWorkspace := owned }

/-- The first RUNNING transition is the only one that counts an attempt. -/
def markStarted (job : Job) (target : JobStatus) (now : Timestamp) : Job :=
  if target = .running ∧ job.startedAt = none then
    { job with startedAt := some now, attempts := job.attempts + 1 }
  else job

def markCompleted (job : Job) (target : JobStatus) (now : Timestamp) : Job :=
  if target = .completed ∨ target = .failed ∨ target = .cancelled then
    { job with completedAt := some now }
  else job

/-- What a valid transition makes of the job. -/
def moved (job : Job) (target : JobStatus) (now : Timestamp) : Job :=
  { (job.markStarted target now).markCompleted target now with status := target, updatedAt := now }

def transitionTo (job : Job) (target : JobStatus) (now : Timestamp) : Except PyExc Job :=
  if canTransition job.status target then .ok (job.moved target now)
  else .error (.valueError ("Cannot transition job from " ++ job.status.value ++ " to "
    ++ target.value))

def isTerminal (job : Job) : Bool := job.status = .completed ∨ job.status = .cancelled

def canRetry (job : Job) : Bool := job.status = .failed ∧ job.attempts < job.maxRetries

/-- What a granted retry makes of the job: `started_at` and `attempts` stay. -/
def requeued (job : Job) (now : Timestamp) : Job :=
  { job with status := .pending, errorMessage := "", updatedAt := now }

def retry (job : Job) (now : Timestamp) : Except PyExc Job :=
  if job.canRetry then .ok (job.requeued now)
  else .error (.valueError ("Job cannot be retried: status=" ++ job.status.value ++ ", attempts="
    ++ toString job.attempts ++ "/" ++ toString job.maxRetries))

variable (job : Job) (target : JobStatus) (now : Timestamp)

@[simp] theorem moved_status : (job.moved target now).status = target := rfl

@[simp] theorem moved_id : (job.moved target now).id = job.id := by
  unfold moved markStarted markCompleted
  split <;> split <;> rfl

@[simp] theorem moved_jobType : (job.moved target now).jobType = job.jobType := by
  unfold moved markStarted markCompleted
  split <;> split <;> rfl

@[simp] theorem moved_maxRetries : (job.moved target now).maxRetries = job.maxRetries := by
  unfold moved markStarted markCompleted
  split <;> split <;> rfl

@[simp] theorem moved_priority : (job.moved target now).priority = job.priority := by
  unfold moved markStarted markCompleted
  split <;> split <;> rfl

@[simp] theorem moved_result : (job.moved target now).result = job.result := by
  unfold moved markStarted markCompleted
  split <;> split <;> rfl

@[simp] theorem moved_errorMessage : (job.moved target now).errorMessage = job.errorMessage := by
  unfold moved markStarted markCompleted
  split <;> split <;> rfl

theorem moved_attempts : (job.moved target now).attempts =
    if target = .running ∧ job.startedAt = none then job.attempts + 1 else job.attempts := by
  unfold moved markStarted markCompleted
  split <;> split <;> rfl

theorem moved_startedAt : (job.moved target now).startedAt =
    if target = .running ∧ job.startedAt = none then some now else job.startedAt := by
  unfold moved markStarted markCompleted
  split <;> split <;> rfl

@[simp] theorem requeued_status : (job.requeued now).status = .pending := rfl
@[simp] theorem requeued_id : (job.requeued now).id = job.id := rfl
@[simp] theorem requeued_jobType : (job.requeued now).jobType = job.jobType := rfl
@[simp] theorem requeued_attempts : (job.requeued now).attempts = job.attempts := rfl
@[simp] theorem requeued_maxRetries : (job.requeued now).maxRetries = job.maxRetries := rfl
@[simp] theorem requeued_startedAt : (job.requeued now).startedAt = job.startedAt := rfl

variable {job target now}

theorem transitionTo_of_valid (valid : target ∈ validTransitions job.status) :
    job.transitionTo target now = .ok (job.moved target now) := by
  simp [transitionTo, canTransition, valid]

theorem transitionTo_ok {next : Job} (done : job.transitionTo target now = .ok next) :
    target ∈ validTransitions job.status ∧ next = job.moved target now := by
  unfold transitionTo at done
  split at done
  · rename_i valid
    exact ⟨by simpa [canTransition] using valid, (Except.ok.inj done).symm⟩
  · cases done

theorem canRetry_iff : job.canRetry = true ↔ job.status = .failed ∧ job.attempts < job.maxRetries := by
  simp [canRetry]

theorem isTerminal_iff :
    job.isTerminal = true ↔ job.status = .completed ∨ job.status = .cancelled := by
  simp [isTerminal]

theorem create_ok {workspaceId jobType : String} {payload : List (String × String)}
    {priority maxRetries : Int} {id : String} {createdAt updatedAt : Timestamp} {next : Job}
    (done : Job.create workspaceId jobType payload priority maxRetries id createdAt updatedAt =
      .ok next) :
    next.id = id ∧ next.status = .pending ∧ next.attempts = 0 ∧ next.maxRetries = maxRetries ∧
      next.startedAt = none ∧ next.jobType = jobType ∧ next.priority = priority := by
  unfold create at done
  split at done
  · cases done
  · cases done
    exact ⟨rfl, rfl, rfl, rfl, rfl, rfl, rfl⟩

theorem create_eq_error_iff {workspaceId jobType : String} {payload : List (String × String)}
    {priority maxRetries : Int} {id : String} {createdAt updatedAt : Timestamp} :
    (∃ exc, Job.create workspaceId jobType payload priority maxRetries id createdAt updatedAt =
      .error exc) ↔ workspaceId = "" := by
  unfold create
  split
  · rename_i empty
    simp [empty]
  · rename_i owned
    simp [owned]

end Job

end LexMind.Scheduler
