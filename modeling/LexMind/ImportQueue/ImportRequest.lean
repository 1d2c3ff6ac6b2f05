import LexMind.Python

set_option autoImplicit false

namespace LexMind.ImportQueue

/-- Lifecycle states of an import request. -/
inductive RequestStatus
  | pending
  | dequeued
  | processing
  | completed
  | failed
  | cancelled
deriving DecidableEq, Repr

namespace RequestStatus

def value : RequestStatus → String
  | pending => "pending"
  | dequeued => "dequeued"
  | processing => "processing"
  | completed => "completed"
  | failed => "failed"
  | cancelled => "cancelled"

end RequestStatus

def transitions : RequestStatus → List RequestStatus
  | .pending => [.dequeued, .cancelled, .failed]
  | .dequeued => [.processing, .cancelled, .failed]
  | .processing => [.completed, .cancelled, .failed]
  | .completed => []
  | .failed => [.pending, .cancelled]
  | .cancelled => []

def canTransition (current target : RequestStatus) : Bool := target ∈ transitions current

/-- A request always belongs to a workspace, as no method assigns it. The other check of
`__post_init__` is about the retries, which `retry` changes. -/
@[ext] structure ImportRequest where
  workspaceId : String
  location : String
  requestId : String
  priority : Int
  status : RequestStatus
  payload : List (String × String)
  createdAt : Timestamp
  startedAt : Option Timestamp
  completedAt : Option Timestamp
  retries : Int
  maxRetries : Int
  hasWorkspace : workspaceId ≠ ""
deriving Repr

instance : DecidableEq ImportRequest := fun _ _ => decidable_of_iff _ ImportRequest.ext_iff.symm

namespace ImportRequest

/-- The constructor, with the checks of `__post_init__`. -/
def create (workspaceId location requestId : String) (priority : Int) (status : RequestStatus)
    (payload : List (String × String)) (createdAt : Timestamp)
    (startedAt completedAt : Option Timestamp) (retries maxRetries : Int) :
    Except PyExc ImportRequest :=
  if owned : workspaceId = "" then
    .error (.valueError "Import request must belong to a workspace")
  else if maxRetries ≤ retries then
    .error (.valueError "Request retries exceed max retries")
  else .ok {
    workspaceId := workspaceId
    location := location
    requestId := requestId
    priority := priority
    status := status
    payload := payload
    createdAt := createdAt
    startedAt := startedAt
    completedAt := completedAt
    retries := retries
    maxRetries := maxRetries
    hasWorkspace := owned }

variable (request : ImportRequest) (target : RequestStatus) (now : Timestamp)

def markStarted : ImportRequest :=
  if target = .processing ∧ request.startedAt = none then
    { request with startedAt := some now }
  else request

def markCompleted : ImportRequest :=
  if target = .completed ∨ target = .cancelled ∨ target = .failed then
    { request with completedAt := some now }
  else request

/-- What a valid transition makes of the request. -/
def moved : ImportRequest :=
  { (request.markStarted target now).markCompleted target now with status := target }

def transitionTo : Except PyExc ImportRequest :=
  if canTransition request.status target then .ok (request.moved target now)
  else .error (.invalidRequestState ("Cannot transition request " ++ request.requestId ++ " from "
    ++ request.status.value ++ " to " ++ target.value))

def isTerminal : Bool :=
  request.status = .completed ∨ request.status = .cancelled ∨ request.status = .failed

def canRetry : Bool := request.status = .failed ∧ request.retries < request.maxRetries

/-- What a granted retry makes of the request. -/
def requeued : ImportRequest :=
  { request with status := .pending, retries := request.retries + 1 }

def retry : Except PyExc ImportRequest :=
  if request.canRetry then .ok request.requeued
  else .error (.valueError "Request cannot be retried")

@[simp] theorem moved_status : (request.moved target now).status = target := rfl

@[simp] theorem moved_requestId : (request.moved target now).requestId = request.requestId := by
  unfold moved markStarted markCompleted
  split <;> split <;> rfl

@[simp] theorem moved_priority : (request.moved target now).priority = request.priority := by
  unfold moved markStarted markCompleted
  split <;> split <;> rfl

@[simp] theorem moved_workspaceId :
    (request.moved target now).workspaceId = request.workspaceId := by
  unfold moved markStarted markCompleted
  split <;> split <;> rfl

@[simp] theorem moved_location : (request.moved target now).location = request.location := by
  unfold moved markStarted markCompleted
  split <;> split <;> rfl

@[simp] theorem moved_retries : (request.moved target now).retries = request.retries := by
  unfold moved markStarted markCompleted
  split <;> split <;> rfl

@[simp] theorem moved_maxRetries : (request.moved target now).maxRetries = request.maxRetries := by
  unfold moved markStarted markCompleted
  split <;> split <;> rfl

@[simp] theorem requeued_status : request.requeued.status = .pending := rfl
@[simp] theorem requeued_requestId : request.requeued.requestId = request.requestId := rfl
@[simp] theorem requeued_priority : request.requeued.priority = request.priority := rfl
@[simp] theorem requeued_workspaceId : request.requeued.workspaceId = request.workspaceId := rfl
@[simp] theorem requeued_location : request.requeued.location = request.location := rfl
@[simp] theorem requeued_retries : request.requeued.retries = request.retries + 1 := rfl
@[simp] theorem requeued_maxRetries : request.requeued.maxRetries = request.maxRetries := rfl

variable {request target now}

theorem transitionTo_of_valid (valid : target ∈ transitions request.status) :
    request.transitionTo target now = .ok (request.moved target now) := by
  simp [transitionTo, canTransition, valid]

theorem transitionTo_ok {next : ImportRequest} (done : request.transitionTo target now = .ok next) :
    target ∈ transitions request.status ∧ next = request.moved target now := by
  unfold transitionTo at done
  split at done
  · rename_i valid
    exact ⟨by simpa [canTransition] using valid, (Except.ok.inj done).symm⟩
  · cases done

theorem canRetry_iff :
    request.canRetry = true ↔ request.status = .failed ∧ request.retries < request.maxRetries := by
  simp [canRetry]

theorem retry_ok {next : ImportRequest} (done : request.retry = .ok next) :
    request.canRetry = true ∧ next = request.requeued := by
  unfold retry at done
  split at done
  · rename_i granted
    exact ⟨granted, (Except.ok.inj done).symm⟩
  · cases done

end ImportRequest

end LexMind.ImportQueue
