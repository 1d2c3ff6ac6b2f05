import LexMind.Events.EventBus
import LexMind.ImportQueue.ImportRequest
import Mathlib.Data.List.Sort

set_option autoImplicit false

namespace LexMind.ImportQueue

open Lib Events

/- Events of the queue, each with the slots its class adds. -/

def requestEnqueued (request : ImportRequest) (workspaceId location : String) : EventObject :=
  domainEvent "RequestEnqueued" ""
    [("request_id", .str request.requestId), ("workspace_id", .str workspaceId),
      ("location", .str location), ("priority", .int request.priority)]

def requestDequeued (request : ImportRequest) : EventObject :=
  domainEvent "RequestDequeued" ""
    [("request_id", .str request.requestId), ("workspace_id", .str request.workspaceId),
      ("location", .str request.location), ("priority", .int request.priority)]

def requestCompleted (request : ImportRequest) (documentId fileHash : String) : EventObject :=
  domainEvent "RequestCompleted" ""
    [("request_id", .str request.requestId), ("workspace_id", .str request.workspaceId),
      ("location", .str request.location), ("document_id", .str documentId),
      ("file_hash", .str fileHash)]

def requestFailed (request : ImportRequest) (errorMessage : String) : EventObject :=
  domainEvent "RequestFailed" ""
    [("request_id", .str request.requestId), ("workspace_id", .str request.workspaceId),
      ("location", .str request.location), ("error_message", .str errorMessage)]

def requestCancelled (request : ImportRequest) : EventObject :=
  domainEvent "RequestCancelled" ""
    [("request_id", .str request.requestId), ("workspace_id", .str request.workspaceId)]

def duplicateRejected (workspaceId location : String) : EventObject :=
  domainEvent "DuplicateRejected" ""
    [("request_id", .str ""), ("workspace_id", .str workspaceId), ("location", .str location),
      ("reason", .str "duplicate-detected")]

/-- The stored requests, in the order of their insertion. -/
abbrev QueueTable := Keyed ImportRequest.requestId

/-- The repository and what the deduplication strategy keeps. -/
structure QueueState (δ : Type) where
  table : QueueTable
  strategy : δ

/-- `is_duplicate`; a strategy may look at the repository. -/
abbrev DeduplicationStrategy (δ : Type) := ImportRequest → QueueTable → Py δ Bool

variable {δ : Type}

abbrev QueuePy (δ α : Type) := Py (Wired (QueueState δ)) α

def onRepo {α : Type} (program : Py QueueTable α) : QueuePy δ α :=
  onService (onPart QueueState.table (fun state table => { state with table := table }) program)

def isPending (request : ImportRequest) : Bool := request.status = .pending

/- A repository whose operations do not fail. -/
namespace ImportQueueRepository

def create (request : ImportRequest) : Py QueueTable ImportRequest := do
  modify (fun table => table.put request)
  return request

def getById (requestId : String) : Py QueueTable (Option ImportRequest) :=
  return (← get).find? requestId

def update (request : ImportRequest) : Py QueueTable ImportRequest := do
  modify (fun table => table.put request)
  return request

def listPending : Py QueueTable (List ImportRequest) := return (← get).rows.filter isPending

def countPending : Py QueueTable Nat := return ((← get).rows.filter isPending).length

end ImportQueueRepository

/-- `pending.sort(key=lambda r: r.priority, reverse=True)`: equal priorities keep their order. -/
def byPriority (pending : List ImportRequest) : List ImportRequest :=
  pending.insertionSort (fun first second => second.priority ≤ first.priority)

structure ImportQueueService (δ : Type) where
  deduplication : Option (DeduplicationStrategy δ)

namespace ImportQueueService

variable (service : ImportQueueService δ)

/-- `self._dedup is not None and self._dedup.is_duplicate(request)`. -/
def isDuplicate (request : ImportRequest) : QueuePy δ Bool := do
  match service.deduplication with
  | none => return false
  | some strategy =>
      let table := (← get).service.table
      onService (onPart QueueState.strategy
        (fun state strategy => { state with strategy := strategy }) (strategy request table))

/-- The id and the creation time are what the defaults make. -/
def submit (workspaceId location : String) (priority : Int) (payload : List (String × String))
    (requestId : String) (createdAt : Timestamp) : QueuePy δ ImportRequest := do
  if workspaceId = "" then throw (.valueError "workspace_id is required")
  if location = "" then throw (.valueError "location is required")
  let request ← check (ImportRequest.create workspaceId location requestId priority .pending payload
    createdAt none none 0 3)
  if ← service.isDuplicate request then
    emit (duplicateRejected workspaceId location)
    throw (.duplicateRequest ("Duplicate import request for " ++ location))
  let stored ← onRepo (ImportQueueRepository.create request)
  emit (requestEnqueued stored workspaceId location)
  return stored

/-- The successive readings of `datetime.now(UTC)` during one call. -/
abbrev Clock := Nat → Timestamp

def dequeue (clock : Clock) : QueuePy δ (Option ImportRequest) := do
  match byPriority (← onRepo ImportQueueRepository.listPending) with
  | [] => return none
  | first :: _ =>
      let request ← check (first.transitionTo .dequeued (clock 0))
      let stored ← onRepo (ImportQueueRepository.update request)
      emit (requestDequeued stored)
      return some stored

def getJob (requestId : String) : QueuePy δ (Option ImportRequest) :=
  onRepo (ImportQueueRepository.getById requestId)

def cancel (requestId : String) (clock : Clock) : QueuePy δ Bool := do
  match ← onRepo (ImportQueueRepository.getById requestId) with
  | none => return false
  | some request =>
      if request.isTerminal then return false
      let cancelled ← check (request.transitionTo .cancelled (clock 0))
      let _ ← onRepo (ImportQueueRepository.update cancelled)
      emit (requestCancelled cancelled)
      return true

/-- What `mark_completed` and `mark_failed` do to the request: a DEQUEUED one is PROCESSING
first. -/
def settle (request : ImportRequest) (target : RequestStatus) (clock : Clock) :
    Except PyExc ImportRequest := do
  let begun ←
    if request.status = .dequeued then request.transitionTo .processing (clock 0) else .ok request
  begun.transitionTo target (clock 1)

def markCompleted (requestId documentId fileHash : String) (clock : Clock) : QueuePy δ Unit := do
  match ← onRepo (ImportQueueRepository.getById requestId) with
  | none => return
  | some request =>
      let settled ← check (settle request .completed clock)
      let _ ← onRepo (ImportQueueRepository.update settled)
      emit (requestCompleted settled documentId fileHash)

def markFailed (requestId errorMessage : String) (clock : Clock) : QueuePy δ Unit := do
  match ← onRepo (ImportQueueRepository.getById requestId) with
  | none => return
  | some request =>
      let settled ← check (settle request .failed clock)
      let _ ← onRepo (ImportQueueRepository.update settled)
      emit (requestFailed settled errorMessage)

def pendingIds : QueuePy δ (List String) :=
  return (← onRepo ImportQueueRepository.listPending).map ImportRequest.requestId

def size : QueuePy δ Nat := onRepo ImportQueueRepository.countPending

end ImportQueueService

/-- A caller's retry: the request is read, retried and stored again. -/
def retryRequest (requestId : String) : QueuePy δ Unit := do
  match ← onRepo (ImportQueueRepository.getById requestId) with
  | none => return
  | some request =>
      let requeued ← check request.retry
      let _ ← onRepo (ImportQueueRepository.update requeued)

/-- The calls that change the queue. -/
inductive QueueCall
  | submit (workspaceId location : String) (priority : Int) (payload : List (String × String))
      (requestId : String) (createdAt : Timestamp)
  | dequeue (clock : ImportQueueService.Clock)
  | cancel (requestId : String) (clock : ImportQueueService.Clock)
  | markCompleted (requestId documentId fileHash : String) (clock : ImportQueueService.Clock)
  | markFailed (requestId errorMessage : String) (clock : ImportQueueService.Clock)
  | retry (requestId : String)

inductive QueueAnswer
  | unit
  | done (cancelled : Bool)
  | request (found : Option ImportRequest)
deriving DecidableEq, Repr

def QueueCall.program (service : ImportQueueService δ) : QueueCall → QueuePy δ QueueAnswer
  | .submit workspaceId location priority payload requestId createdAt =>
      (fun request => .request (some request)) <$>
        service.submit workspaceId location priority payload requestId createdAt
  | .dequeue clock => .request <$> ImportQueueService.dequeue clock
  | .cancel requestId clock => .done <$> ImportQueueService.cancel requestId clock
  | .markCompleted requestId documentId fileHash clock =>
      (fun _ => .unit) <$> ImportQueueService.markCompleted requestId documentId fileHash clock
  | .markFailed requestId errorMessage clock =>
      (fun _ => .unit) <$> ImportQueueService.markFailed requestId errorMessage clock
  | .retry requestId => (fun _ => .unit) <$> retryRequest requestId

/-- A call on a service without an event bus. -/
def queueStep (service : ImportQueueService δ) (state : QueueState δ) (queueCall : QueueCall) :
    Except PyExc QueueAnswer × QueueState δ :=
  let ended := call (queueCall.program service) ⟨state, none⟩
  (ended.1, ended.2.service)

end LexMind.ImportQueue
