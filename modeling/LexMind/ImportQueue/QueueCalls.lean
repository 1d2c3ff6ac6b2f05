import LexMind.ImportQueue.ImportQueue
import LexMind.Lib.Run
import LexMind.Lib.StableSort

set_option autoImplicit false

/- What each call of the queue can do to the repository. -/
namespace LexMind.ImportQueue

open Lib Events

/-- No pending request has a higher priority, and none that was inserted before has the same. -/
structure FirstPending (table : QueueTable) (request : ImportRequest) : Prop where
  waiting : request.status = .pending
  order : ∃ front back, table.rows = front ++ request :: back ∧
    (∀ other ∈ front, other.status = .pending → other.priority < request.priority) ∧
    ∀ other ∈ back, other.status = .pending → other.priority ≤ request.priority

theorem FirstPending.find? {table : QueueTable} {request : ImportRequest}
    (first : FirstPending table request) : table.find? request.requestId = some request := by
  obtain ⟨front, back, split, _, _⟩ := first.order
  apply table.find?_of_mem
  rw [split]
  exact List.mem_append_right _ List.mem_cons_self

theorem byPriority_cons {table : QueueTable} {first : ImportRequest} {rest : List ImportRequest}
    (listed : byPriority (table.rows.filter isPending) = first :: rest) :
    FirstPending table first := by
  have total : Std.Total (fun one other : ImportRequest => other.priority ≤ one.priority) :=
    ⟨fun one other => Int.le_total other.priority one.priority⟩
  have trans : IsTrans ImportRequest (fun one other => other.priority ≤ one.priority) :=
    ⟨fun _ _ _ above below => Int.le_trans below above⟩
  obtain ⟨kept, front, back, split, above, below⟩ := StableSort.head_sorted_filter listed
  refine ⟨by simpa [isPending] using kept, front, back, split, ?_, ?_⟩
  · intro other inside waiting
    exact Int.not_le.mp (above other inside (by simpa [isPending] using waiting))
  · intro other inside waiting
    exact below other inside (by simpa [isPending] using waiting)

theorem byPriority_nil {table : QueueTable}
    (listed : byPriority (table.rows.filter isPending) = []) :
    ∀ request ∈ table.rows, request.status ≠ .pending := by
  intro request inside waiting
  have member : request ∈ byPriority (table.rows.filter isPending) :=
    (List.mem_insertionSort _).mpr (List.mem_filter.mpr ⟨inside, by simpa [isPending] using waiting⟩)
  rw [listed] at member
  cases member

def QueueCall.dequeues : QueueCall → Bool
  | .dequeue _ => true
  | _ => false

/-- What a call answers, and the table it leaves. -/
inductive Effect (table : QueueTable) : QueueCall → Except PyExc QueueAnswer → QueueTable → Prop
  | raised {queueCall : QueueCall} {exc : PyExc} (other : queueCall.dequeues = false) :
      Effect table queueCall (.error exc) table
  | kept {queueCall : QueueCall} {answer : QueueAnswer} (other : queueCall.dequeues = false)
      (quiet : answer = .unit ∨ answer = .done false) : Effect table queueCall (.ok answer) table
  | submitted {workspaceId location requestId : String} {priority : Int}
      {payload : List (String × String)} {createdAt : Timestamp} {request : ImportRequest}
      (made : ImportRequest.create workspaceId location requestId priority .pending payload
        createdAt none none 0 3 = .ok request) :
      Effect table (.submit workspaceId location priority payload requestId createdAt)
        (.ok (.request (some request))) (table.put request)
  | nothingPending {clock : ImportQueueService.Clock}
      (empty : ∀ request ∈ table.rows, request.status ≠ .pending) :
      Effect table (.dequeue clock) (.ok (.request none)) table
  | dequeued {clock : ImportQueueService.Clock} {request : ImportRequest}
      (first : FirstPending table request) :
      Effect table (.dequeue clock) (.ok (.request (some (request.moved .dequeued (clock 0)))))
        (table.put (request.moved .dequeued (clock 0)))
  | cancelled {clock : ImportQueueService.Clock} {request : ImportRequest}
      (found : table.find? request.requestId = some request)
      (valid : .cancelled ∈ transitions request.status) :
      Effect table (.cancel request.requestId clock) (.ok (.done true))
        (table.put (request.moved .cancelled (clock 0)))
  | completed {documentId fileHash : String} {clock : ImportQueueService.Clock}
      {request settled : ImportRequest} (found : table.find? request.requestId = some request)
      (done : ImportQueueService.settle request .completed clock = .ok settled) :
      Effect table (.markCompleted request.requestId documentId fileHash clock) (.ok .unit)
        (table.put settled)
  | failed {errorMessage : String} {clock : ImportQueueService.Clock}
      {request settled : ImportRequest} (found : table.find? request.requestId = some request)
      (done : ImportQueueService.settle request .failed clock = .ok settled) :
      Effect table (.markFailed request.requestId errorMessage clock) (.ok .unit)
        (table.put settled)
  | retried {request : ImportRequest} (found : table.find? request.requestId = some request)
      (granted : request.canRetry = true) :
      Effect table (.retry request.requestId) (.ok .unit) (table.put request.requeued)

section Calls

variable {δ α : Type} (state : QueueState δ)

@[simp] theorem call_onRepo (program : Py QueueTable α) (bus : Option EventBus) :
    call (onRepo program : QueuePy δ α) ⟨state, bus⟩ =
      ((call program state.table).1, ⟨{ state with table := (call program state.table).2 }, bus⟩) := by
  simp [onRepo]

variable (table : QueueTable) (request : ImportRequest)

@[simp] theorem call_create :
    call (ImportQueueRepository.create request) table = (.ok request, table.put request) := by
  simp [ImportQueueRepository.create]

@[simp] theorem call_update :
    call (ImportQueueRepository.update request) table = (.ok request, table.put request) := by
  simp [ImportQueueRepository.update]

@[simp] theorem call_getById (requestId : String) :
    call (ImportQueueRepository.getById requestId) table = (.ok (table.find? requestId), table) := by
  simp [ImportQueueRepository.getById]

@[simp] theorem call_listPending :
    call ImportQueueRepository.listPending table = (.ok (table.rows.filter isPending), table) := by
  simp [ImportQueueRepository.listPending]

/-- The strategy changes only what it keeps itself. -/
theorem call_isDuplicate (service : ImportQueueService δ) :
    ∃ answer strategy, call (service.isDuplicate request) ⟨state, none⟩ =
      (answer, ⟨{ state with strategy := strategy }, none⟩) := by
  unfold ImportQueueService.isDuplicate
  cases service.deduplication with
  | none => exact ⟨.ok false, state.strategy, rfl⟩
  | some strategy =>
      let asked := call (strategy request state.table) state.strategy
      exact ⟨asked.1, asked.2, by simp [asked]⟩

end Calls

theorem ImportQueueService.settle_ok {request settled : ImportRequest} {target : RequestStatus}
    {clock : ImportQueueService.Clock} (done : settle request target clock = .ok settled) :
    settled.requestId = request.requestId ∧ settled.status = target ∧
      (request.status = .dequeued ∧ target ∈ transitions .processing ∨
        target ∈ transitions request.status) ∧
      settled.workspaceId = request.workspaceId ∧ settled.location = request.location := by
  unfold settle at done
  by_cases dequeued : request.status = .dequeued
  · rw [if_pos dequeued] at done
    obtain ⟨begun, first, last⟩ := returned_of_bind done
    obtain ⟨_, rfl⟩ := ImportRequest.transitionTo_ok first
    obtain ⟨valid, rfl⟩ := ImportRequest.transitionTo_ok last
    exact ⟨by simp, rfl, .inl ⟨dequeued, valid⟩, by simp, by simp⟩
  · rw [if_neg dequeued] at done
    obtain ⟨valid, rfl⟩ := ImportRequest.transitionTo_ok done
    exact ⟨by simp, rfl, .inr valid, by simp, by simp⟩

variable {δ : Type} (service : ImportQueueService δ) (state : QueueState δ)

theorem submit_effect (workspaceId location : String) (priority : Int)
    (payload : List (String × String)) (requestId : String) (createdAt : Timestamp) :
    Effect state.table (.submit workspaceId location priority payload requestId createdAt)
      (queueStep service state
        (.submit workspaceId location priority payload requestId createdAt)).1
      (queueStep service state
        (.submit workspaceId location priority payload requestId createdAt)).2.table := by
  have refused : ∀ exc : PyExc, Effect state.table
      (.submit workspaceId location priority payload requestId createdAt) (.error exc)
      state.table := fun exc => .raised rfl
  unfold queueStep QueueCall.program ImportQueueService.submit
  by_cases owned : workspaceId = ""
  · simpa [owned] using refused _
  · by_cases located : location = ""
    · simpa [owned, located] using refused _
    · cases made : ImportRequest.create workspaceId location requestId priority .pending payload
          createdAt none none 0 3 with
      | error exc => simpa [owned, located, made] using refused _
      | ok request =>
          obtain ⟨answer, strategy, asked⟩ := call_isDuplicate state request service
          cases answer with
          | error exc => simpa [owned, located, made, asked] using refused _
          | ok duplicate =>
              cases duplicate with
              | true => simpa [owned, located, made, asked] using refused _
              | false => simpa [owned, located, made, asked] using Effect.submitted made

theorem dequeue_effect (clock : ImportQueueService.Clock) :
    Effect state.table (.dequeue clock) (queueStep service state (.dequeue clock)).1
      (queueStep service state (.dequeue clock)).2.table := by
  unfold queueStep QueueCall.program ImportQueueService.dequeue
  cases listed : byPriority (state.table.rows.filter isPending) with
  | nil => simpa [listed] using Effect.nothingPending (byPriority_nil listed)
  | cons first rest =>
      have pending := byPriority_cons listed
      have valid : .dequeued ∈ transitions first.status := by
        rw [pending.waiting]
        exact List.mem_cons_self
      simpa [listed, ImportRequest.transitionTo_of_valid valid] using Effect.dequeued pending

/-- The table a call leaves is the one it found, or has one request written. -/
theorem queueStep_effect (queueCall : QueueCall) :
    Effect state.table queueCall (queueStep service state queueCall).1
      (queueStep service state queueCall).2.table := by
  cases queueCall with
  | submit workspaceId location priority payload requestId createdAt =>
      exact submit_effect service state workspaceId location priority payload requestId createdAt
  | dequeue clock => exact dequeue_effect service state clock
  | cancel requestId clock =>
      unfold queueStep QueueCall.program ImportQueueService.cancel
      cases found : state.table.find? requestId with
      | none => simpa [found] using Effect.kept rfl (.inr rfl)
      | some request =>
          obtain rfl : request.requestId = requestId := Keyed.key_of_find? found
          by_cases terminal : request.isTerminal = true
          · simpa [found, terminal] using Effect.kept rfl (.inr rfl)
          · by_cases valid : .cancelled ∈ transitions request.status
            · simpa [found, terminal, ImportRequest.transitionTo_of_valid valid] using
                Effect.cancelled found valid
            · simpa [found, terminal, ImportRequest.transitionTo, canTransition, valid] using
                Effect.raised rfl
  | markCompleted requestId documentId fileHash clock =>
      unfold queueStep QueueCall.program ImportQueueService.markCompleted
      cases found : state.table.find? requestId with
      | none => simpa [found] using Effect.kept rfl (.inl rfl)
      | some request =>
          obtain rfl : request.requestId = requestId := Keyed.key_of_find? found
          cases done : ImportQueueService.settle request .completed clock with
          | error exc => simpa [found, done] using Effect.raised rfl
          | ok settled => simpa [found, done] using Effect.completed found done
  | markFailed requestId errorMessage clock =>
      unfold queueStep QueueCall.program ImportQueueService.markFailed
      cases found : state.table.find? requestId with
      | none => simpa [found] using Effect.kept rfl (.inl rfl)
      | some request =>
          obtain rfl : request.requestId = requestId := Keyed.key_of_find? found
          cases done : ImportQueueService.settle request .failed clock with
          | error exc => simpa [found, done] using Effect.raised rfl
          | ok settled => simpa [found, done] using Effect.failed found done
  | retry requestId =>
      unfold queueStep QueueCall.program retryRequest
      cases found : state.table.find? requestId with
      | none => simpa [found] using Effect.kept rfl (.inl rfl)
      | some request =>
          obtain rfl : request.requestId = requestId := Keyed.key_of_find? found
          by_cases granted : request.canRetry = true
          · simpa [found, ImportRequest.retry, granted] using Effect.retried found granted
          · simpa [found, ImportRequest.retry, granted] using Effect.raised rfl

end LexMind.ImportQueue
