import LexMind.ImportQueue.QueueCalls

set_option autoImplicit false

/- No request is lost, none is delivered twice, and the most urgent comes first. -/
namespace LexMind.ImportQueue

open Lib

variable {δ : Type}

def QueueTable.waits (table : QueueTable) (requestId : String) : Bool :=
  (table.find? requestId).any isPending

/-- The call takes the request into PENDING. -/
def entered (requestId : String) (before : QueueState δ) (_ : QueueCall)
    (ended : Except PyExc QueueAnswer × QueueState δ) : Nat :=
  (!before.table.waits requestId && ended.2.table.waits requestId).toNat

/-- The call is a dequeue that returns the request. -/
def returned (requestId : String) (_ : QueueState δ) (queueCall : QueueCall)
    (ended : Except PyExc QueueAnswer × QueueState δ) : Nat :=
  match queueCall, ended.1 with
  | .dequeue _, .ok (.request (some request)) => (request.requestId = requestId : Bool).toNat
  | _, _ => 0

/-- The call cancels the request or marks it failed while it is pending. -/
def withdrawn (requestId : String) (before : QueueState δ) (queueCall : QueueCall)
    (ended : Except PyExc QueueAnswer × QueueState δ) : Nat :=
  match queueCall with
  | .cancel named _ | .markFailed named _ _ =>
      (named = requestId && before.table.waits requestId && !ended.2.table.waits requestId).toNat
  | _ => 0

/-- The id a submission generates is a new one. -/
def Fresh (state : QueueState δ) : QueueCall → Prop
  | .submit _ _ _ _ requestId _ => state.table.find? requestId = none
  | _ => True

theorem QueueTable.waits_put (table : QueueTable) (request : ImportRequest) (requestId : String) :
    QueueTable.waits (table.put request) requestId =
      if request.requestId = requestId then isPending request else table.waits requestId := by
  unfold waits
  rw [Keyed.find?_put]
  split <;> rfl

theorem QueueTable.waits_found {table : QueueTable} {request : ImportRequest}
    (found : table.find? request.requestId = some request) :
    table.waits request.requestId = isPending request := by
  simp [waits, found]

variable (service : ImportQueueService δ)

theorem created {workspaceId location requestId : String} {priority : Int}
    {payload : List (String × String)} {createdAt : Timestamp} {request : ImportRequest}
    (made : ImportRequest.create workspaceId location requestId priority .pending payload
      createdAt none none 0 3 = .ok request) :
    request.requestId = requestId ∧ request.status = .pending := by
  unfold ImportRequest.create at made
  split at made
  · cases made
  · split at made
    · cases made
    · cases made
      exact ⟨rfl, rfl⟩

/-- One call moves a request into PENDING, hands it out or withdraws it. -/
theorem queueStep_balance (requestId : String) (state : QueueState δ) (queueCall : QueueCall)
    (fresh : Fresh state queueCall) :
    (state.table.waits requestId).toNat +
        entered requestId state queueCall (queueStep service state queueCall) =
      returned requestId state queueCall (queueStep service state queueCall) +
        withdrawn requestId state queueCall (queueStep service state queueCall) +
        ((queueStep service state queueCall).2.table.waits requestId).toNat := by
  have effect := queueStep_effect service state queueCall
  revert effect
  generalize queueStep service state queueCall = ended
  obtain ⟨answer, after⟩ := ended
  obtain ⟨table, strategy⟩ := state
  obtain ⟨after, later⟩ := after
  intro effect
  dsimp only at effect
  cases effect with
  | raised other =>
      cases queueCall <;> simp_all [entered, returned, withdrawn, QueueCall.dequeues]
  | kept other quiet =>
      cases queueCall <;> simp_all [entered, returned, withdrawn, QueueCall.dequeues]
  | submitted made =>
      obtain ⟨named, waiting⟩ := created made
      rename_i newId _ _ _ request
      by_cases same : request.requestId = requestId
      · have absent : table.waits requestId = false := by
          rw [← same, named, QueueTable.waits, (fresh : table.find? newId = none)]
          rfl
        simp [entered, returned, withdrawn, QueueTable.waits_put, same, absent, isPending, waiting]
      · simp [entered, returned, withdrawn, QueueTable.waits_put, same]
  | nothingPending empty => simp [entered, returned, withdrawn]
  | @dequeued clock request first =>
      have waits := QueueTable.waits_found first.find?
      by_cases same : request.requestId = requestId
      · subst same
        simp [entered, returned, withdrawn, QueueTable.waits_put, waits, isPending, first.waiting]
      · simp [entered, returned, withdrawn, QueueTable.waits_put, same]
  | @cancelled clock request found valid =>
      have waits := QueueTable.waits_found found
      by_cases same : request.requestId = requestId
      · subst same
        simp [entered, returned, withdrawn, QueueTable.waits_put, waits, isPending]
      · simp [entered, returned, withdrawn, QueueTable.waits_put, same]
  | @completed documentId fileHash clock request settled found done =>
      obtain ⟨named, target, source, _⟩ := ImportQueueService.settle_ok done
      have waits := QueueTable.waits_found found
      have busy : request.status ≠ .pending := by
        rintro waiting
        simp [waiting, transitions] at source
      by_cases same : request.requestId = requestId
      · subst same
        simp [entered, returned, withdrawn, QueueTable.waits_put, named, waits, isPending, target,
          busy]
      · simp [entered, returned, withdrawn, QueueTable.waits_put, named, same]
  | @failed errorMessage clock request settled found done =>
      obtain ⟨named, target, _⟩ := ImportQueueService.settle_ok done
      have waits := QueueTable.waits_found found
      by_cases same : request.requestId = requestId
      · subst same
        simp [entered, returned, withdrawn, QueueTable.waits_put, named, waits, isPending, target]
      · simp [entered, returned, withdrawn, QueueTable.waits_put, named, same]
  | @retried request found granted =>
      have waits := QueueTable.waits_found found
      have failed := (ImportRequest.canRetry_iff.mp granted).1
      by_cases same : request.requestId = requestId
      · subst same
        simp [entered, returned, withdrawn, QueueTable.waits_put, waits, isPending, failed]
      · simp [entered, returned, withdrawn, QueueTable.waits_put, same]

/-- The state that a run of calls leaves. -/
def ranTo (start : QueueState δ) (calls : List QueueCall) : QueueState δ :=
  (run (queueStep service) start calls).2

theorem ranTo_balance {start : QueueState δ} (front middle back : List QueueCall)
    (fresh : Along (queueStep service) Fresh start (front ++ middle ++ back)) (requestId : String) :
    ((ranTo service start front).table.waits requestId).toNat +
        tally (queueStep service) (entered requestId) (ranTo service start front) middle =
      tally (queueStep service) (returned requestId) (ranTo service start front) middle +
        tally (queueStep service) (withdrawn requestId) (ranTo service start front) middle +
        ((ranTo service start (front ++ middle)).table.waits requestId).toNat := by
  rw [List.append_assoc, along_append, along_append] at fresh
  have balance := tally_balance (queueStep_balance service requestId) fresh.2.1
  rw [ranTo, ranTo, run_append_state]
  exact balance

/-- A dequeue returns the first of the most urgent pending requests, or nothing where nothing is
pending. -/
def DequeuesFirst (table : QueueTable) (clock : ImportQueueService.Clock)
    (answer : Except PyExc QueueAnswer) : Prop :=
  (∃ request, FirstPending table request ∧
      answer = .ok (.request (some (request.moved .dequeued (clock 0))))) ∨
    answer = .ok (.request none) ∧ ∀ request ∈ table.rows, request.status ≠ .pending

theorem dequeue_first (state : QueueState δ) (clock : ImportQueueService.Clock) :
    DequeuesFirst state.table clock (queueStep service state (.dequeue clock)).1 := by
  have effect := dequeue_effect service state clock
  revert effect
  generalize queueStep service state (.dequeue clock) = ended
  obtain ⟨answer, after⟩ := ended
  obtain ⟨table, strategy⟩ := after
  intro effect
  dsimp only at effect ⊢
  cases effect with
  | raised other => cases other
  | kept other quiet => cases other
  | nothingPending empty => exact .inr ⟨rfl, empty⟩
  | dequeued first => exact .inl ⟨_, first, rfl⟩

/-- A submission that is answered with a request leaves it pending. -/
theorem submit_waits {state : QueueState δ} {workspaceId location requestId : String}
    {priority : Int} {payload : List (String × String)} {createdAt : Timestamp}
    {request : ImportRequest}
    (answered : (queueStep service state
      (.submit workspaceId location priority payload requestId createdAt)).1 =
        .ok (.request (some request))) :
    (queueStep service state
      (.submit workspaceId location priority payload requestId createdAt)).2.table.waits
        request.requestId = true := by
  have effect := submit_effect service state workspaceId location priority payload requestId createdAt
  revert effect answered
  generalize queueStep service state
    (.submit workspaceId location priority payload requestId createdAt) = ended
  obtain ⟨answer, after⟩ := ended
  obtain ⟨table, strategy⟩ := after
  rintro rfl effect
  dsimp only at effect ⊢
  cases effect with
  | kept other quiet => simp at quiet
  | submitted made =>
      obtain ⟨_, waiting⟩ := created made
      simp [QueueTable.waits_put, isPending, waiting]

/-- What the queue owes over a run. -/
structure Delivers (start : QueueState δ) (calls : List QueueCall) : Prop where
  first : ∀ front clock back, calls = front ++ .dequeue clock :: back →
    DequeuesFirst (ranTo service start front).table clock
      (queueStep service (ranTo service start front) (.dequeue clock)).1
  /-- In any part of the run. -/
  once : ∀ front middle back requestId, calls = front ++ middle ++ back →
    tally (queueStep service) (returned requestId) (ranTo service start front) middle ≤
      ((ranTo service start front).table.waits requestId).toNat +
        tally (queueStep service) (entered requestId) (ranTo service start front) middle
  /-- From the submission on. -/
  kept : ∀ front workspaceId location priority payload requestId createdAt back request,
    calls = front ++ .submit workspaceId location priority payload requestId createdAt :: back →
    (queueStep service (ranTo service start front)
      (.submit workspaceId location priority payload requestId createdAt)).1 =
        .ok (.request (some request)) →
    (ranTo service start calls).table.waits request.requestId = true ∨
      0 < tally (queueStep service) (returned request.requestId) (ranTo service start
        (front ++ [.submit workspaceId location priority payload requestId createdAt])) back ∨
      0 < tally (queueStep service) (withdrawn request.requestId) (ranTo service start
        (front ++ [.submit workspaceId location priority payload requestId createdAt])) back

theorem queue_delivers (start : QueueState δ) (calls : List QueueCall)
    (fresh : Along (queueStep service) Fresh start calls) : Delivers service start calls where
  first := fun front clock _ _ => dequeue_first service (ranTo service start front) clock
  once := by
    rintro front middle back requestId rfl
    have balance := ranTo_balance service front middle back fresh requestId
    omega
  kept := by
    rintro front workspaceId location priority payload requestId createdAt back request rfl answered
    let submission : QueueCall :=
      .submit workspaceId location priority payload requestId createdAt
    have whole : front ++ submission :: back = front ++ [submission] ++ back := by simp
    have balance := ranTo_balance service (front ++ [submission]) back []
      (by rw [List.append_nil, ← whole]; exact fresh) request.requestId
    have waits : (ranTo service start (front ++ [submission])).table.waits request.requestId = true := by
      rw [ranTo, run_append_state]
      exact submit_waits service answered
    rw [waits, ← whole] at balance
    by_cases still : (ranTo service start (front ++ submission :: back)).table.waits
        request.requestId = true
    · exact .inl still
    · rw [Bool.eq_false_of_not_eq_true still, Bool.toNat_true, Bool.toNat_false] at balance
      have gone : 0 < tally (queueStep service) (returned request.requestId)
            (ranTo service start (front ++ [submission])) back ∨
          0 < tally (queueStep service) (withdrawn request.requestId)
            (ranTo service start (front ++ [submission])) back := by
        omega
      exact .inr gone

/-- A queue without deduplication. -/
def plainQueue : ImportQueueService Unit := ⟨none⟩

def twoImports : List QueueCall :=
  [.submit "lawFirm" "storage://lawFirm/a.pdf" 1 [] "r1" 0,
    .submit "lawFirm" "storage://lawFirm/b.pdf" 3 [] "r2" 0, .dequeue (fun _ => 0)]

theorem two_imports_delivered : Delivers plainQueue ⟨.empty, ()⟩ twoImports :=
  queue_delivers plainQueue ⟨.empty, ()⟩ twoImports ⟨rfl, rfl, trivial, trivial⟩

end LexMind.ImportQueue
