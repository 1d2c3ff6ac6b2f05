import LexMind.ImportQueue.QueueCalls
import LexMind.Storage.Isolation

set_option autoImplicit false

/- Deduplication by a storage manager, and what it lets into the queue. -/
namespace LexMind.ImportQueue

open Lib Storage

/-- The injected object: its class, and its method `get_by_location` where the class has one. -/
structure LocationLookup where
  className : String
  getByLocation : Option (String → String → Except PyExc (Option ImportRequest))

def LocationLookup.callGetByLocation (storage : LocationLookup) (workspaceId location : String) :
    Except PyExc (Option ImportRequest) :=
  match storage.getByLocation with
  | some method => method workspaceId location
  | none => .error (.attributeError storage.className "get_by_location")

/-- A `StorageManager` works on URIs; it has no method that looks for a request. -/
def storageManagerLookup (_ : StorageManager) : LocationLookup := ⟨"StorageManager", none⟩

/-- `ChecksumDedup.is_duplicate`: an exception counts as no duplicate. -/
def ChecksumDedup.isDuplicate (storage : LocationLookup) (request : ImportRequest) : Bool :=
  if request.location = "" then false
  else
    match storage.callGetByLocation request.workspaceId request.location with
    | .error _ => false
    | .ok none => false
    | .ok (some existing) =>
        if existing.requestId = request.requestId then false
        else existing.status.value ∈ ["pending", "dequeued", "processing"]

/-- The queue with `ChecksumDedup` over a storage manager. -/
def dedupQueue (manager : StorageManager) : ImportQueueService Unit where
  deduplication := some (fun request _ =>
    return ChecksumDedup.isDuplicate (storageManagerLookup manager) request)

def isLive (request : ImportRequest) : Bool :=
  request.status = .pending ∨ request.status = .dequeued ∨ request.status = .processing

/-- Another request than the one of this id is live at the place. -/
def LiveTwin (table : QueueTable) (workspaceId location requestId : String) : Prop :=
  ∃ other ∈ table.rows, isLive other = true ∧ other.workspaceId = workspaceId ∧
    other.location = location ∧ other.requestId ≠ requestId

/-- No two live requests are for one place. -/
def LiveDistinct (state : QueueState Unit) : Prop :=
  ∀ request ∈ state.table.rows, isLive request = true →
    ¬ LiveTwin state.table request.workspaceId request.location request.requestId

/-- A submission to a place with a live request is rejected as a duplicate. -/
def RejectsTwin (manager : StorageManager) (state : QueueState Unit) : QueueCall → Prop
  | .submit workspaceId location priority payload requestId createdAt =>
      workspaceId ≠ "" → location ≠ "" → LiveTwin state.table workspaceId location requestId →
        (queueStep (dedupQueue manager) state
          (.submit workspaceId location priority payload requestId createdAt)).1 =
            .error (.duplicateRequest ("Duplicate import request for " ++ location))
  | _ => True

/-- No submission and no granted retry is for a place where another request is live. -/
def Unrivalled (state : QueueState Unit) : QueueCall → Prop
  | .submit workspaceId location _ _ requestId _ =>
      workspaceId ≠ "" → location ≠ "" → ¬ LiveTwin state.table workspaceId location requestId
  | .retry requestId =>
      ∀ request, state.table.find? requestId = some request → request.canRetry = true →
        ¬ LiveTwin state.table request.workspaceId request.location requestId
  | _ => True

/-- The storage manager never finds a duplicate. -/
theorem isDuplicate_storageManager (manager : StorageManager) (request : ImportRequest) :
    ChecksumDedup.isDuplicate (storageManagerLookup manager) request = false := by
  unfold ChecksumDedup.isDuplicate
  split <;> rfl

variable {state : QueueState Unit}

/-- A request that is written, where none other is live, leaves the live ones distinct. -/
theorem liveDistinct_put {table : QueueTable} {request : ImportRequest}
    (distinct : LiveDistinct ⟨table, ()⟩)
    (alone : isLive request = true →
      ¬ LiveTwin table request.workspaceId request.location request.requestId) :
    LiveDistinct ⟨table.put request, ()⟩ := by
  intro first inside live twin
  obtain ⟨second, member, alive, sameWorkspace, sameLocation, apart⟩ := twin
  rcases (table.mem_put request first).mp inside with rfl | ⟨old, other⟩
  · rcases (table.mem_put first second).mp member with rfl | ⟨stored, _⟩
    · exact apart rfl
    · exact alone live ⟨second, stored, alive, sameWorkspace, sameLocation, apart⟩
  · rcases (table.mem_put request second).mp member with rfl | ⟨stored, _⟩
    · exact alone alive ⟨first, old, live, sameWorkspace.symm, sameLocation.symm, other⟩
    · exact distinct first old live ⟨second, stored, alive, sameWorkspace, sameLocation, apart⟩

/-- Where another request is live at its place, a live request that is written is a twin of it. -/
theorem not_liveDistinct_put {table : QueueTable} {request : ImportRequest}
    (live : isLive request = true)
    (twin : LiveTwin table request.workspaceId request.location request.requestId) :
    ¬ LiveDistinct ⟨table.put request, ()⟩ := by
  intro distinct
  obtain ⟨other, inside, alive, sameWorkspace, sameLocation, apart⟩ := twin
  have here : request ∈ (table.put request).rows := (table.mem_put request request).mpr (.inl rfl)
  have there : other ∈ (table.put request).rows :=
    (table.mem_put request other).mpr (.inr ⟨inside, apart⟩)
  exact distinct request here live ⟨other, there, alive, sameWorkspace, sameLocation, apart⟩

/-- A live request that is stored again keeps the live ones distinct. -/
theorem liveDistinct_rewrite {table : QueueTable} {old request : ImportRequest}
    (distinct : LiveDistinct ⟨table, ()⟩) (found : table.find? old.requestId = some old)
    (live : isLive request = true → isLive old = true) (same : request.requestId = old.requestId)
    (workspace : request.workspaceId = old.workspaceId)
    (location : request.location = old.location) : LiveDistinct ⟨table.put request, ()⟩ := by
  apply liveDistinct_put distinct
  intro alive
  rw [workspace, location, same]
  exact distinct old (Keyed.mem_of_find? found) (live alive)

/-- A submission that names a workspace and a place is stored, whatever else is live there. -/
theorem submit_stored (manager : StorageManager) {workspaceId location : String} (priority : Int)
    (payload : List (String × String)) (requestId : String) (createdAt : Timestamp)
    (owned : workspaceId ≠ "") (located : location ≠ "") :
    ∃ request : ImportRequest, request.status = .pending ∧ request.workspaceId = workspaceId ∧
      request.location = location ∧ request.requestId = requestId ∧
      queueStep (dedupQueue manager) state
        (.submit workspaceId location priority payload requestId createdAt) =
          (.ok (.request (some request)), ⟨state.table.put request, ()⟩) := by
  have made : ImportRequest.create workspaceId location requestId priority .pending payload
      createdAt none none 0 3 = .ok ⟨workspaceId, location, requestId, priority, .pending, payload,
        createdAt, none, none, 0, 3, owned⟩ := by
    simp [ImportRequest.create, owned]
  refine ⟨⟨workspaceId, location, requestId, priority, .pending, payload, createdAt, none, none, 0,
    3, owned⟩, rfl, rfl, rfl, rfl, ?_⟩
  simp [queueStep, QueueCall.program, ImportQueueService.submit, owned, located, made,
    ImportQueueService.isDuplicate, dedupQueue, isDuplicate_storageManager]

theorem submit_refused (manager : StorageManager) {workspaceId location : String} (priority : Int)
    (payload : List (String × String)) (requestId : String) (createdAt : Timestamp)
    (unfit : ¬ (workspaceId ≠ "" ∧ location ≠ "")) :
    (queueStep (dedupQueue manager) state
      (.submit workspaceId location priority payload requestId createdAt)).2 = state := by
  unfold queueStep QueueCall.program ImportQueueService.submit
  by_cases owned : workspaceId = ""
  · simp [owned]
  · have located : location = "" := by
      by_contra located
      exact unfit ⟨owned, located⟩
    simp [owned, located]

theorem isLive_of_pending {request : ImportRequest} (waiting : request.status = .pending) :
    isLive request = true := by
  simp [isLive, waiting]

/-- A live request is written for a place: the live ones stay distinct exactly when none other is
live there. -/
theorem liveDistinct_put_iff {table : QueueTable} {request : ImportRequest}
    (distinct : LiveDistinct ⟨table, ()⟩) (live : isLive request = true) :
    LiveDistinct ⟨table.put request, ()⟩ ↔
      ¬ LiveTwin table request.workspaceId request.location request.requestId :=
  ⟨fun kept twin => not_liveDistinct_put live twin kept,
    fun alone => liveDistinct_put distinct (fun _ => alone)⟩

theorem submit_decides (manager : StorageManager) (distinct : LiveDistinct state)
    (workspaceId location : String) (priority : Int) (payload : List (String × String))
    (requestId : String) (createdAt : Timestamp) :
    LiveDistinct (queueStep (dedupQueue manager) state
        (.submit workspaceId location priority payload requestId createdAt)).2 ↔
      Unrivalled state (.submit workspaceId location priority payload requestId createdAt) := by
  by_cases fit : workspaceId ≠ "" ∧ location ≠ ""
  · obtain ⟨request, waiting, rfl, rfl, rfl, stored⟩ :=
      @submit_stored state manager _ _ priority payload requestId createdAt fit.1 fit.2
    rw [stored, liveDistinct_put_iff distinct (isLive_of_pending waiting)]
    exact ⟨fun alone _ _ => alone, fun alone => alone fit.1 fit.2⟩
  · rw [submit_refused manager priority payload requestId createdAt fit]
    exact ⟨fun _ owned located => absurd ⟨owned, located⟩ fit, fun _ => distinct⟩

/-- A request that is completed or has failed is stored again. -/
theorem liveDistinct_settled {table : QueueTable} {request settled : ImportRequest}
    {target : RequestStatus} {clock : ImportQueueService.Clock} (distinct : LiveDistinct ⟨table, ()⟩)
    (found : table.find? request.requestId = some request)
    (done : ImportQueueService.settle request target clock = .ok settled)
    (ends : target = .completed ∨ target = .failed) : LiveDistinct ⟨table.put settled, ()⟩ := by
  obtain ⟨same, status, _, workspace, location⟩ := ImportQueueService.settle_ok done
  refine liveDistinct_rewrite distinct found ?_ same workspace location
  intro live
  rcases ends with rfl | rfl
  · simp [isLive, status] at live
  · simp [isLive, status] at live

/-- The calls that neither submit nor retry make no request live. -/
theorem Effect.keeps_distinct {table next : QueueTable} {queueCall : QueueCall}
    {answer : Except PyExc QueueAnswer} (effect : Effect table queueCall answer next)
    (distinct : LiveDistinct ⟨table, ()⟩)
    (other : ∀ workspaceId location priority payload requestId createdAt,
      queueCall ≠ .submit workspaceId location priority payload requestId createdAt)
    (granted : ∀ requestId, queueCall ≠ .retry requestId) : LiveDistinct ⟨next, ()⟩ := by
  cases effect with
  | raised | kept | nothingPending => exact distinct
  | submitted => exact absurd rfl (other _ _ _ _ _ _)
  | dequeued first =>
      exact liveDistinct_rewrite distinct first.find? (fun _ => isLive_of_pending first.waiting)
        (by simp) (by simp) (by simp)
  | cancelled found =>
      exact liveDistinct_rewrite distinct found (by simp [isLive]) (by simp) (by simp) (by simp)
  | completed found done => exact liveDistinct_settled distinct found done (.inl rfl)
  | failed found done => exact liveDistinct_settled distinct found done (.inr rfl)
  | retried => exact absurd rfl (granted _)

theorem retry_decides (manager : StorageManager) (distinct : LiveDistinct state)
    (requestId : String) :
    LiveDistinct (queueStep (dedupQueue manager) state (.retry requestId)).2 ↔
      Unrivalled state (.retry requestId) := by
  unfold queueStep QueueCall.program retryRequest Unrivalled
  cases found : state.table.find? requestId with
  | none => simpa [found] using distinct
  | some request =>
      obtain rfl : request.requestId = requestId := Keyed.key_of_find? found
      by_cases granted : request.canRetry = true
      · have live : isLive request.requeued = true := isLive_of_pending rfl
        simpa [found, ImportRequest.retry, granted] using liveDistinct_put_iff distinct live
      · simpa [found, ImportRequest.retry, granted] using distinct

/-- One call keeps the live requests distinct exactly when it makes none live at the place of
another. -/
theorem queueStep_decides (manager : StorageManager) (distinct : LiveDistinct state)
    (queueCall : QueueCall) :
    LiveDistinct (queueStep (dedupQueue manager) state queueCall).2 ↔
      Unrivalled state queueCall := by
  have effect := queueStep_effect (dedupQueue manager) state queueCall
  cases queueCall with
  | submit workspaceId location priority payload requestId createdAt =>
      exact submit_decides manager distinct workspaceId location priority payload requestId createdAt
  | retry requestId => exact retry_decides manager distinct requestId
  | dequeue | cancel | markCompleted | markFailed =>
      exact ⟨fun _ => trivial, fun _ => effect.keeps_distinct distinct nofun nofun⟩

/-- With the shipped storage, the live requests of a run stay distinct, and submissions for a live
place are rejected, exactly when the callers make no request live where another is. -/
theorem live_distinct_iff (manager : StorageManager) (start : QueueState Unit)
    (calls : List QueueCall) :
    Throughout (queueStep (dedupQueue manager)) LiveDistinct start calls ∧
        Along (queueStep (dedupQueue manager)) (RejectsTwin manager) start calls ↔
      LiveDistinct start ∧ Along (queueStep (dedupQueue manager)) Unrivalled start calls := by
  have decides : ∀ state queueCall, True → LiveDistinct state →
      (LiveDistinct (queueStep (dedupQueue manager) state queueCall).2 ↔
        Unrivalled state queueCall) :=
    fun _ queueCall _ distinct => queueStep_decides manager distinct queueCall
  have decided (distinct : LiveDistinct start) :=
    throughout_iff_along (fun _ _ _ _ => trivial) decides trivial distinct calls
  have quiet : ∀ state queueCall, Unrivalled state queueCall →
      RejectsTwin manager state queueCall := by
    intro state queueCall alone
    cases queueCall with
    | submit => exact fun owned located twin => absurd twin (alone owned located)
    | dequeue | cancel | markCompleted | markFailed | retry => trivial
  constructor
  · rintro ⟨kept, _⟩
    have first := (throughout_iff _ _ _ _).mp kept [] List.nil_prefix
    exact ⟨first, (decided first).mp kept⟩
  · rintro ⟨distinct, along⟩
    exact ⟨(decided distinct).mpr along, along.mono quiet⟩

/-- A file that is imported twice, under the ids the two submissions make. -/
def importedTwice : List QueueCall :=
  [.submit "lawFirm" "/inbox/a.pdf" 0 [] "r1" 0, .submit "lawFirm" "/inbox/a.pdf" 0 [] "r2" 1]

theorem imported_twice_live :
    ¬ Throughout (queueStep (dedupQueue StorageManager.plain)) LiveDistinct ⟨.empty, ()⟩
      importedTwice := by
  rintro ⟨_, _, distinct⟩
  have named : "lawFirm" ≠ "" := by decide
  let first : ImportRequest := ⟨"lawFirm", "/inbox/a.pdf", "r1", 0, .pending, [], 0, none, none, 0,
    3, named⟩
  let second : ImportRequest := ⟨"lawFirm", "/inbox/a.pdf", "r2", 0, .pending, [], 1, none, none, 0,
    3, named⟩
  have apart : second.requestId ≠ first.requestId := by simp [first, second]
  have rows : (run (queueStep (dedupQueue StorageManager.plain)) ⟨.empty, ()⟩
      importedTwice).2.table.rows = [first, second] := rfl
  have inside (request : ImportRequest) (listed : request ∈ [first, second]) :
      request ∈ (run (queueStep (dedupQueue StorageManager.plain)) ⟨.empty, ()⟩
        importedTwice).2.table.rows := rows ▸ listed
  exact distinct first (inside first (by simp)) rfl
    ⟨second, inside second (by simp), rfl, rfl, rfl, apart⟩

end LexMind.ImportQueue
