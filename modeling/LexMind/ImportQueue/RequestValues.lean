import LexMind.ImportQueue.ImportRequest
import LexMind.Lib.Run

set_option autoImplicit false

/- The values a request takes, and how often it comes back into the queue. -/
namespace LexMind.ImportQueue

open Lib

inductive RequestCall
  | transitionTo (target : RequestStatus) (now : Timestamp)
  | retry

def RequestCall.result (request : ImportRequest) : RequestCall → Except PyExc ImportRequest
  | .transitionTo target now => request.transitionTo target now
  | .retry => request.retry

/-- A call that raises leaves the request as it was. -/
def requestStep (request : ImportRequest) (requestCall : RequestCall) :
    Except PyExc Unit × ImportRequest :=
  match requestCall.result request with
  | .ok next => (.ok (), next)
  | .error exc => (.error exc, request)

/-- The constructor called with the current field values. -/
def ImportRequest.rebuild (request : ImportRequest) : Except PyExc ImportRequest :=
  create request.workspaceId request.location request.requestId request.priority request.status
    request.payload request.createdAt request.startedAt request.completedAt request.retries
    request.maxRetries

theorem ImportRequest.rebuild_ok_iff (request : ImportRequest) :
    request.rebuild = .ok request ↔ request.retries < request.maxRetries := by
  unfold rebuild create
  rw [dif_neg request.hasWorkspace]
  split
  · rename_i spent
    refine iff_of_false ?_ (by omega)
    intro same
    cases same
  · rename_i room
    exact ⟨fun _ => by omega, fun _ => rfl⟩

/-- A request with the number of times it has entered PENDING again. -/
structure Counted where
  request : ImportRequest
  entries : Int

def countedStep (counted : Counted) (requestCall : RequestCall) : Except PyExc Unit × Counted :=
  let after := requestStep counted.request requestCall
  (after.1, {
    request := after.2
    entries :=
      if counted.request.status ≠ .pending ∧ after.2.status = .pending then counted.entries + 1
      else counted.entries })

/-- The values pass the constructor, and the request has come back at most so many times. -/
def Valid (limit : Int) (counted : Counted) : Prop :=
  counted.request.rebuild = .ok counted.request ∧ counted.entries ≤ limit

/-- A granted retry is not the last one the guard grants, and neither it nor a transition from
FAILED to PENDING is made by a request that has come back as often as it may. -/
def Spared (limit : Int) (counted : Counted) : RequestCall → Prop
  | .retry => counted.request.canRetry = true →
      counted.request.retries + 1 < counted.request.maxRetries ∧ counted.entries < limit
  | .transitionTo target _ =>
      target = .pending → counted.request.status = .failed → counted.entries < limit

theorem countedStep_limit (limit : Int) (counted : Counted) (requestCall : RequestCall)
    (same : counted.request.maxRetries = limit) :
    (countedStep counted requestCall).2.request.maxRetries = limit := by
  unfold countedStep requestStep
  cases requestCall with
  | retry =>
      cases answer : counted.request.retry with
      | error exc => simpa [RequestCall.result, answer] using same
      | ok next =>
          obtain ⟨_, rfl⟩ := ImportRequest.retry_ok answer
          simpa [RequestCall.result, answer] using same
  | transitionTo target now =>
      cases answer : counted.request.transitionTo target now with
      | error exc => simpa [RequestCall.result, answer] using same
      | ok next =>
          obtain ⟨_, rfl⟩ := ImportRequest.transitionTo_ok answer
          simpa [RequestCall.result, answer] using same

/-- Only FAILED leads back to PENDING. -/
theorem pending_mem_transitions (current : RequestStatus) :
    .pending ∈ transitions current ↔ current = .failed := by
  cases current <;> simp [transitions]

theorem countedStep_valid_iff (limit : Int) (counted : Counted) (requestCall : RequestCall)
    (valid : Valid limit counted) :
    Valid limit (countedStep counted requestCall).2 ↔ Spared limit counted requestCall := by
  obtain ⟨values, few⟩ := valid
  have room := counted.request.rebuild_ok_iff.mp values
  unfold Valid
  rw [ImportRequest.rebuild_ok_iff]
  cases requestCall with
  | retry =>
      by_cases granted : counted.request.canRetry = true
      · have failed := (ImportRequest.canRetry_iff.mp granted).1
        simp only [countedStep, requestStep, RequestCall.result, ImportRequest.retry, granted,
          if_true, Spared, failed, ImportRequest.requeued_status, ImportRequest.requeued_retries,
          ImportRequest.requeued_maxRetries, ne_eq, reduceCtorEq, not_false_eq_true, and_self,
          forall_const]
        omega
      · simp [countedStep, requestStep, RequestCall.result, ImportRequest.retry, granted, Spared,
          room, few]
  | transitionTo target now =>
      by_cases allowed : target ∈ transitions counted.request.status
      · by_cases back : target = .pending
        · subst back
          have failed := (pending_mem_transitions _).mp allowed
          simp only [countedStep, requestStep, RequestCall.result,
            ImportRequest.transitionTo_of_valid allowed, Spared, failed,
            ImportRequest.moved_status, ImportRequest.moved_retries,
            ImportRequest.moved_maxRetries, ne_eq, reduceCtorEq, not_false_eq_true, and_self,
            if_true, room, forall_const, true_and]
          omega
        · simp [countedStep, requestStep, RequestCall.result,
            ImportRequest.transitionTo_of_valid allowed, Spared, back, room, few]
      · have kept : Spared limit counted (.transitionTo target now) := by
          rintro rfl failed
          exact absurd ((pending_mem_transitions _).mpr failed) allowed
        simp [countedStep, requestStep, RequestCall.result, ImportRequest.transitionTo,
          canTransition, allowed, kept, room, few]

/-- A new request stays valid and comes back at most `maxRetries` times exactly when every call
on it is spared the last retry and the way back that is not counted. -/
theorem request_values_valid_iff {workspaceId location requestId : String} {priority : Int}
    {status : RequestStatus} {payload : List (String × String)} {createdAt : Timestamp}
    {startedAt completedAt : Option Timestamp} {maxRetries : Int} {request : ImportRequest}
    (made : ImportRequest.create workspaceId location requestId priority status payload createdAt
      startedAt completedAt 0 maxRetries = .ok request) (calls : List RequestCall) :
    Throughout countedStep (Valid maxRetries) ⟨request, 0⟩ calls ↔
      Along countedStep (Spared maxRetries) ⟨request, 0⟩ calls := by
  have fresh : request.retries = 0 ∧ request.maxRetries = maxRetries ∧ 0 < maxRetries := by
    unfold ImportRequest.create at made
    split at made
    · cases made
    · split at made
      · cases made
      · cases made
        exact ⟨rfl, rfl, by omega⟩
  obtain ⟨none, limit, some⟩ := fresh
  have valid : Valid maxRetries ⟨request, 0⟩ :=
    ⟨request.rebuild_ok_iff.mpr (by omega), Int.le_of_lt some⟩
  exact throughout_iff_along
    (fun counted requestCall limit _ => countedStep_limit maxRetries counted requestCall limit)
    (fun counted requestCall _ holds => countedStep_valid_iff maxRetries counted requestCall holds)
    limit valid calls

theorem lawFirm_ne_empty : "lawFirm" ≠ "" := by decide

/-- A submitted request, with the default of three retries. -/
def contract : ImportRequest where
  workspaceId := "lawFirm"
  location := "storage://lawFirm/contract.pdf"
  requestId := "r1"
  priority := 1
  status := .pending
  payload := []
  createdAt := 0
  startedAt := none
  completedAt := none
  retries := 0
  maxRetries := 3
  hasWorkspace := lawFirm_ne_empty

def failAndRetry : List RequestCall := [.transitionTo .failed 0, .retry]

/-- The third retry is granted, and the values it leaves are refused. -/
theorem last_retry_invalid :
    ImportRequest.create "lawFirm" "storage://lawFirm/contract.pdf" "r1" 1 .pending [] 0 none none 0 3 =
      .ok contract ∧
    ¬ Throughout countedStep (Valid 3) ⟨contract, 0⟩
      (failAndRetry ++ failAndRetry ++ failAndRetry) := by
  refine ⟨rfl, fun throughout => ?_⟩
  have reached := (throughout_iff ..).mp throughout _ (List.prefix_refl _)
  have room := (ImportRequest.rebuild_ok_iff _).mp reached.1
  exact absurd room (by decide)

theorem first_retry_valid :
    Throughout countedStep (Valid 3) ⟨contract, 0⟩ failAndRetry :=
  (request_values_valid_iff (rfl : ImportRequest.create "lawFirm" "storage://lawFirm/contract.pdf" "r1"
      1 .pending [] 0 none none 0 3 = .ok contract) failAndRetry).mpr
    ⟨nofun, fun _ => ⟨by decide, by decide⟩, trivial⟩

end LexMind.ImportQueue
