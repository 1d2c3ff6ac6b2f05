import LexMind.Tasks.ObservedTask

set_option autoImplicit false

/- How often the handler is called, over one execution and over a task's life. -/
namespace LexMind.Tasks

open Lib Events TaskExecutorService

variable {γ : Type} {collaborators : Collaborators γ} {outcomes : Nat → Except PyExc String}

/-- The position of the first call that succeeds, or infinity. -/
noncomputable def firstSuccess (outcomes : Nat → Except PyExc String) : ℕ∞ :=
  ⨅ k : {k : ℕ // 0 < k ∧ (outcomes k).isOk = true}, (k.1 : ℕ∞)

theorem not_isOk {result : Except PyExc String} {exc : PyExc} (failed : result = .error exc) :
    ¬ result.isOk = true := by
  rw [failed]
  nofun

theorem firstSuccess_eq {last : Nat} (positive : 0 < last) (succeeds : (outcomes last).isOk = true)
    (failed : ∀ k, 0 < k → k < last → ∃ exc, outcomes k = .error exc) :
    firstSuccess outcomes = last := by
  apply le_antisymm
  · exact iInf_le_of_le ⟨last, positive, succeeds⟩ (le_refl _)
  · refine le_iInf (fun ⟨k, above, ok⟩ => Nat.cast_le.mpr (not_lt.mp (fun below => ?_)))
    obtain ⟨exc, raised⟩ := failed k above below
    exact not_isOk raised ok

theorem lt_firstSuccess {last : Nat}
    (failed : ∀ k, 0 < k → k ≤ last → ∃ exc, outcomes k = .error exc) :
    (last : ℕ∞) < firstSuccess outcomes := by
  rw [← ENat.add_one_le_iff (ENat.natCast_ne_top last)]
  refine le_iInf (fun ⟨k, above, ok⟩ => ?_)
  have beyond : last + 1 ≤ k := by
    by_contra below
    obtain ⟨exc, raised⟩ := failed k above (by omega)
    exact not_isOk raised ok
  exact_mod_cast beyond

/-- The calls that the limit admits: one, and one for each retry. -/
def callsAllowed (limit : Int) : Nat := (max 0 limit).toNat + 1

section Settled

variable {last : Nat} {before after : World γ} (settled : Settled outcomes 1 last before after)

include settled

theorem Settled.within : last ≤ callsAllowed before.task.maxRetries := by
  unfold callsAllowed
  rcases Nat.eq_or_lt_of_le settled.ordered with rfl | retried
  · omega
  · have := (settled.retried (last - 1) (by omega) (by omega)).1
    omega

theorem Settled.succeeded {result : String} (outcome : outcomes last = .ok result) :
    firstSuccess outcomes = last :=
  firstSuccess_eq settled.ordered (by rw [outcome]; rfl)
    (fun k above below => (settled.retried k above below).2)

theorem Settled.exhausted {exc : PyExc} (outcome : outcomes last = .error exc) :
    last = callsAllowed before.task.maxRetries ∧ (last : ℕ∞) < firstSuccess outcomes := by
  have concluded := settled.concluded
  rw [outcome] at concluded
  constructor
  · have within := settled.within
    have positive := settled.ordered
    have beyond := concluded.1
    unfold callsAllowed at within ⊢
    omega
  · refine lt_firstSuccess (fun k above below => ?_)
    rcases Nat.eq_or_lt_of_le below with rfl | before
    · exact ⟨exc, outcome⟩
    · exact (settled.retried k above before).2

theorem Settled.calls :
    (last : ℕ∞) = min (firstSuccess outcomes) (callsAllowed before.task.maxRetries) := by
  cases outcome : outcomes last with
  | ok result =>
      rw [settled.succeeded outcome, min_eq_left (Nat.cast_le.mpr settled.within)]
  | error exc =>
      obtain ⟨all, later⟩ := settled.exhausted outcome
      rw [← all, min_eq_right later.le]

end Settled

section Counts

variable (task : Task)

/-- What each retried attempt shows once, all of them show once each. -/
theorem countP_retried (seen : Observation → Bool)
    (once : ∀ attempt, (failedTry task attempt).countP seen = 1) (attempts : List Nat) :
    (attempts.flatMap (failedTry task)).countP seen = attempts.length := by
  induction attempts with
  | nil => rfl
  | cons attempt rest ih =>
      rw [List.flatMap_cons, List.countP_append, once, ih, List.length_cons, Nat.add_comm]

theorem delays_retried (attempts : List Nat) :
    delays (attempts.flatMap (failedTry task)) =
      List.replicate attempts.length task.timeoutSeconds := by
  induction attempts with
  | nil => rfl
  | cons attempt rest ih =>
      rw [List.flatMap_cons, delays, List.filterMap_append]
      rw [delays] at ih
      rw [ih]
      rfl

end Counts

/-- What the events of the loop are counted by. -/
structure Counted (last : Nat) (seconds : Rat) (before after : List Observation) : Prop where
  handled : handlerCalls after = handlerCalls before + last
  started : eventsOf "TaskStartedEvent" after = eventsOf "TaskStartedEvent" before + last
  retried : eventsOf "TaskRetriedEvent" after + 1 = eventsOf "TaskRetriedEvent" before + last
  delayed : delays after = delays before ++ List.replicate (last - 1) seconds

theorem Settled.counted {last : Nat} {before after : World γ}
    (settled : Settled outcomes 1 last before after) :
    Counted last before.task.timeoutSeconds before.trace after.trace := by
  have positive := settled.ordered
  obtain ⟨event, named, trace⟩ := settled.trace
  have length : (List.range' 1 (last - 1)).length = last - 1 := List.length_range'
  rw [trace]
  constructor
  · have each := countP_retried before.task (fun seen => seen == .handlerCalled)
      (fun _ => by simp [failedTry]) (List.range' 1 (last - 1))
    simp only [handlerCalls, List.count, List.countP_append, each, length]
    simp
    omega
  · have each := countP_retried before.task (Observation.isEvent "TaskStartedEvent")
      (fun _ => by simp [failedTry, Observation.isEvent, taskStarted, taskRetried, domainEvent])
      (List.range' 1 (last - 1))
    simp only [eventsOf, List.countP_append, each, length]
    rcases named with same | same
    · simp [Observation.isEvent, taskStarted, domainEvent, same]
      omega
    · simp [Observation.isEvent, taskStarted, domainEvent, same]
      omega
  · have each := countP_retried before.task (Observation.isEvent "TaskRetriedEvent")
      (fun _ => by simp [failedTry, Observation.isEvent, taskStarted, taskRetried, domainEvent])
      (List.range' 1 (last - 1))
    simp only [eventsOf, List.countP_append, each, length]
    rcases named with same | same
    · simp [Observation.isEvent, taskStarted, domainEvent, same]
      omega
    · simp [Observation.isEvent, taskStarted, domainEvent, same]
      omega
  · have each := delays_retried before.task (List.range' 1 (last - 1))
    rw [length] at each
    unfold delays at each ⊢
    rw [List.filterMap_append, List.filterMap_append, each]
    simp [Observation.seconds?]

/-- What can be done with a task again and again. -/
inductive TaskUse
  | execute (clock : Nat → Timestamp)
  | retry

def TaskUse.program (collaborators : Collaborators γ) : TaskUse → Py (World γ) Unit
  | .execute clock => TaskExecutorService.execute collaborators.observed clock
  | .retry => onTask collaborators.observed Task.retry

def useStep (collaborators : Collaborators γ) (world : World γ) (use : TaskUse) :
    Except PyExc Unit × World γ :=
  call (use.program collaborators) world

/-- Either the handler has not been called, or no further execution can begin. -/
structure Spent (limit : Int) (world : World γ) : Prop where
  maxRetries : world.task.maxRetries = limit
  calls : handlerCalls world.trace = 0 ∨ handlerCalls world.trace ≤ callsAllowed limit ∧
    (world.task.status = .completed ∨
      world.task.status = .failed ∧ limit < world.task.attempts)

theorem Settled.spent {last : Nat} {before after : World γ}
    (settled : Settled outcomes 1 last before after) (fresh : handlerCalls before.trace = 0) :
    Spent before.task.maxRetries after := by
  have counted := settled.counted.handled
  have within := settled.within
  have concluded := settled.concluded
  refine ⟨settled.maxRetries, .inr ⟨by omega, ?_⟩⟩
  cases outcome : outcomes last with
  | ok result =>
      rw [outcome] at concluded
      exact .inl concluded.1
  | error exc =>
      rw [outcome] at concluded
      exact .inr ⟨concluded.2.1, settled.attempts ▸ concluded.1⟩

theorem useStep_spent (scripted : Scripted collaborators outcomes) {limit : Int} (world : World γ)
    (use : TaskUse) (spent : Spent limit world) : Spent limit (useStep collaborators world use).2 := by
  obtain ⟨maxRetries, calls⟩ := spent
  cases use with
  | retry =>
      rw [useStep, TaskUse.program, call_onTask, Task.retry, call_bind, call_get, andThen_ok]
      by_cases again : world.task.canRetry = true
      · have fresh : handlerCalls world.trace = 0 := by
          rcases calls with fresh | ⟨_, final | ⟨_, final⟩⟩
          · exact fresh
          · simp [Task.canRetry, final] at again
          · simp [Task.canRetry, maxRetries, not_lt.mpr final.le] at again
        rw [observed_task, if_pos again]
        exact ⟨maxRetries, .inl fresh⟩
      · rw [observed_task, if_neg again]
        exact ⟨maxRetries, calls⟩
  | execute clock =>
      rw [useStep, TaskUse.program]
      by_cases pending : world.task.status = .pending
      · have fresh : handlerCalls world.trace = 0 := by
          rcases calls with fresh | ⟨_, final | ⟨final, _⟩⟩
          · exact fresh
          · rw [pending] at final
            cases final
          · rw [pending] at final
            cases final
        by_cases known : world.task.taskType ∈ world.registered
        · obtain ⟨env, last, after, ended, settled⟩ :=
            execute_settles scripted clock world pending known fresh
          rw [ended]
          have spent := settled.spent (by simpa [handlerCalls] using fresh)
          rwa [Task.moved_maxRetries, maxRetries] at spent
        · obtain ⟨exc, env, ended⟩ := execute_unknown scripted clock world pending known
          rw [ended]
          exact ⟨maxRetries, .inl (by simpa [handlerCalls] using fresh)⟩
      · obtain ⟨exc, ended⟩ := execute_refused collaborators clock world pending
        rw [ended]
        exact ⟨maxRetries, calls⟩

/-- A PENDING task with a handler is tried until a call succeeds or the limit is spent; and however
often a task is executed and retried, the limit is spent once. -/
theorem retry_accounting (scripted : Scripted collaborators outcomes) (task : Task)
    (registered : TaskRegistry) (env : γ) :
    (task.status = .pending → task.taskType ∈ registered → ∀ clock, ∃ (calls : ℕ) (after : World γ),
      call (execute collaborators.observed clock) (World.start task registered env) =
        (.ok (), after) ∧
      (calls : ℕ∞) = min (firstSuccess outcomes) (callsAllowed task.maxRetries) ∧
      handlerCalls after.trace = calls ∧ after.task.attempts = calls ∧
      eventsOf "TaskStartedEvent" after.trace = calls ∧
      eventsOf "TaskRetriedEvent" after.trace + 1 = calls ∧
      delays after.trace = List.replicate (calls - 1) task.timeoutSeconds ∧
      after.task.status = if (outcomes calls).isOk then .completed else .failed) ∧
    ∀ uses, handlerCalls (run (useStep collaborators) (World.start task registered env) uses).2.trace ≤
      callsAllowed task.maxRetries := by
  constructor
  · intro pending known clock
    obtain ⟨env', calls, after, ended, settled⟩ := execute_settles scripted clock
      (World.start task registered env) pending known rfl
    have counted := settled.counted
    have concluded := settled.concluded
    refine ⟨calls, after, ended, ?_, ?_, settled.attempts, ?_, ?_, ?_, ?_⟩
    · simpa using settled.calls
    · simpa [handlerCalls] using counted.handled
    · simpa [eventsOf, Observation.isEvent, taskSubmitted, domainEvent] using counted.started
    · simpa [eventsOf, Observation.isEvent, taskSubmitted, domainEvent] using counted.retried
    · have delayed := counted.delayed
      rw [Task.moved_timeoutSeconds] at delayed
      exact delayed
    · cases outcome : outcomes calls with
      | ok result =>
          rw [outcome] at concluded
          exact concluded.1
      | error exc =>
          rw [outcome] at concluded
          exact concluded.2.1
  · intro uses
    have start : Spent task.maxRetries (World.start task registered env) := ⟨rfl, .inl rfl⟩
    have spent := run_invariant (useStep_spent scripted) start uses
    rcases spent.calls with none | ⟨within, _⟩
    · rw [none]
      exact Nat.zero_le _
    · exact within

/-- Collaborators that record nothing of their own. -/
def plain (outcomes : Nat → Except PyExc String) : Collaborators Unit where
  publish := fun _ => pure ()
  handle := fun world =>
    match outcomes (handlerCalls world.trace) with
    | .ok result => .ok result world
    | .error exc => .error exc world
  delay := fun _ => pure ()

theorem plain_scripted (outcomes : Nat → Except PyExc String) :
    Scripted (plain outcomes) outcomes where
  publishes := fun _ _ => ⟨(), rfl⟩
  handles := fun world => ⟨(), by
    cases outcome : outcomes (handlerCalls world.trace) <;> simp [call, plain, outcome]⟩
  delays := fun _ _ => ⟨(), rfl⟩

def indexing (maxRetries : Int) : Task where
  taskType := "index"
  name := ""
  taskId := "t"
  workspaceId := ""
  payload := []
  status := .pending
  attempts := 0
  maxRetries := maxRetries
  timeoutSeconds := 3
  result := ""
  errorMessage := ""
  createdAt := 0
  startedAt := none
  completedAt := none
  typed := by decide

/-- The handler succeeds when it is called again. -/
def secondTime (call : Nat) : Except PyExc String :=
  if call ≤ 1 then .error (.callable "busy") else .ok "done"

/-- One retry is allowed and one is needed. -/
theorem retry_accounting_second_time :
    (∃ (calls : ℕ) (after : World Unit),
      call (execute (plain secondTime).observed id) (World.start (indexing 1) ["index"] ()) =
        (.ok (), after) ∧ (calls : ℕ∞) = min (firstSuccess secondTime) (callsAllowed 1) ∧
      handlerCalls after.trace = calls) ∧
    handlerCalls (run (useStep (plain secondTime)) (World.start (indexing 1) ["index"] ())
      [.execute id, .retry, .execute id]).2.trace ≤ callsAllowed 1 := by
  have accounting := retry_accounting (plain_scripted secondTime) (indexing 1) ["index"] ()
  obtain ⟨calls, after, ended, number, handled, _⟩ := accounting.1 rfl (by simp [indexing]) id
  exact ⟨⟨calls, after, ended, number, handled⟩, accounting.2 _⟩

end LexMind.Tasks
