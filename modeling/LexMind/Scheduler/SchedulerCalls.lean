import LexMind.Lib.Run
import LexMind.Scheduler.JobScheduler

set_option autoImplicit false

/- What each scheduler call does where its events reach no bus: one lemma per
operation, with every branch of the source. -/
namespace LexMind.Scheduler

open Lib Events

/-- A scheduler and its executor, neither of them with a bus. -/
abbrev plain (state : SchedulerState) : Wired Scheduling := ⟨⟨state, .shared⟩, none⟩

/-- Neither the scheduler nor its executor has a bus. -/
def Unheard (wired : Wired Scheduling) : Prop :=
  wired.bus = none ∧ wired.service.executorBus = .shared

theorem plain_silent : ExecutorBus.shared.heard none = none := rfl

def withStore (state : SchedulerState) (store : JobStore) : SchedulerState :=
  { state with store := store }

@[simp] theorem withStore_store (state : SchedulerState) (store : JobStore) :
    (withStore state store).store = store := rfl

@[simp] theorem withStore_registered (state : SchedulerState) (store : JobStore) :
    (withStore state store).registered = state.registered := rfl

@[simp] theorem withStore_self (state : SchedulerState) : withStore state state.store = state := rfl

@[simp] theorem withStore_withStore (state : SchedulerState) (first second : JobStore) :
    withStore (withStore state first) second = withStore state second := rfl

/-- No job is pending, or the first one has no handler. -/
def Stuck (state : SchedulerState) (round : JobScheduler.Round) : Prop :=
  ∀ job, (JobRepository.pendingRows round.scan state.store.table).head? = some job →
    job.jobType ∉ state.registered

section Wirings

variable (state : SchedulerState) {executorBus : ExecutorBus} {bus : Option EventBus}

@[simp] theorem call_onRepo {α : Type} (program : Py JobStore α) :
    call (onRepo program) ⟨⟨state, executorBus⟩, bus⟩ =
      ((call program state.store).1,
        ⟨⟨withStore state (call program state.store).2, executorBus⟩, bus⟩) := by
  simp only [onRepo, call_onPart]
  rfl

@[simp] theorem call_observe (event : Observation) :
    call (observe event) ⟨⟨state, executorBus⟩, bus⟩ =
      (.ok (), ⟨⟨withStore state (state.store.observe event), executorBus⟩, bus⟩) := by
  simp [observe]

@[simp] theorem JobExecutor.call_emit_shared (event : EventObject) :
    call (JobExecutor.emit event) ⟨⟨state, .shared⟩, bus⟩ =
      call (Events.emit event) ⟨⟨state, .shared⟩, bus⟩ := by
  simp [JobExecutor.emit]

/-- An executor without a bus publishes nothing. -/
theorem JobExecutor.call_emit_silent (silent : executorBus.heard bus = none)
    (event : EventObject) :
    call (JobExecutor.emit event) ⟨⟨state, executorBus⟩, bus⟩ =
      (.ok (), ⟨⟨state, executorBus⟩, bus⟩) := by
  cases executorBus with
  | shared =>
      cases silent
      rw [call_emit_shared, emit_without_bus]
  | own other =>
      cases silent
      simp [JobExecutor.emit]

/-- An executor with a bus raises at an event without a name. -/
theorem JobExecutor.call_emit_unnamed {reached : EventBus}
    (heard : executorBus.heard bus = some reached) (event : EventObject)
    (unnamed : event.attributes.lookup "name" = none) :
    call (JobExecutor.emit event) ⟨⟨state, executorBus⟩, bus⟩ =
      (.error (.attributeError event.className "name"), ⟨⟨state, executorBus⟩, bus⟩) := by
  cases executorBus with
  | shared =>
      cases heard
      rw [call_emit_shared, emit_unnamed event unnamed]
  | own other =>
      cases heard
      simp [JobExecutor.emit, EventBus.publish_unnamed event unnamed]

end Wirings

namespace Job

/-- The job as the executor stores it before the handler runs. -/
def begun (job : Job) (clock : Clock) : Job := job.moved .running (clock 0)

/-- The outcome of a handler call, on the job the executor holds. -/
def concluded (running : Job) (outcome : HandlerOutcome) (now : Timestamp) : Job :=
  match outcome with
  | .ok result => { running with result := result }.moved .completed now
  | .error text => { running with errorMessage := text }.moved .failed now

/-- The job as one execution leaves it. -/
def ran (job : Job) (outcome : HandlerOutcome) (clock : Clock) : Job :=
  (job.begun clock).concluded outcome (clock 1)

variable (job : Job) (outcome : HandlerOutcome) (clock : Clock) (now : Timestamp)

@[simp] theorem begun_id : (job.begun clock).id = job.id := by simp [begun]
@[simp] theorem begun_status : (job.begun clock).status = .running := rfl

@[simp] theorem concluded_id : (job.concluded outcome now).id = job.id := by
  cases outcome <;> simp [concluded]

theorem concluded_status :
    (job.concluded outcome now).status = .completed ∨ (job.concluded outcome now).status = .failed := by
  cases outcome <;> simp [concluded]

@[simp] theorem concluded_attempts : (job.concluded outcome now).attempts = job.attempts := by
  cases outcome <;> simp [concluded, moved_attempts]

@[simp] theorem concluded_startedAt : (job.concluded outcome now).startedAt = job.startedAt := by
  cases outcome <;> simp [concluded, moved_startedAt]

@[simp] theorem concluded_maxRetries : (job.concluded outcome now).maxRetries = job.maxRetries := by
  cases outcome <;> simp [concluded]

theorem ran_attempts : (job.ran outcome clock).attempts =
    if job.startedAt = none then job.attempts + 1 else job.attempts := by
  simp [ran, begun, moved_attempts]

theorem ran_startedAt : (job.ran outcome clock).startedAt ≠ none := by
  simp only [ran, concluded_startedAt, begun, moved_startedAt, true_and]
  split
  · simp
  · assumption

@[simp] theorem ran_maxRetries : (job.ran outcome clock).maxRetries = job.maxRetries := by
  simp [ran, begun]

@[simp] theorem ran_id : (job.ran outcome clock).id = job.id := by simp [ran]

theorem ran_status :
    (job.ran outcome clock).status = .completed ∨ (job.ran outcome clock).status = .failed :=
  concluded_status _ _ _

end Job

namespace JobRepository

/-- A transition changes no column `update` leaves alone. -/
theorem overwrite_moved (job : Job) (target : JobStatus) (now : Timestamp) :
    overwrite job (job.moved target now) = job.moved target now := by
  unfold overwrite Job.moved Job.markStarted Job.markCompleted
  split <;> split <;> rfl

theorem overwrite_requeued (job : Job) (now : Timestamp) :
    overwrite job (job.requeued now) = job.requeued now := rfl

@[simp] theorem overwrite_self (job : Job) : overwrite job job = job := rfl

theorem overwrite_concluded (running : Job) (outcome : HandlerOutcome) (now : Timestamp) :
    overwrite running (running.concluded outcome now) = running.concluded outcome now := by
  cases outcome with
  | ok result => exact overwrite_moved { running with result := result } .completed now
  | error text => exact overwrite_moved { running with errorMessage := text } .failed now

end JobRepository

namespace JobStore

/-- The writes of one executed job: RUNNING, then its outcome. -/
def executed (store : JobStore) (running final : Job) : JobStore :=
  ((store.write running).observe (.handled running.id)).write final

/-- The writes of a granted retry: the update, then the one `enqueue` repeats. -/
def regranted (store : JobStore) (job : Job) : JobStore :=
  ((store.write job).observe (.retried job.id)).write job

def admitted (store : JobStore) (job : Job) : JobStore :=
  (store.write job).observe (.submitted job.id)

end JobStore

section Silent

variable (state : SchedulerState) {executorBus : ExecutorBus} {bus : Option EventBus}

theorem call_persist (job row : Job) (present : state.store.table.find? job.id = some row)
    (executorBus : ExecutorBus) (bus : Option EventBus) :
    call (JobExecutor.persist job) ⟨⟨state, executorBus⟩, bus⟩ =
      (.ok (), ⟨⟨withStore state (state.store.write (JobRepository.overwrite row job)), executorBus⟩,
        bus⟩) := by
  simp [JobExecutor.persist, present, JobRepository.call_update _ _ _ present]

theorem call_enqueue_fresh (job : Job) (waiting : job.status = .pending)
    (fresh : state.store.table.find? job.id = none) (executorBus : ExecutorBus)
    (bus : Option EventBus) :
    call (JobQueue.enqueue job) ⟨⟨state, executorBus⟩, bus⟩ =
      (.ok job, ⟨⟨withStore state (state.store.write job), executorBus⟩, bus⟩) := by
  simp [JobQueue.enqueue, waiting, fresh, JobRepository.call_create_fresh _ _ fresh]

theorem call_enqueue_present (job row : Job) (waiting : job.status = .pending)
    (present : state.store.table.find? job.id = some row) (executorBus : ExecutorBus)
    (bus : Option EventBus) :
    call (JobQueue.enqueue job) ⟨⟨state, executorBus⟩, bus⟩ =
      (.ok job, ⟨⟨withStore state (state.store.write (JobRepository.overwrite row job)), executorBus⟩,
        bus⟩) := by
  simp [JobQueue.enqueue, waiting, present, JobRepository.call_update _ _ _ present]

/-- Without a bus the handler's raise is a value and the `except` clause is the
only way to FAILED. -/
theorem call_conclude (silent : executorBus.heard bus = none) (running : Job)
    (busy : running.status = .running) (outcome : HandlerOutcome) (now : Timestamp)
    (present : state.store.table.find? running.id = some running) :
    call (do
        let (handled, raised) ← JobExecutor.tryHandler running outcome now
        JobExecutor.finish handled raised now) ⟨⟨state, executorBus⟩, bus⟩ =
      (.ok (running.concluded outcome now),
        ⟨⟨withStore state ((state.store.observe (.handled running.id)).write
          (running.concluded outcome now)), executorBus⟩, bus⟩) := by
  have persisted := call_persist (withStore state (state.store.observe (.handled running.id)))
    (running.concluded outcome now) running (by simpa using present) executorBus bus
  rw [JobRepository.overwrite_concluded] at persisted
  have quiet := fun (state : SchedulerState) => JobExecutor.call_emit_silent state silent
  cases outcome with
  | ok result =>
      have valid : ({ running with result := result } : Job).transitionTo .completed now =
          .ok (running.concluded (.ok result) now) :=
        Job.transitionTo_of_valid (by simp [busy, validTransitions])
      simp [JobExecutor.tryHandler, JobExecutor.finish, valid, persisted, quiet]
  | error text =>
      have valid : ({ running with errorMessage := PyExc.text (.callable text) } : Job).transitionTo
          .failed now = .ok (running.concluded (.error text) now) :=
        Job.transitionTo_of_valid (by simp [busy, validTransitions])
      simp [JobExecutor.tryHandler, JobExecutor.finish, valid, persisted, quiet]

theorem call_execute (silent : executorBus.heard bus = none) (job : Job)
    (outcome : HandlerOutcome) (clock : Clock) (handled : job.jobType ∈ state.registered)
    (waiting : job.status = .pending) (present : state.store.table.find? job.id = some job) :
    call (JobExecutor.execute job outcome clock) ⟨⟨state, executorBus⟩, bus⟩ =
      (.ok (job.ran outcome clock),
        ⟨⟨withStore state (state.store.executed (job.begun clock) (job.ran outcome clock)),
          executorBus⟩, bus⟩) := by
  have start : job.transitionTo .running (clock 0) = .ok (job.begun clock) :=
    Job.transitionTo_of_valid (by simp [waiting, validTransitions])
  have persisted := call_persist state (job.begun clock) job (by simpa using present) executorBus bus
  rw [Job.begun, JobRepository.overwrite_moved, ← Job.begun] at persisted
  have tail := call_conclude (withStore state (state.store.write (job.begun clock))) silent
    (job.begun clock) rfl outcome (clock 1) (by simp [Keyed.find?_put])
  simp only [JobExecutor.execute, call_bind, call_get, andThen_ok, handled, not_true_eq_false,
    ↓reduceIte, call_check, start, JobExecutor.call_emit_silent _ silent, persisted]
  rw [← call_bind, tail]
  rfl

@[simp] theorem call_isEmpty :
    call JobQueue.isEmpty ⟨⟨state, executorBus⟩, bus⟩ =
      (.ok (decide ((state.store.table.rows.filter JobRepository.isPending).length = 0)),
        ⟨⟨state, executorBus⟩, bus⟩) := by
  simp [JobQueue.isEmpty, JobQueue.size]

theorem call_dequeue (scan : Arrangement Job) :
    call (JobQueue.dequeue scan) ⟨⟨state, executorBus⟩, bus⟩ =
      (.ok (JobRepository.pendingRows scan state.store.table).head?,
        ⟨⟨state, executorBus⟩, bus⟩) := by
  simp [JobQueue.dequeue]

/-- `process_next` finds no pending job, finds one without a handler, or runs the
first one to its outcome. -/
theorem processNext_cases (silent : executorBus.heard bus = none) (round : JobScheduler.Round) :
    (JobRepository.pendingRows round.scan state.store.table = [] ∧
      call (JobScheduler.processNext round) ⟨⟨state, executorBus⟩, bus⟩ =
        (.ok none, ⟨⟨state, executorBus⟩, bus⟩)) ∨
    (∃ job rest, JobRepository.pendingRows round.scan state.store.table = job :: rest ∧
      job.jobType ∉ state.registered ∧
      call (JobScheduler.processNext round) ⟨⟨state, executorBus⟩, bus⟩ =
        (.error (.valueError ("No handler registered for job_type=" ++ pyRepr job.jobType)),
          ⟨⟨state, executorBus⟩, bus⟩)) ∨
    ∃ job rest, JobRepository.pendingRows round.scan state.store.table = job :: rest ∧
      job.jobType ∈ state.registered ∧
      call (JobScheduler.processNext round) ⟨⟨state, executorBus⟩, bus⟩ =
        (.ok (some (job.ran round.outcome round.clock)),
          ⟨⟨withStore state (state.store.executed (job.begun round.clock)
            (job.ran round.outcome round.clock)), executorBus⟩, bus⟩) := by
  unfold JobScheduler.processNext
  rw [call_bind, call_dequeue, andThen_ok]
  cases found : JobRepository.pendingRows round.scan state.store.table with
  | nil => exact .inl ⟨rfl, rfl⟩
  | cons job rest =>
      obtain ⟨present, waiting, _⟩ := JobRepository.pendingRows_head found
      by_cases handled : job.jobType ∈ state.registered
      · refine .inr (.inr ⟨job, rest, rfl, handled, ?_⟩)
        simp [call_execute state silent job round.outcome round.clock handled waiting present]
      · refine .inr (.inl ⟨job, rest, rfl, handled, ?_⟩)
        simp [JobExecutor.execute, handled]

end Silent

section Plain

variable (state : SchedulerState)

/-- The state after one round of `process_next`. -/
def nextState (state : SchedulerState) (round : JobScheduler.Round) : SchedulerState :=
  (call (JobScheduler.processNext round) (plain state)).2.service.state

/-- The loop stops where `process_next` answers no job, and otherwise goes on from
the state it left. -/
theorem processAll_cases (round : JobScheduler.Round) (rest : List JobScheduler.Round) :
    ((call (JobScheduler.processAll (round :: rest)) (plain state)).2 = plain state ∧
      nextState state round = state ∧
      ∀ job next, call (JobScheduler.processNext round) (plain state) ≠
        (.ok (some job), plain next)) ∨
    ∃ job, call (JobScheduler.processNext round) (plain state) =
        (.ok (some job), plain (nextState state round)) ∧
      (call (JobScheduler.processAll (round :: rest)) (plain state)).2 =
        (call (JobScheduler.processAll rest) (plain (nextState state round))).2 := by
  have counted := JobRepository.pendingRows_length round.scan state.store.table
  unfold nextState
  rcases processNext_cases state plain_silent round with
    ⟨empty, idle⟩ | ⟨job, later, listed, _, refused⟩ | ⟨job, later, listed, _, executed⟩
  · left
    rw [empty] at counted
    refine ⟨?_, by rw [idle], ?_⟩
    · simp [JobScheduler.processAll, ← counted]
    · simp [idle]
  · left
    rw [listed] at counted
    refine ⟨?_, by rw [refused], ?_⟩
    · simp [JobScheduler.processAll, ← counted, refused]
    · simp [refused]
  · right
    rw [listed] at counted
    refine ⟨_, by rw [executed], ?_⟩
    simp [JobScheduler.processAll, ← counted, executed]

/-- A round that runs a job takes it out of the PENDING ones. -/
theorem pending_executed (job : Job) (outcome : HandlerOutcome) (clock : Clock) (store : JobStore)
    (waiting : job.status = .pending) (present : store.table.find? job.id = some job) :
    ((store.executed (job.begun clock) (job.ran outcome clock)).table.rows.filter
      JobRepository.isPending).length < (store.table.rows.filter JobRepository.isPending).length := by
  have settled : JobRepository.isPending (job.ran outcome clock) = false := by
    rcases job.ran_status outcome clock with done | failed <;> simp [JobRepository.isPending, *]
  have begun : JobRepository.isPending (job.begun clock) = false := by
    simp [JobRepository.isPending]
  have listed : job ∈ store.table.rows.filter JobRepository.isPending :=
    List.mem_filter.mpr ⟨Keyed.mem_of_find? present, by simp [JobRepository.isPending, waiting]⟩
  simp only [JobStore.executed, JobStore.write_table, JobStore.observe_table,
    Keyed.filter_put _ _ _ settled, Keyed.filter_put _ _ _ begun, Job.begun_id, Job.ran_id]
  exact Nat.lt_of_le_of_lt (List.length_filter_le _ _)
    (List.length_filter_lt_length_iff_exists.mpr ⟨job, listed, by simp⟩)

/-- One round for each PENDING job is enough: the loop ends with none left, or raises
at a job type without a handler. -/
theorem processAll_drains (rounds : List JobScheduler.Round)
    (enough : (state.store.table.rows.filter JobRepository.isPending).length ≤ rounds.length) :
    (∃ exc, (call (JobScheduler.processAll rounds) (plain state)).1 = .error exc) ∨
    (call (JobScheduler.processAll rounds) (plain state)).2.service.state.store.table.rows.filter
      JobRepository.isPending = [] := by
  induction rounds generalizing state with
  | nil =>
      right
      exact List.length_eq_zero_iff.mp (Nat.le_zero.mp enough)
  | cons round rest ih =>
      have counted := JobRepository.pendingRows_length round.scan state.store.table
      rcases processNext_cases state plain_silent round with
        ⟨empty, idle⟩ | ⟨job, later, listed, _, refused⟩ | ⟨job, later, listed, _, executed⟩
      · right
        rw [empty] at counted
        simp only [JobScheduler.processAll, call_bind, call_isEmpty, andThen_ok, ← counted,
          List.length_nil, decide_true, ↓reduceIte, call_pure]
        exact List.length_eq_zero_iff.mp counted.symm
      · left
        rw [listed] at counted
        exact ⟨_, by simp [JobScheduler.processAll, ← counted, refused]; rfl⟩
      · obtain ⟨present, waiting, _⟩ := JobRepository.pendingRows_head listed
        have fewer := pending_executed job round.outcome round.clock state.store waiting present
        have room : ((withStore state (state.store.executed (job.begun round.clock)
            (job.ran round.outcome round.clock))).store.table.rows.filter
            JobRepository.isPending).length ≤ rest.length := by
          rw [List.length_cons] at enough
          exact Nat.le_of_lt_succ (Nat.lt_of_lt_of_le fewer enough)
        rw [listed] at counted
        simp only [JobScheduler.processAll, call_bind, call_isEmpty, andThen_ok, ← counted,
          List.length_cons, Nat.add_eq_zero_iff, Nat.succ_ne_self, and_false, decide_false,
          Bool.false_eq_true, ↓reduceIte, executed, andThen_pure]
        rcases ih _ room with ⟨exc, raised⟩ | drained
        · exact .inl ⟨exc, by rw [raised]; rfl⟩
        · exact .inr drained

theorem retryJob_cases (jobId : String) (clock : Clock) :
    (call (JobScheduler.retryJob jobId clock) (plain state) = (.ok none, plain state)) ∨
    ∃ job, state.store.table.find? jobId = some job ∧ job.status = .failed ∧
      job.attempts < job.maxRetries ∧
      call (JobScheduler.retryJob jobId clock) (plain state) =
        (.ok (some (job.requeued (clock 0))),
          plain (withStore state (state.store.regranted (job.requeued (clock 0))))) := by
  cases found : state.store.table.find? jobId with
  | none =>
      left
      simp [JobScheduler.retryJob, found]
  | some job =>
      have same : job.id = jobId := Keyed.key_of_find? found
      by_cases granted : job.canRetry = true
      · obtain ⟨failed, room⟩ := Job.canRetry_iff.mp granted
        refine .inr ⟨job, rfl, failed, room, ?_⟩
        have updated := JobRepository.call_update (job.requeued (clock 0)) job state.store
          (by simpa [same] using found)
        rw [JobRepository.overwrite_requeued] at updated
        have queued := call_enqueue_present
          (withStore state (state.store.write (job.requeued (clock 0)) |>.observe (.retried job.id)))
          (job.requeued (clock 0)) (job.requeued (clock 0)) rfl (by simp [Keyed.find?_put]) .shared
          none
        simp [JobScheduler.retryJob, found, granted, Job.retry, updated, queued]
        rfl
      · left
        simp [JobScheduler.retryJob, found, granted]

theorem cancelJob_cases (jobId : String) (clock : Clock) :
    (call (JobScheduler.cancelJob jobId clock) (plain state) = (.ok none, plain state)) ∨
    ∃ job, state.store.table.find? jobId = some job ∧ .cancelled ∈ validTransitions job.status ∧
      call (JobScheduler.cancelJob jobId clock) (plain state) =
        (.ok (some (job.moved .cancelled (clock 0))),
          plain (withStore state (state.store.write (job.moved .cancelled (clock 0))))) := by
  cases found : state.store.table.find? jobId with
  | none =>
      left
      simp [JobScheduler.cancelJob, found]
  | some job =>
      have same : job.id = jobId := Keyed.key_of_find? found
      by_cases final : job.isTerminal = true
      · left
        simp [JobScheduler.cancelJob, found, final]
      · by_cases valid : .cancelled ∈ validTransitions job.status
        · refine .inr ⟨job, rfl, valid, ?_⟩
          have updated := JobRepository.call_update (job.moved .cancelled (clock 0)) job state.store
            (by simpa [same] using found)
          rw [JobRepository.overwrite_moved] at updated
          simp [JobScheduler.cancelJob, found, final, Job.transitionTo_of_valid valid, updated]
        · left
          simp [JobScheduler.cancelJob, found, final, Job.transitionTo, canTransition, valid]

/-- With a fresh id, `submit` raises on an empty workspace or stores the new job. -/
theorem submit_cases (workspaceId jobType : String) (payload : List (String × String))
    (priority maxRetries : Int) (id : String) (clock : Clock)
    (fresh : state.store.table.find? id = none) :
    (∃ exc, Job.create workspaceId jobType payload priority maxRetries id (clock 0) (clock 1) =
        .error exc ∧
      call (JobScheduler.submit workspaceId jobType payload priority maxRetries id clock)
        (plain state) = (.error exc, plain state)) ∨
    ∃ job, Job.create workspaceId jobType payload priority maxRetries id (clock 0) (clock 1) =
        .ok job ∧
      call (JobScheduler.submit workspaceId jobType payload priority maxRetries id clock)
        (plain state) = (.ok job, plain (withStore state (state.store.admitted job))) := by
  cases made : Job.create workspaceId jobType payload priority maxRetries id (clock 0) (clock 1) with
  | error exc =>
      left
      exact ⟨exc, rfl, by simp [JobScheduler.submit, made]⟩
  | ok job =>
      obtain ⟨named, waiting, _⟩ := Job.create_ok made
      right
      refine ⟨job, rfl, ?_⟩
      have queued := call_enqueue_fresh state job waiting (by rw [named]; exact fresh) .shared none
      simp [JobScheduler.submit, made, queued]
      rfl

end Plain

end LexMind.Scheduler
