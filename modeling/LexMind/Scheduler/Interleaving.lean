import LexMind.Scheduler.Sequential
import Mathlib.Logic.Function.Basic

set_option autoImplicit false

/- Callers that share one repository. Each call is cut at its repository accesses;
a handler that calls the scheduler itself is one more caller, which runs while the
first one is in its handler. A `get_by_id` whose row is only tested for existence
belongs to the write after it, since no call deletes a row. -/
namespace LexMind.Scheduler

open Lib

/-- Where a caller is inside a call, with the job object it holds. -/
inductive Phase
  | idle
  /-- `process_next` has read the row of a PENDING job. -/
  | dequeued (job : Job)
  /-- RUNNING is stored; the handler has not been called. -/
  | started (job : Job)
  | handling (job : Job)
  /-- `retry_job` has read a row it may retry. -/
  | retrying (job : Job)
  /-- The retry is stored; `enqueue` is about to store the same job again. -/
  | requeueing (job : Job) (now : Timestamp)
  /-- `cancel_job` has read a row it may cancel. -/
  | cancelling (job : Job)

inductive Action
  | submit (job : Job)
  | dequeue (scan : Arrangement Job)
  | refuse
  | start (now : Timestamp)
  | handle
  | finish (outcome : HandlerOutcome) (now : Timestamp)
  | readRetry (jobId : String)
  | writeRetry (now : Timestamp)
  | requeue
  | readCancel (jobId : String)
  | cancel (now : Timestamp)

namespace JobStore

/-- `_persist` and `enqueue`: update the row when there is one, else create it. -/
def persist (store : JobStore) (job : Job) : JobStore :=
  match store.table.find? job.id with
  | some row => store.write (JobRepository.overwrite row job)
  | none => store.write job

@[simp] theorem persist_statusOf (store : JobStore) (job : Job) (id : String) :
    (store.persist job).statusOf id =
      if job.id = id then some job.status else store.statusOf id := by
  unfold persist
  split
  · rename_i row present
    rw [statusOf_write, JobRepository.overwrite_id, Keyed.key_of_find? present]
    rfl
  · exact statusOf_write store job id

end JobStore

/-- One atomic step of a caller: the phase it enters and the store it leaves. An
`update` that finds no row raises, which ends the call. -/
def move (able : String → Bool) (store : JobStore) : Phase → Action → Option (Phase × JobStore)
  | .idle, .submit job =>
      if job.status = .pending ∧ store.table.find? job.id = none then
        some (.idle, store.admitted job)
      else none
  | .idle, .dequeue scan =>
      (JobRepository.pendingRows scan store.table).head?.map (fun job => (.dequeued job, store))
  | .dequeued job, .refuse => if able job.jobType then none else some (.idle, store)
  | .dequeued job, .start now =>
      if able job.jobType then
        some (.started (job.moved .running now), store.persist (job.moved .running now))
      else none
  | .started job, .handle => some (.handling job, store.observe (.handled job.id))
  | .handling job, .finish outcome now => some (.idle, store.persist (job.concluded outcome now))
  | .idle, .readRetry jobId =>
      match store.table.find? jobId with
      | some job => if job.canRetry then some (.retrying job, store) else none
      | none => none
  | .retrying job, .writeRetry now =>
      match store.table.find? job.id with
      | some row => some (.requeueing job now,
          (store.write (JobRepository.overwrite row (job.requeued now))).observe (.retried job.id))
      | none => some (.idle, store)
  | .requeueing job now, .requeue => some (.idle, store.persist (job.requeued now))
  | .idle, .readCancel jobId =>
      match store.table.find? jobId with
      | some job =>
          if job.isTerminal = false ∧ canTransition job.status .cancelled = true then
            some (.cancelling job, store)
          else none
      | none => none
  | .cancelling job, .cancel now =>
      match store.table.find? job.id with
      | some row => some (.idle, store.write (JobRepository.overwrite row (job.moved .cancelled now)))
      | none => some (.idle, store)
  | _, _ => none

/-- Everything a step can do, with what it has checked. -/
inductive Moved (able : String → Bool) (store : JobStore) : Phase → Action → Phase → JobStore → Prop
  | submit (job : Job) (waiting : job.status = .pending)
      (fresh : store.table.find? job.id = none) :
      Moved able store .idle (.submit job) .idle (store.admitted job)
  | dequeue (scan : Arrangement Job) (job : Job)
      (listed : (JobRepository.pendingRows scan store.table).head? = some job)
      (waiting : store.statusOf job.id = some .pending) :
      Moved able store .idle (.dequeue scan) (.dequeued job) store
  | refuse (job : Job) (unable : able job.jobType = false) :
      Moved able store (.dequeued job) .refuse .idle store
  | start (job : Job) (now : Timestamp) (handled : able job.jobType = true) :
      Moved able store (.dequeued job) (.start now) (.started (job.moved .running now))
        (store.persist (job.moved .running now))
  | handle (job : Job) :
      Moved able store (.started job) .handle (.handling job) (store.observe (.handled job.id))
  | finish (job : Job) (outcome : HandlerOutcome) (now : Timestamp) :
      Moved able store (.handling job) (.finish outcome now) .idle
        (store.persist (job.concluded outcome now))
  | readRetry (job : Job) (failed : store.statusOf job.id = some .failed) :
      Moved able store .idle (.readRetry job.id) (.retrying job) store
  | writeRetry (job row : Job) (now : Timestamp) (present : store.table.find? job.id = some row) :
      Moved able store (.retrying job) (.writeRetry now) (.requeueing job now)
        ((store.write (JobRepository.overwrite row (job.requeued now))).observe (.retried job.id))
  | retryGone (job : Job) (now : Timestamp) (gone : store.statusOf job.id = none) :
      Moved able store (.retrying job) (.writeRetry now) .idle store
  | requeue (job : Job) (now : Timestamp) :
      Moved able store (.requeueing job now) .requeue .idle (store.persist (job.requeued now))
  | readCancel (job : Job) (live : job.isTerminal = false) :
      Moved able store .idle (.readCancel job.id) (.cancelling job) store
  | cancel (job row : Job) (now : Timestamp) (present : store.table.find? job.id = some row) :
      Moved able store (.cancelling job) (.cancel now) .idle
        (store.write (JobRepository.overwrite row (job.moved .cancelled now)))
  | cancelGone (job : Job) (now : Timestamp) (gone : store.statusOf job.id = none) :
      Moved able store (.cancelling job) (.cancel now) .idle store

theorem move_cases {able : String → Bool} {store after : JobStore} {phase last : Phase}
    {action : Action} (moved : move able store phase action = some (last, after)) :
    Moved able store phase action last after := by
  unfold move at moved
  split at moved
  · split at moved
    · rename_i job admitted
      cases moved
      exact .submit job admitted.1 admitted.2
    · cases moved
  · rename_i scan
    obtain ⟨job, listed, same⟩ := Option.map_eq_some_iff.mp moved
    cases same
    have inside := (JobRepository.mem_pendingRows scan store.table job).mp
      (List.mem_of_mem_head? listed)
    have present := store.table.find?_of_mem inside.1
    exact .dequeue scan job listed (by simp [JobStore.statusOf, present, inside.2])
  · split at moved
    · cases moved
    · rename_i unable
      cases moved
      exact .refuse _ (by simpa using unable)
  · split at moved
    · rename_i handled
      cases moved
      exact .start _ _ handled
    · cases moved
  · cases moved
    exact .handle _
  · cases moved
    exact .finish _ _ _
  · split at moved
    · rename_i job found
      split at moved
      · rename_i granted
        cases moved
        cases Keyed.key_of_find? found
        exact .readRetry job (by simp [JobStore.statusOf, found, (Job.canRetry_iff.mp granted).1])
      · cases moved
    · cases moved
  · split at moved
    · rename_i row present
      cases moved
      exact .writeRetry _ row _ present
    · rename_i absent
      cases moved
      exact .retryGone _ _ (by simp [JobStore.statusOf, absent])
  · cases moved
    exact .requeue _ _
  · split at moved
    · rename_i job found
      split at moved
      · rename_i live
        cases moved
        cases Keyed.key_of_find? found
        exact .readCancel job live.1
      · cases moved
    · cases moved
  · split at moved
    · rename_i row present
      cases moved
      exact .cancel _ row _ present
    · rename_i absent
      cases moved
      exact .cancelGone _ _ (by simp [JobStore.statusOf, absent])
  · cases moved

section World

variable {ι : Type} [DecidableEq ι]

/-- The shared store and the phase of every caller. -/
structure World (ι : Type) where
  store : JobStore
  phase : ι → Phase

/-- A caller's atomic step; `able caller` says which job types its executor handles. -/
def World.step (able : ι → String → Bool) (world : World ι) (caller : ι) (action : Action) :
    Option (World ι) :=
  (move (able caller) world.store (world.phase caller) action).map
    (fun moved => ⟨moved.2, Function.update world.phase caller moved.1⟩)

/-- The interleavings are the step sequences of this relation. -/
def Interleaved (able : ι → String → Bool) (world : World ι) (label : ι × Action)
    (next : World ι) : Prop :=
  world.step able label.1 label.2 = some next

def World.steps (able : ι → String → Bool) (world : World ι) (labels : List (ι × Action)) :
    Option (World ι) :=
  labels.foldlM (fun before label => before.step able label.1 label.2) world

variable {able : ι → String → Bool} {world next : World ι} {caller : ι} {action : Action}

/-- Only the mover's phase and the store change. -/
theorem interleaved_iff : Interleaved able world (caller, action) next ↔
    ∃ phase store, move (able caller) world.store (world.phase caller) action =
      some (phase, store) ∧ next = ⟨store, Function.update world.phase caller phase⟩ := by
  simp only [Interleaved, World.step, Option.map_eq_some_iff, Prod.exists]
  constructor
  · rintro ⟨phase, store, moved, rfl⟩
    exact ⟨phase, store, moved, rfl⟩
  · rintro ⟨phase, store, moved, rfl⟩
    exact ⟨phase, store, moved, rfl⟩

/-- The steps of a caller that nobody interrupts. -/
abbrev Moves (able : String → Bool) : Phase × JobStore → List Action → Phase × JobStore → Prop :=
  Steps (fun before action after => move able before.2 before.1 action = some after)

theorem Moves.interleaved {actions : List Action} {before after : Phase × JobStore}
    (moves : Moves (able caller) before actions after) (phase : ι → Phase)
    (standing : phase caller = before.1) :
    Steps (Interleaved able) ⟨before.2, phase⟩ (actions.map (fun action => (caller, action)))
      ⟨after.2, Function.update phase caller after.1⟩ := by
  induction moves generalizing phase with
  | nil =>
      rw [← standing, Function.update_eq_self]
      exact .nil _
  | @cons before middle after action actions taken _ ih =>
      have first : Interleaved able ⟨before.2, phase⟩ (caller, action)
          ⟨middle.2, Function.update phase caller middle.1⟩ :=
        interleaved_iff.mpr ⟨middle.1, middle.2, by simpa only [standing] using taken, rfl⟩
      have rest := ih (Function.update phase caller middle.1) (Function.update_self ..)
      rw [Function.update_idem] at rest
      exact .cons first rest

end World

def SchedulerState.able (state : SchedulerState) (jobType : String) : Bool :=
  jobType ∈ state.registered

section Single

variable (able : String → Bool) (store : JobStore) (job : Job)

/-- A job that is read, started, handled and finished without interruption. -/
theorem moves_executed (round : JobScheduler.Round) {rest : List Job}
    (listed : JobRepository.pendingRows round.scan store.table = job :: rest)
    (handled : able job.jobType = true) :
    Moves able (.idle, store)
      [.dequeue round.scan, .start (round.clock 0), .handle,
        .finish round.outcome (round.clock 1)]
      (.idle, store.executed (job.begun round.clock) (job.ran round.outcome round.clock)) := by
  obtain ⟨present, _, _⟩ := JobRepository.pendingRows_head listed
  have read : move able store .idle (.dequeue round.scan) = some (.dequeued job, store) := by
    simp [move, listed]
  have start : move able store (.dequeued job) (.start (round.clock 0)) =
      some (.started (job.begun round.clock), store.write (job.begun round.clock)) := by
    simp [move, handled, JobStore.persist, present, JobRepository.overwrite_moved, Job.begun]
  have handle : move able (store.write (job.begun round.clock)) (.started (job.begun round.clock))
      .handle = some (.handling (job.begun round.clock),
        (store.write (job.begun round.clock)).observe (.handled job.id)) := by
    simp [move]
  have finish : move able ((store.write (job.begun round.clock)).observe (.handled job.id))
      (.handling (job.begun round.clock)) (.finish round.outcome (round.clock 1)) =
      some (.idle, store.executed (job.begun round.clock)
        (job.ran round.outcome round.clock)) := by
    simp [move, JobStore.persist, Keyed.find?_put, JobRepository.overwrite_concluded,
      JobStore.executed, Job.ran]
  exact .cons read (.cons start (.cons handle (.single finish)))

theorem moves_regranted (clock : Clock) (granted : job.canRetry = true)
    (present : store.table.find? job.id = some job) :
    Moves able (.idle, store) [.readRetry job.id, .writeRetry (clock 0), .requeue]
      (.idle, store.regranted (job.requeued (clock 0))) := by
  have read : move able store .idle (.readRetry job.id) = some (.retrying job, store) := by
    simp [move, present, granted]
  have write : move able store (.retrying job) (.writeRetry (clock 0)) =
      some (.requeueing job (clock 0),
        (store.write (job.requeued (clock 0))).observe (.retried job.id)) := by
    simp [move, present, JobRepository.overwrite_requeued]
  have requeue : move able ((store.write (job.requeued (clock 0))).observe (.retried job.id))
      (.requeueing job (clock 0)) .requeue =
      some (.idle, store.regranted (job.requeued (clock 0))) := by
    simp [move, JobStore.persist, Keyed.find?_put, JobStore.regranted]
  exact .cons read (.cons write (.single requeue))

theorem moves_cancelled (clock : Clock) (valid : .cancelled ∈ validTransitions job.status)
    (present : store.table.find? job.id = some job) :
    Moves able (.idle, store) [.readCancel job.id, .cancel (clock 0)]
      (.idle, store.write (job.moved .cancelled (clock 0))) := by
  have live : job.isTerminal = false := by
    cases status : job.status <;> simp [status, validTransitions] at valid <;>
      simp [Job.isTerminal, status]
  have read : move able store .idle (.readCancel job.id) = some (.cancelling job, store) := by
    simp [move, present, live, canTransition, valid]
  exact .cons read (.single (by simp [move, present, JobRepository.overwrite_moved]))

end Single

/-- Every call made on its own is a sequence of these atomic steps. -/
theorem schedulerStep_moves (state : SchedulerState) (operation : Operation)
    (basic : operation.sequential) (fresh : operation.fresh state.store.table) :
    ∃ actions, Moves state.able (.idle, state.store) actions
      (.idle, (schedulerStep (plain state) operation).2.service.state.store) := by
  cases operation with
  | submit workspaceId jobType payload priority maxRetries id clock =>
      rcases submit_cases state workspaceId jobType payload priority maxRetries id clock fresh with
        ⟨exc, _, refused⟩ | ⟨job, made, stored⟩
      · exact ⟨[], by simpa [schedulerStep, Operation.program, refused] using .nil _⟩
      · obtain ⟨named, waiting, _⟩ := Job.create_ok made
        refine ⟨[.submit job], ?_⟩
        simp only [schedulerStep, Operation.program, call_map, stored]
        exact .single (by simp [move, waiting, named, show _ = none from fresh])
  | processNext round =>
      rcases processNext_cases state plain_silent round with
        ⟨_, idle⟩ | ⟨job, rest, listed, unhandled, refused⟩ | ⟨job, rest, listed, handled, executed⟩
      · exact ⟨[], by simpa [schedulerStep, Operation.program, idle] using .nil _⟩
      · have read : move state.able state.store .idle (.dequeue round.scan) =
            some (.dequeued job, state.store) := by simp [move, listed]
        refine ⟨[.dequeue round.scan, .refuse], ?_⟩
        simp only [schedulerStep, Operation.program, call_map, refused]
        exact .cons read (.single (by simp [move, SchedulerState.able, unhandled]))
      · refine ⟨[.dequeue round.scan, .start (round.clock 0), .handle,
          .finish round.outcome (round.clock 1)], ?_⟩
        simp only [schedulerStep, Operation.program, call_map, executed]
        exact moves_executed _ _ _ round listed (by simp [SchedulerState.able, handled])
  | retryJob jobId clock =>
      rcases retryJob_cases state jobId clock with refused | ⟨job, found, failed, room, granted⟩
      · exact ⟨[], by simpa [schedulerStep, Operation.program, refused] using .nil _⟩
      · refine ⟨[.readRetry job.id, .writeRetry (clock 0), .requeue], ?_⟩
        simp only [schedulerStep, Operation.program, call_map, granted]
        exact moves_regranted _ _ _ clock (Job.canRetry_iff.mpr ⟨failed, room⟩)
          (by rw [Keyed.key_of_find? found]; exact found)
  | cancelJob jobId clock =>
      rcases cancelJob_cases state jobId clock with refused | ⟨job, found, valid, cancelled⟩
      · exact ⟨[], by simpa [schedulerStep, Operation.program, refused] using .nil _⟩
      · refine ⟨[.readCancel job.id, .cancel (clock 0)], ?_⟩
        simp only [schedulerStep, Operation.program, call_map, cancelled]
        exact moves_cancelled _ _ _ clock valid
          (by rw [Keyed.key_of_find? found]; exact found)
  | processAll rounds => exact basic.elim
  | getJob jobId => exact basic.elim
  | recoverPending scan => exact basic.elim
  | register jobType => exact basic.elim
  | unregister jobType => exact basic.elim

/- Two callers and one job, for concrete interleavings. -/

def waitingJob : Job :=
  ⟨"w1", "index", "j1", .pending, [], "", "", 0, 3, 0, 1, none, none, 1, by decide⟩

def bothAble : Bool → String → Bool := fun _ _ => true

def bothIdle : World Bool := ⟨⟨.empty, []⟩, fun _ => .idle⟩

end LexMind.Scheduler
