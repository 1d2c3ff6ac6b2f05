import LexMind.Scheduler.Interleaving

set_option autoImplicit false

namespace LexMind.Scheduler

open Lib

/-- The caller is inside a call that still stores its own copy of the job with a
status other than CANCELLED. -/
def Phase.writesBack (able : String → Bool) (id : String) : Phase → Prop
  | .dequeued job => job.id = id ∧ able job.jobType = true
  | .started job => job.id = id
  | .handling job => job.id = id
  | .retrying job => job.id = id
  | .requeueing job _ => job.id = id
  | .idle => False
  | .cancelling _ => False

variable {able : String → Bool} {store after : JobStore} {phase last : Phase} {id : String}

/-- A step of a caller without such a copy keeps a cancelled job cancelled, and does not
give the caller one. -/
theorem move_settled {action : Action} (moved : Moved able store phase action last after)
    (settled : store.statusOf id = some .cancelled) (clear : ¬ phase.writesBack able id) :
    after.statusOf id = some .cancelled ∧ ¬ last.writesBack able id := by
  cases moved with
  | submit job waiting fresh =>
      have other : job.id ≠ id := by
        rintro rfl
        simp [JobStore.statusOf, fresh] at settled
      exact ⟨by simp [JobStore.admitted, JobStore.statusOf_write, other, settled], fun h => h⟩
  | dequeue scan job listed waiting =>
      refine ⟨settled, ?_⟩
      rintro ⟨rfl, _⟩
      simp [waiting] at settled
  | refuse job unable => exact ⟨settled, fun h => h⟩
  | start job now handled =>
      have other : job.id ≠ id := fun same => clear ⟨same, handled⟩
      exact ⟨by simp [other, settled], by simpa [Phase.writesBack] using other⟩
  | handle job => exact ⟨settled, clear⟩
  | finish job outcome now =>
      have other : job.id ≠ id := clear
      exact ⟨by simp [other, settled], fun h => h⟩
  | readRetry job failed =>
      refine ⟨settled, ?_⟩
      rintro rfl
      simp [failed] at settled
  | writeRetry job row now present =>
      have other : job.id ≠ id := clear
      have same := Keyed.key_of_find? present
      exact ⟨by simp [JobStore.statusOf_write, same, other, settled], other⟩
  | retryGone job now gone => exact ⟨settled, fun h => h⟩
  | requeue job now =>
      have other : job.id ≠ id := clear
      exact ⟨by simp [other, settled], fun h => h⟩
  | readCancel job live => exact ⟨settled, fun h => h⟩
  | cancel job row now present =>
      refine ⟨?_, fun h => h⟩
      rw [JobStore.statusOf_write]
      split
      · rfl
      · exact settled
  | cancelGone job now gone => exact ⟨settled, fun h => h⟩

/-- A caller with such a copy can go on to store it. -/
theorem writesBack_moves (present : store.statusOf id = some .cancelled)
    (holds : phase.writesBack able id) :
    ∃ actions last after, Moves able (phase, store) actions (last, after) ∧
      after.statusOf id ≠ some .cancelled := by
  cases phase with
  | idle => exact holds.elim
  | dequeued job =>
      obtain ⟨rfl, handled⟩ := holds
      exact ⟨[.start 0], _, _, .single (by simp [move, handled]; exact ⟨rfl, rfl⟩), by simp⟩
  | started job =>
      cases holds
      exact ⟨[.handle, .finish (.ok "") 0], _, _, .cons rfl (.single rfl), by simp [Job.concluded]⟩
  | handling job =>
      cases holds
      exact ⟨[.finish (.ok "") 0], _, _, .single rfl, by simp [Job.concluded]⟩
  | retrying job =>
      cases holds
      obtain ⟨row, found, _⟩ := Option.map_eq_some_iff.mp present
      have same := Keyed.key_of_find? found
      exact ⟨[.writeRetry 0], _, _, .single (by simp [move, found]; exact ⟨rfl, rfl⟩),
        by simp [JobStore.statusOf_write, same]⟩
  | requeueing job now =>
      cases holds
      exact ⟨[.requeue], _, _, .single rfl, by simp⟩
  | cancelling job => exact holds.elim

section World

variable {ι : Type} [DecidableEq ι] {able : ι → String → Bool}

/-- Nobody holds a copy that undoes the cancellation. -/
def Cancelled (able : ι → String → Bool) (id : String) (world : World ι) : Prop :=
  world.store.statusOf id = some .cancelled ∧
    ∀ caller, ¬ (world.phase caller).writesBack (able caller) id

theorem Cancelled.step {world next : World ι} {label : ι × Action} (cancelled : Cancelled able id world)
    (taken : Interleaved able world label next) : Cancelled able id next := by
  obtain ⟨caller, action⟩ := label
  obtain ⟨phase, store, moved, rfl⟩ := interleaved_iff.mp taken
  obtain ⟨settled, clear⟩ := move_settled (move_cases moved) cancelled.1 (cancelled.2 caller)
  refine ⟨settled, fun other => ?_⟩
  by_cases mover : other = caller
  · subst mover
    simpa using clear
  · simpa [mover] using cancelled.2 other

/-- A job stored as CANCELLED stays so in every later state exactly when no other
caller is inside a `process_next` or a `retry_job` that holds the job. -/
theorem cancel_durable_iff (able : ι → String → Bool) (world next : World ι) (caller : ι)
    (job : Job) (now : Timestamp) (holding : world.phase caller = .cancelling job)
    (taken : Interleaved able world (caller, .cancel now) next)
    (stored : next.store.statusOf job.id = some .cancelled) :
    (∀ labels last, Steps (Interleaved able) next labels last →
      last.store.statusOf job.id = some .cancelled) ↔
    ∀ other, other ≠ caller → ¬ (world.phase other).writesBack (able other) job.id := by
  obtain ⟨phase, store, moved, rfl⟩ := interleaved_iff.mp taken
  constructor
  · intro durable other apart holds
    obtain ⟨actions, last, after, moves, undone⟩ := writesBack_moves stored holds
    have same : Function.update world.phase caller phase other = world.phase other := by
      simp [apart]
    exact undone (durable _ _ (moves.interleaved _ same))
  · intro clear labels last steps
    have returned : phase = .idle := by
      have move := move_cases moved
      rw [holding] at move
      cases move <;> rfl
    have start : Cancelled able job.id ⟨store, Function.update world.phase caller phase⟩ := by
      refine ⟨stored, fun other => ?_⟩
      by_cases mover : other = caller
      · subst mover
        simp [returned, Phase.writesBack]
      · simpa [mover] using clear other mover
    exact (steps.invariant (fun _ _ _ holds step => Cancelled.step holds step) start).1

end World

/-- One caller submits a job and runs it; another one cancels it while its handler runs. -/
def cancelledWhileRunning : List (Bool × Action) :=
  [(false, .submit waitingJob), (false, .dequeue .asStored), (false, .start 2), (false, .handle),
    (true, .readCancel "j1"), (true, .cancel 3)]

/-- The handler returns and the executor stores its own copy over the cancellation. -/
theorem cancel_durable_overwritten :
    ∃ cancelled last, Steps (Interleaved bothAble) bothIdle
        cancelledWhileRunning cancelled ∧
      cancelled.store.statusOf "j1" = some .cancelled ∧
      Interleaved bothAble cancelled (false, .finish (.ok "done") 4) last ∧
      last.store.statusOf "j1" = some .completed := by
  have before : (World.steps bothAble bothIdle cancelledWhileRunning).map
      (fun world => world.store.statusOf "j1") = some (some .cancelled) := by decide +kernel
  have later : (World.steps bothAble bothIdle
      (cancelledWhileRunning ++ [(false, .finish (.ok "done") 4)])).map
      (fun world => world.store.statusOf "j1") = some (some .completed) := by decide +kernel
  obtain ⟨cancelled, taken, status⟩ := Option.map_eq_some_iff.mp before
  obtain ⟨last, finished, final⟩ := Option.map_eq_some_iff.mp later
  have step : Interleaved bothAble cancelled (false, .finish (.ok "done") 4) last := by
    rw [World.steps, List.foldlM_append] at finished
    rw [World.steps] at taken
    simpa [taken, Interleaved] using finished
  exact ⟨cancelled, last, steps_of_foldlM taken, status, step, final⟩

/-- The world in which one caller is about to cancel the waiting job. -/
def aboutToCancel : World Bool :=
  ⟨⟨Keyed.empty.put waitingJob, []⟩, fun caller => if caller then .cancelling waitingJob else .idle⟩

def cancelledWaiting : World Bool where
  store := aboutToCancel.store.write (waitingJob.moved .cancelled 3)
  phase := Function.update aboutToCancel.phase true .idle

theorem cancel_durable_iff_waiting :
    cancelledWaiting.store.statusOf "j1" = some .cancelled ∧
    ∀ labels last, Steps (Interleaved bothAble) cancelledWaiting labels last →
      last.store.statusOf "j1" = some .cancelled :=
  ⟨by decide +kernel,
    (cancel_durable_iff bothAble aboutToCancel cancelledWaiting true waitingJob 3 rfl rfl
      (by decide +kernel)).mpr (fun other apart => by
        cases other with
        | false => simp [aboutToCancel, Phase.writesBack]
        | true => exact absurd rfl apart)⟩

end LexMind.Scheduler
