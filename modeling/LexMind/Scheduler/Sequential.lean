import LexMind.Scheduler.SchedulerCalls

set_option autoImplicit false

namespace LexMind.Scheduler

open Lib Events

/-- A row is created PENDING and changes its status by the transition table. -/
def Observation.Allowed : Observation → Prop
  | .stored _ none after => after = .pending
  | .stored _ (some before) after => before = after ∨ after ∈ validTransitions before
  | _ => True

/-- What one call made on its own can do to the store. -/
inductive StoreChange (store : JobStore) : JobStore → Prop
  | unchanged : StoreChange store store
  | admitted (job : Job) (waiting : job.status = .pending)
      (fresh : store.table.find? job.id = none) : StoreChange store (store.admitted job)
  | executed (job : Job) (outcome : HandlerOutcome) (clock : Clock)
      (waiting : job.status = .pending) (present : store.table.find? job.id = some job) :
      StoreChange store (store.executed (job.begun clock) (job.ran outcome clock))
  | regranted (job : Job) (now : Timestamp) (granted : job.canRetry = true)
      (present : store.table.find? job.id = some job) :
      StoreChange store (store.regranted (job.requeued now))
  | cancelled (job : Job) (now : Timestamp) (valid : .cancelled ∈ validTransitions job.status)
      (present : store.table.find? job.id = some job) :
      StoreChange store (store.write (job.moved .cancelled now))

namespace JobStore

theorem find?_admitted (store : JobStore) (job : Job) (id : String) :
    (store.admitted job).table.find? id =
      if job.id = id then some job else store.table.find? id := by
  simp [admitted, Keyed.find?_put]

theorem find?_executed (store : JobStore) (running final : Job) (same : running.id = final.id)
    (id : String) :
    (store.executed running final).table.find? id =
      if final.id = id then some final else store.table.find? id := by
  simp only [executed, write_table, observe_table, Keyed.find?_put, same]
  split <;> rfl

theorem find?_regranted (store : JobStore) (job : Job) (id : String) :
    (store.regranted job).table.find? id =
      if job.id = id then some job else store.table.find? id := by
  simp only [regranted, write_table, observe_table, Keyed.find?_put]
  split <;> rfl

theorem admitted_trace (store : JobStore) (job : Job) :
    (store.admitted job).trace = store.trace ++
      [.stored job.id (store.statusOf job.id) job.status, .submitted job.id] := by
  simp [admitted]

theorem executed_trace (store : JobStore) (running final : Job) (same : running.id = final.id) :
    (store.executed running final).trace = store.trace ++
      [.stored final.id (store.statusOf final.id) running.status, .handled final.id,
        .stored final.id (some running.status) final.status] := by
  simp [executed, same, statusOf_write]

theorem regranted_trace (store : JobStore) (job : Job) :
    (store.regranted job).trace = store.trace ++
      [.stored job.id (store.statusOf job.id) job.status, .retried job.id,
        .stored job.id (some job.status) job.status] := by
  simp [regranted, statusOf_write]

theorem statusOf_present {store : JobStore} {id : String} {row : Job}
    (present : store.table.find? id = some row) : store.statusOf id = some row.status := by
  simp [statusOf, present]

end JobStore

namespace StoreChange

variable {store after : JobStore}

/-- Every write of a call is allowed from the status the row has at that moment. -/
theorem allowed (change : StoreChange store after) :
    ∃ events, after.trace = store.trace ++ events ∧ ∀ event ∈ events, event.Allowed := by
  cases change with
  | unchanged => exact ⟨[], by simp, by simp⟩
  | admitted job waiting fresh =>
      refine ⟨_, store.admitted_trace job, ?_⟩
      simp [Observation.Allowed, JobStore.statusOf, fresh, waiting]
  | executed job outcome clock waiting present =>
      refine ⟨_, store.executed_trace _ _ (by simp), ?_⟩
      have outcomes := job.ran_status outcome clock
      simp [Observation.Allowed, JobStore.statusOf_present present, waiting, validTransitions]
      rcases outcomes with done | failed
      · exact .inr (.inl done)
      · exact .inr (.inr (.inl failed))
  | regranted job now granted present =>
      refine ⟨_, store.regranted_trace _, ?_⟩
      have failed := (Job.canRetry_iff.mp granted).1
      simp [Observation.Allowed, JobStore.statusOf_present present, failed, validTransitions]
  | cancelled job now valid present =>
      refine ⟨_, store.write_trace _, ?_⟩
      simp [Observation.Allowed, JobStore.statusOf_present present, valid]

/-- A call writes no row whose job is COMPLETED or CANCELLED. -/
theorem settled (change : StoreChange store after) {id : String} {row : Job}
    (present : store.table.find? id = some row) (final : row.isTerminal = true) :
    after.table.find? id = some row := by
  have untouched : ∀ job : Job, store.table.find? job.id = some job →
      job.isTerminal ≠ true → job.id ≠ id := by
    rintro job found live rfl
    exact live (Option.some.inj (found.symm.trans present) ▸ final)
  cases change with
  | unchanged => exact present
  | admitted job waiting fresh =>
      have other : job.id ≠ id := by
        rintro rfl
        simp [fresh] at present
      simp [JobStore.find?_admitted, other, present]
  | executed job outcome clock waiting found =>
      have other := untouched job found (by simp [Job.isTerminal, waiting])
      have same : (job.begun clock).id = (job.ran outcome clock).id := by simp
      simp [JobStore.find?_executed _ _ _ same, other, present]
  | regranted job now granted found =>
      have failed := (Job.canRetry_iff.mp granted).1
      have other := untouched job found (by simp [Job.isTerminal, failed])
      simp [JobStore.find?_regranted, other, present]
  | cancelled job now valid found =>
      have other := untouched job found (by
        intro terminal
        rcases Job.isTerminal_iff.mp terminal with done | done <;>
          simp [done, validTransitions] at valid)
      simp [Keyed.find?_put, other, present]

end StoreChange

namespace Operation

/-- The four calls a caller makes one after another. -/
def sequential : Operation → Prop
  | .submit .. | .processNext _ | .retryJob .. | .cancelJob .. => True
  | _ => False

/-- A new job gets an id no stored job has. -/
def fresh (table : JobTable) : Operation → Prop
  | .submit _ _ _ _ _ id _ => table.find? id = none
  | _ => True

end Operation

/-- A call is refused without a write, or answers with a job and makes one change. -/
theorem schedulerStep_sequential (state : SchedulerState) (operation : Operation)
    (basic : operation.sequential) (fresh : operation.fresh state.store.table) :
    (schedulerStep (plain state) operation).2 = plain state ∨
    ∃ job next, schedulerStep (plain state) operation =
        (.ok (.job (some job)), plain (withStore state next)) ∧ StoreChange state.store next := by
  cases operation with
  | submit workspaceId jobType payload priority maxRetries id clock =>
      rcases submit_cases state workspaceId jobType payload priority maxRetries id clock fresh with
        ⟨exc, _, refused⟩ | ⟨job, made, stored⟩
      · left
        simp [schedulerStep, Operation.program, refused]
      · right
        obtain ⟨named, waiting, _⟩ := Job.create_ok made
        exact ⟨job, _, by simp [schedulerStep, Operation.program, stored],
          .admitted job waiting (by rw [named]; exact fresh)⟩
  | processNext round =>
      rcases processNext_cases state plain_silent round with
        ⟨_, idle⟩ | ⟨job, _, _, _, refused⟩ | ⟨job, rest, listed, _, executed⟩
      · left
        simp [schedulerStep, Operation.program, idle]
      · left
        simp [schedulerStep, Operation.program, refused]
      · right
        obtain ⟨present, waiting, _⟩ := JobRepository.pendingRows_head listed
        exact ⟨job.ran round.outcome round.clock, _,
          by simp [schedulerStep, Operation.program, executed],
          .executed job round.outcome round.clock waiting present⟩
  | retryJob jobId clock =>
      rcases retryJob_cases state jobId clock with refused | ⟨job, found, failed, room, granted⟩
      · left
        simp [schedulerStep, Operation.program, refused]
      · right
        exact ⟨job.requeued (clock 0), _, by simp [schedulerStep, Operation.program, granted],
          .regranted job (clock 0) (Job.canRetry_iff.mpr ⟨failed, room⟩)
            (by rw [Keyed.key_of_find? found]; exact found)⟩
  | cancelJob jobId clock =>
      rcases cancelJob_cases state jobId clock with refused | ⟨job, found, valid, cancelled⟩
      · left
        simp [schedulerStep, Operation.program, refused]
      · right
        exact ⟨job.moved .cancelled (clock 0), _,
          by simp [schedulerStep, Operation.program, cancelled],
          .cancelled job (clock 0) valid (by rw [Keyed.key_of_find? found]; exact found)⟩
  | processAll rounds => exact basic.elim
  | getJob jobId => exact basic.elim
  | recoverPending scan => exact basic.elim
  | register jobType => exact basic.elim
  | unregister jobType => exact basic.elim

/-- What one call made on its own answers and leaves behind. -/
structure SequentialCall (before : Wired Scheduling) (operation : Operation) : Prop where
  /-- Each write is a creation as PENDING or follows the transition table. -/
  allowed : ∃ events,
    (schedulerStep before operation).2.service.state.store.trace =
      before.service.state.store.trace ++ events ∧ ∀ event ∈ events, event.Allowed
  settled : ∀ id row, before.service.state.store.table.find? id = some row → row.isTerminal = true →
    (schedulerStep before operation).2.service.state.store.table.find? id = some row
  refused : ((∃ exc, (schedulerStep before operation).1 = .error exc) ∨
      (schedulerStep before operation).1 = .ok (.job none)) →
    (schedulerStep before operation).2.service.state.store.table = before.service.state.store.table
  /-- The job returned had maximal priority among the PENDING ones, was handled
  once and is stored as it was returned. -/
  executed : ∀ round job, operation = .processNext round →
    (schedulerStep before operation).1 = .ok (.job (some job)) →
    (∃ chosen, before.service.state.store.table.find? job.id = some chosen ∧ chosen.status = .pending ∧
      ∀ other ∈ before.service.state.store.table.rows, other.status = .pending →
        other.priority ≤ chosen.priority) ∧
    (schedulerStep before operation).2.service.state.store.trace = before.service.state.store.trace ++
      [.stored job.id (some .pending) .running, .handled job.id,
        .stored job.id (some .running) job.status] ∧
    (schedulerStep before operation).2.service.state.store.table.find? job.id = some job ∧
    (job.status = .completed ∨ job.status = .failed)

theorem processNext_executed (state : SchedulerState) (round : JobScheduler.Round) (job : Job)
    (answered : (schedulerStep (plain state) (.processNext round)).1 = .ok (.job (some job))) :
    (∃ chosen, state.store.table.find? job.id = some chosen ∧ chosen.status = .pending ∧
      ∀ other ∈ state.store.table.rows, other.status = .pending →
        other.priority ≤ chosen.priority) ∧
    (schedulerStep (plain state) (.processNext round)).2.service.state.store.trace = state.store.trace ++
      [.stored job.id (some .pending) .running, .handled job.id,
        .stored job.id (some .running) job.status] ∧
    (schedulerStep (plain state) (.processNext round)).2.service.state.store.table.find? job.id =
      some job ∧
    (job.status = .completed ∨ job.status = .failed) := by
  rcases processNext_cases state plain_silent round with
    ⟨_, idle⟩ | ⟨other, _, _, _, refused⟩ | ⟨chosen, rest, listed, _, executed⟩
  · simp [schedulerStep, Operation.program, idle] at answered
  · simp [schedulerStep, Operation.program, refused] at answered
  · obtain ⟨present, waiting, ranked⟩ := JobRepository.pendingRows_head listed
    have same : (chosen.begun round.clock).id = (chosen.ran round.outcome round.clock).id := by simp
    simp only [schedulerStep, Operation.program, call_map, executed, map_ok, Except.ok.injEq,
      Answer.job.injEq, Option.some.injEq] at answered ⊢
    subst answered
    refine ⟨⟨chosen, by simpa using present, waiting, ranked⟩, ?_, ?_, chosen.ran_status _ _⟩
    · simp only [withStore_store, JobStore.executed_trace _ _ _ same, Job.ran_id,
        JobStore.statusOf_present present, waiting, Job.begun_status]
    · simp [JobStore.find?_executed _ _ _ same]

theorem sequentialCall_of_fresh (state : SchedulerState) (operation : Operation)
    (basic : operation.sequential) (fresh : operation.fresh state.store.table) :
    SequentialCall (plain state) operation := by
  have executed : ∀ round job, operation = .processNext round →
      (schedulerStep (plain state) operation).1 = .ok (.job (some job)) → _ :=
    fun round job called answered => processNext_executed state round job (called ▸ answered)
  rcases schedulerStep_sequential state operation basic fresh with same | ⟨job, next, done, change⟩
  · refine ⟨⟨[], by simp [same], by simp⟩, ?_, ?_, ?_⟩
    · intro id row present _
      rw [same]
      exact present
    · intro _
      rw [same]
    · rintro round job rfl answered
      exact executed round job rfl answered
  · refine ⟨?_, ?_, ?_, ?_⟩
    · rw [done]
      exact change.allowed
    · intro id row present final
      rw [done]
      exact change.settled present final
    · rw [done]
      rintro (⟨exc, raised⟩ | silent)
      · cases raised
      · cases silent
    · rintro round job rfl answered
      exact executed round job rfl answered

theorem schedulerStep_plain (state : SchedulerState) (operation : Operation)
    (basic : operation.sequential) (fresh : operation.fresh state.store.table) :
    Unheard (schedulerStep (plain state) operation).2 := by
  rcases schedulerStep_sequential state operation basic fresh with same | ⟨job, next, done, _⟩
  · rw [same]
    exact ⟨rfl, rfl⟩
  · rw [done]
    exact ⟨rfl, rfl⟩

/-- What a run of such calls keeps: the writes so far are allowed, and the jobs that
were settled at its start still are. -/
structure Refined (start : JobStore) (wired : Wired Scheduling) : Prop where
  noBus : Unheard wired
  allowed : ∃ events, wired.service.state.store.trace = start.trace ++ events ∧
    ∀ event ∈ events, event.Allowed
  settled : ∀ id row, start.table.find? id = some row → row.isTerminal = true →
    wired.service.state.store.table.find? id = some row

theorem Refined.keeps {start : JobStore} {wired : Wired Scheduling} {operation : Operation}
    (refined : Refined start wired) (basic : operation.sequential)
    (fresh : operation.fresh wired.service.state.store.table) :
    SequentialCall wired operation ∧ Refined start (schedulerStep wired operation).2 := by
  obtain ⟨⟨state, executorBus⟩, bus⟩ := wired
  obtain ⟨⟨rfl, rfl⟩, ⟨front, written, valid⟩, settled⟩ := refined
  have one := sequentialCall_of_fresh state operation basic fresh
  obtain ⟨back, appended, later⟩ := one.allowed
  refine ⟨one, schedulerStep_plain state operation basic fresh, ⟨front ++ back, ?_, ?_⟩, ?_⟩
  · rw [appended, written, List.append_assoc]
  · intro event inside
    rcases List.mem_append.mp inside with early | late
    · exact valid event early
    · exact later event late
  · intro id row present final
    exact one.settled id row (settled id row present final) final

/-- Calls made one after another, each on the store the last one left: a refinement of
the transition table. -/
theorem sequential_refinement (state : SchedulerState) (operations : List Operation)
    (calls : Along schedulerStep (fun wired operation => operation.sequential ∧
      operation.fresh wired.service.state.store.table) (plain state) operations) :
    Along schedulerStep SequentialCall (plain state) operations ∧
    (∃ events, (run schedulerStep (plain state) operations).2.service.state.store.trace =
      state.store.trace ++ events ∧ ∀ event ∈ events, event.Allowed) ∧
    (∀ id row, state.store.table.find? id = some row → row.isTerminal = true →
      (run schedulerStep (plain state) operations).2.service.state.store.table.find? id = some row) := by
  have holds : Refined state.store (plain state) :=
    ⟨⟨rfl, rfl⟩, ⟨[], by simp, by simp⟩, fun _ _ present _ => present⟩
  have final := run_invariant_along
    (fun _ _ refined call => (refined.keeps call.1 call.2).2) holds calls
  exact ⟨calls.of_invariant (fun _ _ refined call => (Refined.keeps refined call.1 call.2).2)
    (fun _ _ refined call => (refined.keeps call.1 call.2).1) holds, final.allowed, final.settled⟩

/-- One job submitted, run to its failure, retried and cancelled. -/
def oneLifecycle : List Operation :=
  [.submit "w1" "index" [] 0 3 "j1" (fun _ => 7),
    .processNext ⟨.asStored, .error "boom", fun _ => 8⟩,
    .retryJob "j1" (fun _ => 9), .cancelJob "j1" (fun _ => 10)]

theorem sequential_refinement_oneLifecycle :
    Along schedulerStep SequentialCall (plain ⟨⟨.empty, []⟩, ["index"]⟩) oneLifecycle :=
  (sequential_refinement ⟨⟨.empty, []⟩, ["index"]⟩ oneLifecycle
    ⟨⟨trivial, rfl⟩, ⟨trivial, trivial⟩, ⟨trivial, trivial⟩, ⟨trivial, trivial⟩, trivial⟩).1

end LexMind.Scheduler
