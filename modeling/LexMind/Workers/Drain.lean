import LexMind.Workers.Worker

set_option autoImplicit false

namespace LexMind.Workers

open Lib Events Scheduler

/-- The first of infinitely many rounds. -/
def firstRounds (rounds : Nat → JobScheduler.Round) : Nat → List JobScheduler.Round
  | 0 => []
  | count + 1 => rounds 0 :: firstRounds (fun index => rounds (index + 1)) count

/-- The rounds for no job at all, and one more. -/
theorem firstRounds_nil (rounds : Nat → JobScheduler.Round) (count : Nat) :
    firstRounds rounds (([] : List Job).length + 1 + count) =
      rounds 0 :: firstRounds (fun index => rounds (index + 1)) count := by
  rw [List.length_nil, Nat.zero_add, Nat.add_comm, firstRounds]

/-- The rounds for some jobs, and one more: the first is the first job's. -/
theorem firstRounds_cons (rounds : Nat → JobScheduler.Round) (job : Job) (order : List Job)
    (count : Nat) :
    firstRounds rounds ((job :: order).length + 1 + count) =
      rounds 0 :: firstRounds (fun index => rounds (index + 1)) (order.length + 1 + count) := by
  have one : (job :: order).length + 1 + count = (order.length + 1 + count) + 1 := by
    rw [List.length_cons]
    omega
  rw [one, firstRounds]

/-- The pending jobs, as the table holds them. -/
def pending (state : SchedulerState) : List Job :=
  state.store.table.rows.filter JobRepository.isPending

/-- A job executed to its outcome. -/
def settled (state : SchedulerState) (job : Job) (round : JobScheduler.Round) : SchedulerState :=
  withStore state
    (state.store.executed (job.begun round.clock) (job.ran round.outcome round.clock))

/-- The ids of the jobs that a handler was called with, in order. -/
def executedIds (trace : List Observation) : List String :=
  trace.filterMap (fun event => match event with
    | .handled id => some id
    | _ => none)

/-- Round after round, the first pending job has a handler and is executed, until the first one has
none or no job is left. -/
inductive Executes : SchedulerState → (Nat → JobScheduler.Round) → List Job → SchedulerState → Prop
  | done {state : SchedulerState} {rounds : Nat → JobScheduler.Round}
      (stuck : Stuck state (rounds 0)) : Executes state rounds [] state
  | step {state final : SchedulerState} {rounds : Nat → JobScheduler.Round} {job : Job}
      {rest order : List Job}
      (listed : JobRepository.pendingRows (rounds 0).scan state.store.table = job :: rest)
      (handled : job.jobType ∈ state.registered)
      (later : Executes (settled state job (rounds 0)) (fun index => rounds (index + 1)) order
        final) : Executes state rounds (job :: order) final

/-- The waiting jobs as the query of a round lists them. -/
def ranked (scan : Arrangement Job) (waiting : List Job) : List Job :=
  (scan.arrange waiting).insertionSort (fun a b => b.priority ≤ a.priority)

/-- Taken out one after the other, the first waiting job has a handler until no waiting job has one:
none of them is ever behind a job without. -/
inductive HandledFirst (registered : List String) : List Job → (Nat → Arrangement Job) → Prop
  | done {waiting : List Job} {scans : Nat → Arrangement Job}
      (unhandled : ∀ job ∈ waiting, job.jobType ∉ registered) :
      HandledFirst registered waiting scans
  | next {waiting rest : List Job} {scans : Nat → Arrangement Job} {job : Job}
      (listed : ranked (scans 0) waiting = job :: rest)
      (handled : job.jobType ∈ registered)
      (later : HandledFirst registered (waiting.filter (fun other => other.id ≠ job.id))
        (fun index => scans (index + 1))) :
      HandledFirst registered waiting scans

/-- The pending jobs with a handler, each executed once and those of higher priority first, once
the loop has gone on long enough; it then ends without a raise. -/
def Drains (state : SchedulerState)
    (ended : Nat → Except PyExc (List Job) × SchedulerState) : Prop :=
  ∃ (enough : Nat) (jobs : List Job) (after : SchedulerState) (order : List Job),
    (∀ count, enough ≤ count → ended count = (.ok jobs, after)) ∧
    order.Perm ((pending state).filter (fun job => job.jobType ∈ state.registered)) ∧
    order.Pairwise (fun first second => second.priority ≤ first.priority) ∧
    executedIds after.store.trace = executedIds state.store.trace ++ order.map Job.id

section Settled

variable {state : SchedulerState} {round : JobScheduler.Round} {job : Job} {rest : List Job}

theorem mem_pending (other : Job) :
    other ∈ pending state ↔ other ∈ state.store.table.rows ∧ other.status = .pending := by
  simp [pending, JobRepository.isPending]

theorem pendingRows_eq_ranked (scan : Arrangement Job) :
    JobRepository.pendingRows scan state.store.table = ranked scan (pending state) := rfl

theorem pendingRows_eq_nil (scan : Arrangement Job) :
    JobRepository.pendingRows scan state.store.table = [] ↔ pending state = [] := by
  have length : (JobRepository.pendingRows scan state.store.table).length = (pending state).length :=
    JobRepository.pendingRows_length scan state.store.table
  rw [← List.length_eq_zero_iff, length, List.length_eq_zero_iff]

/-- An executed job is no longer pending, and the others still are. -/
theorem pending_settled (state : SchedulerState) (job : Job) (round : JobScheduler.Round) :
    pending (settled state job round) = (pending state).filter (fun other => other.id ≠ job.id) := by
  have begun : JobRepository.isPending (job.begun round.clock) = false := by
    simp [JobRepository.isPending]
  have ran : JobRepository.isPending (job.ran round.outcome round.clock) = false := by
    rcases job.ran_status round.outcome round.clock with done | failed <;>
      simp [JobRepository.isPending, *]
  simp only [pending, settled, withStore_store, JobStore.executed, JobStore.write_table,
    JobStore.observe_table, Keyed.filter_put _ _ _ ran, Keyed.filter_put _ _ _ begun, Job.begun_id,
    Job.ran_id, List.filter_filter, Bool.and_self_left]

/-- The executed job and the jobs left are the pending jobs of before. -/
theorem pending_perm (round : JobScheduler.Round)
    (listed : JobRepository.pendingRows round.scan state.store.table = job :: rest) :
    (job :: pending (settled state job round)).Perm (pending state) := by
  obtain ⟨present, waiting, _⟩ := JobRepository.pendingRows_head listed
  have inside : job ∈ pending state := (mem_pending job).mpr ⟨Keyed.mem_of_find? present, waiting⟩
  have unique : (pending state).Nodup := (List.Nodup.of_map _ state.store.table.distinct).filter _
  rw [pending_settled]
  refine (List.perm_ext_iff_of_nodup ?_ unique).mpr (fun other => ?_)
  · refine List.nodup_cons.mpr ⟨fun held => ?_, unique.filter _⟩
    exact absurd rfl (of_decide_eq_true (List.mem_filter.mp held).2)
  · rw [List.mem_cons, List.mem_filter]
    constructor
    · rintro (rfl | held)
      · exact inside
      · exact held.1
    · intro held
      by_cases same : other.id = job.id
      · exact .inl (state.store.table.eq_of_key_eq ((mem_pending other).mp held).1
          (Keyed.mem_of_find? present) same)
      · exact .inr ⟨held, decide_eq_true same⟩

theorem executedIds_settled (state : SchedulerState) (job : Job) (round : JobScheduler.Round) :
    executedIds (settled state job round).store.trace =
      executedIds state.store.trace ++ [job.id] := by
  simp [executedIds, settled, JobStore.executed, List.filterMap_append]

end Settled

/-- The jobs that were executed on the way from one state to another, in order. -/
structure Progress (state : SchedulerState) (order : List Job) (final : SchedulerState) : Prop where
  perm : (order ++ pending final).Perm (pending state)
  handled : ∀ job ∈ order, job.jobType ∈ state.registered
  ranked : order.Pairwise (fun first second => second.priority ≤ first.priority)
  ids : executedIds final.store.trace = executedIds state.store.trace ++ order.map Job.id

section Executing

variable {state final : SchedulerState} {rounds : Nat → JobScheduler.Round} {order : List Job}

theorem Progress.refl (state : SchedulerState) : Progress state [] state :=
  ⟨.refl _, nofun, .nil, (List.append_nil _).symm⟩

/-- The first job outranks those that follow it. -/
theorem Progress.cons {round : JobScheduler.Round} {job : Job} {rest : List Job}
    (progress : Progress (settled state job round) order final)
    (listed : JobRepository.pendingRows round.scan state.store.table = job :: rest)
    (handled : job.jobType ∈ state.registered) : Progress state (job :: order) final := by
  have whole : (job :: (order ++ pending final)).Perm (pending state) :=
    (progress.perm.cons job).trans (pending_perm _ listed)
  obtain ⟨_, _, first⟩ := JobRepository.pendingRows_head listed
  refine ⟨whole, List.forall_mem_cons.mpr ⟨handled, progress.handled⟩,
    List.pairwise_cons.mpr ⟨fun other inside => ?_, progress.ranked⟩, ?_⟩
  · have held := (mem_pending other).mp
      (whole.mem_iff.mp (List.mem_cons_of_mem _ (List.mem_append_left _ inside)))
    exact first other held.1 held.2
  · rw [progress.ids, executedIds_settled, List.append_assoc, List.map_cons,
      List.singleton_append]

theorem Executes.progress (executes : Executes state rounds order final) :
    Progress state order final := by
  induction executes with
  | done stuck => exact .refl _
  | step listed handled later ih => exact ih.cons listed handled

/-- The rounds lead to a state they cannot go on from. The induction is on how many jobs are
pending. -/
theorem exists_executes (state : SchedulerState) (rounds : Nat → JobScheduler.Round) :
    ∃ order final, Executes state rounds order final := by
  induction remaining : (pending state).length generalizing state rounds with
  | zero =>
      refine ⟨[], state, .done fun job first => ?_⟩
      rw [(pendingRows_eq_nil _).mpr (List.length_eq_zero_iff.mp remaining)] at first
      cases first
  | succ count ih =>
      by_cases stuck : Stuck state (rounds 0)
      · exact ⟨[], state, .done stuck⟩
      · unfold Stuck at stuck
        push Not at stuck
        obtain ⟨job, first, handled⟩ := stuck
        obtain ⟨rest, listed⟩ := List.head?_eq_some_iff.mp first
        have fewer : (pending (settled state job (rounds 0))).length = count := by
          have same := (pending_perm _ listed).length_eq
          rw [List.length_cons] at same
          omega
        obtain ⟨order, final, executes⟩ := ih _ (fun index => rounds (index + 1)) fewer
        exact ⟨job :: order, final, .step listed handled executes⟩

/-- What is left of jobs that all have handlers is nothing. -/
theorem Executes.left_iff (executes : Executes state rounds order final) :
    pending final = [] ↔ ∀ job ∈ pending state, job.jobType ∈ state.registered := by
  induction executes with
  | @done state rounds stuck =>
      refine ⟨fun idle => by rw [idle]; exact nofun, fun handled => ?_⟩
      cases listed : JobRepository.pendingRows (rounds 0).scan state.store.table with
      | nil => exact (pendingRows_eq_nil _).mp listed
      | cons job rest =>
          have inside := (pending_perm (rounds 0) listed).mem_iff.mp List.mem_cons_self
          exact absurd (handled job inside) (stuck job (by rw [listed]; rfl))
  | @step state final rounds job rest order listed handled later ih =>
      have perm := pending_perm (rounds 0) listed
      rw [ih]
      constructor
      · intro others other inside
        rcases List.mem_cons.mp (perm.mem_iff.mpr inside) with rfl | left
        · exact handled
        · exact others other left
      · exact fun all other inside => all other (perm.mem_iff.mp (List.mem_cons_of_mem _ inside))

theorem Executes.handledFirst_iff (executes : Executes state rounds order final) :
    HandledFirst state.registered (pending state) (fun index => (rounds index).scan) ↔
      ∀ job ∈ pending final, job.jobType ∉ state.registered := by
  induction executes with
  | @done state rounds stuck =>
      refine ⟨fun clear => ?_, .done⟩
      cases clear with
      | done unhandled => exact unhandled
      | next listed handled _ =>
          rw [← pendingRows_eq_ranked] at listed
          exact absurd handled (stuck _ (by rw [listed]; rfl))
  | @step state final rounds job rest order listed handled later ih =>
      have inside := (pending_perm (rounds 0) listed).mem_iff.mp List.mem_cons_self
      rw [pending_settled] at ih
      constructor
      · intro clear
        cases clear with
        | done unhandled => exact absurd handled (unhandled job inside)
        | next again _ clear =>
            rw [← pendingRows_eq_ranked, listed] at again
            cases again
            exact ih.mp clear
      · exact fun unhandled => .next listed handled (ih.mpr unhandled)

end Executing

section Drivers

variable {state final : SchedulerState} {rounds : Nat → JobScheduler.Round} {order : List Job}
  {executorBus : ExecutorBus} {bus : Option EventBus}

theorem call_processNext (silent : executorBus.heard bus = none) {round : JobScheduler.Round}
    {job : Job} {rest : List Job}
    (listed : JobRepository.pendingRows round.scan state.store.table = job :: rest)
    (handled : job.jobType ∈ state.registered) :
    call (JobScheduler.processNext round) ⟨⟨state, executorBus⟩, bus⟩ =
      (.ok (some (job.ran round.outcome round.clock)),
        ⟨⟨settled state job round, executorBus⟩, bus⟩) := by
  rcases processNext_cases state silent round with
    ⟨empty, _⟩ | ⟨other, later, found, missing, _⟩ | ⟨other, later, found, _, executed⟩
  · rw [listed] at empty
    cases empty
  · rw [listed] at found
    cases found
    exact absurd handled missing
  · rw [listed] at found
    cases found
    exact executed

theorem call_queueEmpty (state : SchedulerState) :
    call JobQueue.isEmpty ⟨⟨state, executorBus⟩, bus⟩ =
      (.ok (decide ((pending state).length = 0)), ⟨⟨state, executorBus⟩, bus⟩) :=
  call_isEmpty state

/-- Without pending jobs, a round finds none, whatever the buses. -/
theorem call_processNext_idle (idle : pending state = []) (round : JobScheduler.Round) :
    call (JobScheduler.processNext round) ⟨⟨state, executorBus⟩, bus⟩ =
      (.ok none, ⟨⟨state, executorBus⟩, bus⟩) := by
  rw [JobScheduler.processNext, call_bind, call_dequeue, (pendingRows_eq_nil _).mpr idle]
  rfl

theorem call_processAll_idle (idle : pending state = []) (rounds : List JobScheduler.Round) :
    call (JobScheduler.processAll rounds) ⟨⟨state, executorBus⟩, bus⟩ =
      (.ok [], ⟨⟨state, executorBus⟩, bus⟩) := by
  cases rounds with
  | nil => rfl
  | cons round rest =>
      rw [JobScheduler.processAll, call_bind, call_queueEmpty, idle]
      rfl

/-- Another turn of the loop, where a job is pending. -/
theorem call_processAll_cons (busy : pending state ≠ []) (round : JobScheduler.Round)
    (rest : List JobScheduler.Round) :
    call (JobScheduler.processAll (round :: rest)) ⟨⟨state, executorBus⟩, bus⟩ =
      andThen (call (JobScheduler.processNext round) ⟨⟨state, executorBus⟩, bus⟩)
        (fun executed => (executed.toList ++ ·) <$> JobScheduler.processAll rest) := by
  have some : ¬ (pending state).length = 0 := fun none => busy (List.length_eq_zero_iff.mp none)
  rw [JobScheduler.processAll, call_bind, call_queueEmpty, decide_eq_false some, andThen_ok]
  simp only [Bool.false_eq_true, ↓reduceIte, call_bind]
  rfl

theorem busy_of_listed {scan : Arrangement Job} {job : Job} {rest : List Job}
    (listed : JobRepository.pendingRows scan state.store.table = job :: rest) :
    pending state ≠ [] := by
  intro idle
  rw [(pendingRows_eq_nil scan).mpr idle] at listed
  cases listed

/-- A round with nothing to execute finds no job, or raises at one without a handler. -/
theorem call_processNext_stuck (silent : executorBus.heard bus = none)
    {round : JobScheduler.Round} (stuck : Stuck state round) :
    ∃ answer, call (JobScheduler.processNext round) ⟨⟨state, executorBus⟩, bus⟩ =
        (answer, ⟨⟨state, executorBus⟩, bus⟩) ∧
      answer.toOption.join = none ∧ (pending state ≠ [] → ∃ exc, answer = .error exc) := by
  rcases processNext_cases state silent round with
    ⟨empty, idle⟩ | ⟨job, rest, _, _, refused⟩ | ⟨job, rest, listed, handled, _⟩
  · exact ⟨_, idle, rfl, fun busy => absurd ((pendingRows_eq_nil _).mp empty) busy⟩
  · exact ⟨_, refused, rfl, fun _ => ⟨_, rfl⟩⟩
  · exact absurd handled (stuck job (by rw [listed]; rfl))

theorem Executes.processAll (silent : executorBus.heard bus = none)
    (executes : Executes state rounds order final) (left : pending final = []) :
    ∃ jobs, ∀ count, order.length ≤ count →
      call (JobScheduler.processAll (firstRounds rounds count)) ⟨⟨state, executorBus⟩, bus⟩ =
        (.ok jobs, ⟨⟨final, executorBus⟩, bus⟩) := by
  induction executes with
  | done stuck => exact ⟨[], fun count _ => call_processAll_idle left _⟩
  | @step state final rounds job rest order listed handled later ih =>
      obtain ⟨jobs, looped⟩ := ih left
      refine ⟨job.ran (rounds 0).outcome (rounds 0).clock :: jobs, fun count enough => ?_⟩
      rw [List.length_cons] at enough
      obtain ⟨count, rfl⟩ := Nat.exists_eq_add_of_lt enough
      rw [show order.length + count + 1 = (order.length + count) + 1 from rfl, firstRounds,
        call_processAll_cons (busy_of_listed listed), call_processNext silent listed handled,
        andThen_ok, call_map, looped _ (by omega)]
      rfl

/-- A job without a handler stays pending until the loop raises at it. -/
theorem Executes.processAll_raises (silent : executorBus.heard bus = none)
    (executes : Executes state rounds order final) (left : pending final ≠ []) (count : Nat) :
    ∃ exc, (call (JobScheduler.processAll (firstRounds rounds (order.length + 1 + count)))
      ⟨⟨state, executorBus⟩, bus⟩).1 = .error exc := by
  induction executes with
  | @done state rounds stuck =>
      obtain ⟨answer, ended, _, raises⟩ := call_processNext_stuck silent stuck
      obtain ⟨exc, rfl⟩ := raises left
      refine ⟨exc, ?_⟩
      rw [firstRounds_nil, call_processAll_cons left, ended, andThen_error]
  | @step state final rounds job rest order listed handled later ih =>
      obtain ⟨exc, raised⟩ := ih left
      refine ⟨exc, ?_⟩
      rw [firstRounds_cons, call_processAll_cons (busy_of_listed listed),
        call_processNext silent listed handled, andThen_ok, call_map, raised]
      rfl

theorem call_conclude_unwired (answer : Except PyExc (Option Job)) (worker : WorkerState) :
    call (WorkerService.conclude answer) ⟨worker, none⟩ =
      (.ok (answer.toOption.join), ⟨worker, none⟩) := by
  rcases answer with exc | (none | job)
  · simp [WorkerService.conclude]
    rfl
  · rfl
  · simp only [WorkerService.conclude, call_bind, emit_without_bus, andThen_ok, call_ite]
    split <;> rfl

/-- A worker without a bus answers no job where its round has raised. -/
theorem call_runOnce_unwired (round : JobScheduler.Round) (worker : WorkerState)
    {scheduler next : Wired Scheduling} {answer : Except PyExc (Option Job)}
    (made : call (JobScheduler.processNext round) scheduler = (answer, next)) :
    call (WorkerService.runOnce round) ⟨{ worker with scheduler := scheduler }, none⟩ =
      (.ok answer.toOption.join, ⟨{ worker with scheduler := next }, none⟩) := by
  rw [WorkerService.runOnce, call_bind, call_attempt, call_onScheduler, made, andThen_ok]
  exact call_conclude_unwired answer _

/-- The loop of a worker without a bus ends at the first round that executes nothing. -/
theorem Executes.runAll (silent : executorBus.heard bus = none)
    (executes : Executes state rounds order final) (worker : WorkerState) :
    ∃ jobs, ∀ count, order.length + 1 ≤ count →
      call (WorkerService.runAll (firstRounds rounds count))
        ⟨{ worker with scheduler := ⟨⟨state, executorBus⟩, bus⟩ }, none⟩ =
        (.ok jobs, ⟨{ worker with scheduler := ⟨⟨final, executorBus⟩, bus⟩ }, none⟩) := by
  induction executes with
  | @done state rounds stuck =>
      refine ⟨[], fun count enough => ?_⟩
      obtain ⟨count, rfl⟩ := Nat.exists_eq_add_of_le enough
      obtain ⟨answer, ended, nothing, _⟩ := call_processNext_stuck silent stuck
      rw [firstRounds_nil, WorkerService.runAll, call_bind, call_runOnce_unwired _ worker ended,
        nothing]
      rfl
  | @step state final rounds job rest order listed handled later ih =>
      obtain ⟨jobs, looped⟩ := ih
      refine ⟨job.ran (rounds 0).outcome (rounds 0).clock :: jobs, fun count enough => ?_⟩
      obtain ⟨count, rfl⟩ := Nat.exists_eq_add_of_le enough
      have once := call_runOnce_unwired (rounds 0) worker (call_processNext silent listed handled)
      have further := looped (order.length + 1 + count) (Nat.le_add_right _ _)
      rw [firstRounds_cons, WorkerService.runAll, call_bind, once]
      show call (((WorkerService.runAll _) >>= fun later => pure (_ :: later)) : WorkerPy (List Job))
        _ = _
      rw [call_bind, further]
      rfl

/-- Where the executor has a bus, no job gets as far as its handler: the first event of its
execution has no name. -/
theorem call_processNext_wired {reached : EventBus} (heard : executorBus.heard bus = some reached)
    (busy : pending state ≠ []) (round : JobScheduler.Round) :
    ∃ exc, call (JobScheduler.processNext round) ⟨⟨state, executorBus⟩, bus⟩ =
      (.error exc, ⟨⟨state, executorBus⟩, bus⟩) := by
  cases listed : JobRepository.pendingRows round.scan state.store.table with
  | nil => exact absurd ((pendingRows_eq_nil _).mp listed) busy
  | cons job rest =>
      have waiting := (JobRepository.pendingRows_head listed).2.1
      have start : job.transitionTo .running (round.clock 0) = .ok (job.begun round.clock) :=
        Job.transitionTo_of_valid (by simp [waiting, validTransitions])
      have nameless := JobExecutor.call_emit_unnamed state heard
        (jobStarted (job.begun round.clock)) (domainEvent_unnamed _ _ _ rfl)
      rw [JobScheduler.processNext, call_bind, call_dequeue, listed]
      by_cases handled : job.jobType ∈ state.registered
      · refine ⟨.attributeError (jobStarted (job.begun round.clock)).className "name", ?_⟩
        simp only [List.head?_cons, andThen_ok, JobExecutor.execute, call_bind, call_get, handled,
          not_true_eq_false, ↓reduceIte, call_check, start, nameless, andThen_error]
      · refine ⟨.valueError ("No handler registered for job_type=" ++ pyRepr job.jobType), ?_⟩
        simp [JobExecutor.execute, handled]

/-- Where a job is pending, a round raises or answers a job, whatever the buses. -/
theorem call_processNext_busy (busy : pending state ≠ []) (round : JobScheduler.Round)
    (executorBus : ExecutorBus) (bus : Option EventBus) :
    (call (JobScheduler.processNext round) ⟨⟨state, executorBus⟩, bus⟩).1 ≠ .ok none := by
  cases heard : executorBus.heard bus with
  | some reached =>
      obtain ⟨exc, raised⟩ := call_processNext_wired heard busy round
      rw [raised]
      exact nofun
  | none =>
      rcases processNext_cases state heard round with
        ⟨empty, _⟩ | ⟨job, rest, _, _, refused⟩ | ⟨job, rest, _, _, executed⟩
      · exact absurd ((pendingRows_eq_nil _).mp empty) busy
      · rw [refused]
        exact nofun
      · rw [executed]
        exact nofun

/-- A worker with a bus raises in its first round, at the event that reports how it went. -/
theorem call_runAll_wired (worker : WorkerState) (busy : pending worker.scheduler.service.state ≠ [])
    (rounds : Nat → JobScheduler.Round) (count : Nat) (bus : EventBus) :
    ∃ exc, (call (WorkerService.runAll (firstRounds rounds (count + 1))) ⟨worker, some bus⟩).1 =
      .error exc := by
  obtain ⟨⟨⟨state, executorBus⟩, schedulerBus⟩, registry, handlers⟩ := worker
  have found := call_processNext_busy busy (rounds 0) executorBus schedulerBus
  rw [firstRounds, WorkerService.runAll, call_bind, WorkerService.runOnce, call_bind, call_attempt,
    call_onScheduler, andThen_ok]
  rcases made : call (JobScheduler.processNext (rounds 0)) ⟨⟨state, executorBus⟩, schedulerBus⟩ with
    ⟨exc | (_ | job), next⟩
  · refine ⟨.attributeError "TaskFailed" "name", ?_⟩
    rw [WorkerService.conclude, call_bind,
      emit_unnamed (taskFailed "" "" exc.text) (domainEvent_unnamed _ _ _ rfl)]
    rfl
  · exact absurd (congrArg Prod.fst made) found
  · refine ⟨.attributeError "TaskAssigned" "name", ?_⟩
    rw [WorkerService.conclude, call_bind,
      emit_unnamed (taskAssigned job) (domainEvent_unnamed _ _ _ rfl)]
    rfl

/-- The loop of a worker whose first round ends without a job. -/
theorem call_runAll_ended (worker : WorkerState) {bus : Option EventBus}
    {rounds : Nat → JobScheduler.Round} (count : Nat)
    (once : call (WorkerService.runOnce (rounds 0)) ⟨worker, bus⟩ = (.ok none, ⟨worker, bus⟩)) :
    call (WorkerService.runAll (firstRounds rounds (count + 1))) ⟨worker, bus⟩ =
      (.ok [], ⟨worker, bus⟩) := by
  rw [firstRounds, WorkerService.runAll, call_bind, once]
  rfl

theorem call_runOnce_idle (worker : WorkerState) (idle : pending worker.scheduler.service.state = [])
    (round : JobScheduler.Round) (bus : Option EventBus) :
    call (WorkerService.runOnce round) ⟨worker, bus⟩ = (.ok none, ⟨worker, bus⟩) := by
  rw [WorkerService.runOnce, call_bind, call_attempt, call_onScheduler, call_processNext_idle idle]
  rfl

end Drivers

section Ends

variable {state final : SchedulerState} {order : List Job}
  {ended : Nat → Except PyExc (List Job) × SchedulerState}

/-- A loop that drains the queue does not raise, however long it goes on. -/
theorem Drains.returns (drains : Drains state ended) :
    ∃ enough, ∀ count, enough ≤ count → ∀ exc, (ended count).1 ≠ .error exc := by
  obtain ⟨enough, jobs, after, _, ends, _⟩ := drains
  refine ⟨enough, fun count long exc raised => ?_⟩
  rw [ends count long] at raised
  cases raised

/-- A job that is still pending was not executed. -/
theorem Progress.apart (progress : Progress state order final) {job : Job}
    (left : job ∈ pending final) : job.id ∉ order.map Job.id := by
  intro executed
  obtain ⟨other, inside, same⟩ := List.mem_map.mp executed
  have unique : (pending state).Nodup := (List.Nodup.of_map _ state.store.table.distinct).filter _
  have stored {job : Job} (member : job ∈ order ++ pending final) :
      job ∈ state.store.table.rows := ((mem_pending job).mp (progress.perm.mem_iff.mp member)).1
  have one := state.store.table.eq_of_key_eq (stored (List.mem_append_left _ inside))
    (stored (List.mem_append_right _ left)) same
  have disjoint := List.disjoint_of_nodup_append (progress.perm.nodup_iff.mpr unique)
  exact disjoint inside (one ▸ left)

/-- A loop that comes to an end drains the queue where it leaves no job with a handler. -/
theorem Progress.drained_iff (progress : Progress state order final) {jobs : List Job} {enough : Nat}
    (ends : ∀ count, enough ≤ count → ended count = (.ok jobs, final)) :
    Drains state ended ↔ ∀ job ∈ pending final, job.jobType ∉ state.registered := by
  constructor
  · rintro ⟨other, same, after, executed, again, perm, _, ids⟩ job left handled
    have last := (ends _ (Nat.le_add_left enough other)).symm.trans
      (again _ (Nat.le_add_right other enough))
    cases last
    have equal := List.append_cancel_left (progress.ids.symm.trans ids)
    have owed : job ∈ (pending state).filter (fun job => job.jobType ∈ state.registered) :=
      List.mem_filter.mpr ⟨progress.perm.mem_iff.mp (List.mem_append_right _ left),
        decide_eq_true handled⟩
    have done : job.id ∈ executed.map Job.id := List.mem_map_of_mem (perm.mem_iff.mpr owed)
    rw [← equal] at done
    exact progress.apart left done
  · intro unhandled
    refine ⟨enough, jobs, final, order, ends, ?_, progress.ranked, progress.ids⟩
    have perm := progress.perm.filter (fun job => job.jobType ∈ state.registered)
    have all : order.filter (fun job => job.jobType ∈ state.registered) = order :=
      List.filter_eq_self.mpr (fun job inside => decide_eq_true (progress.handled job inside))
    have none : (pending final).filter (fun job => job.jobType ∈ state.registered) = [] :=
      List.filter_eq_nil_iff.mpr (fun job left => by simpa using unhandled job left)
    rwa [List.filter_append, all, none, List.append_nil] at perm

theorem Drains.of_idle (idle : pending state = []) (enough : Nat)
    (ends : ∀ count, enough ≤ count → ended count = (.ok [], state)) : Drains state ended :=
  ((Progress.refl state).drained_iff ends).mpr (by rw [idle]; exact nofun)

end Ends

/-- How `process_all` ends after so many iterations. -/
def schedulerEnds (wired : Wired Scheduling) (rounds : Nat → JobScheduler.Round) (count : Nat) :
    Except PyExc (List Job) × SchedulerState :=
  let ended := call (JobScheduler.processAll (firstRounds rounds count)) wired
  (ended.1, ended.2.service.state)

/-- How `run_all` of a worker ends after so many iterations. -/
def workerEnds (worker : Wired WorkerState) (rounds : Nat → JobScheduler.Round) (count : Nat) :
    Except PyExc (List Job) × SchedulerState :=
  let ended := call (WorkerService.runAll (firstRounds rounds count)) worker
  (ended.1, ended.2.service.scheduler.service.state)

def poolEnds (pool : WorkerPool) (rounds : Nat → JobScheduler.Round) (count : Nat) :
    Except PyExc (List Job) × SchedulerState :=
  let ended := call (WorkerPool.runAll (firstRounds rounds count)) pool
  (ended.1, ended.2.shared.service.scheduler.service.state)

theorem poolEnds_eq (pool : WorkerPool) (rounds : Nat → JobScheduler.Round) :
    poolEnds pool rounds = workerEnds pool.shared rounds := by
  funext count
  rw [poolEnds, WorkerPool.runAll, WorkerPool.onShared, call_onPart]
  rfl

/-- The scheduler reads its executor's bus only: its own is silent in `process_all`. -/
theorem schedulerEnds_drains_iff (scheduler : Wired Scheduling)
    (rounds : Nat → JobScheduler.Round) :
    Drains scheduler.service.state (schedulerEnds scheduler rounds) ↔
      pending scheduler.service.state = [] ∨
        JobExecutor.bus scheduler = none ∧
          ∀ job ∈ pending scheduler.service.state,
            job.jobType ∈ scheduler.service.state.registered := by
  obtain ⟨⟨state, executorBus⟩, bus⟩ := scheduler
  by_cases idle : pending state = []
  · refine iff_of_true (Drains.of_idle idle 0 fun count _ => ?_) (.inl idle)
    rw [schedulerEnds, call_processAll_idle idle]
  · rw [or_iff_right idle]
    cases heard : executorBus.heard bus with
    | some reached =>
        refine iff_of_false (fun drains => ?_) (fun both => nomatch heard.symm.trans both.1)
        obtain ⟨enough, returns⟩ := drains.returns
        obtain ⟨exc, raised⟩ := call_processNext_wired heard idle (rounds 0)
        refine returns (enough + 1) (Nat.le_succ _) exc ?_
        rw [schedulerEnds, firstRounds, call_processAll_cons idle, raised, andThen_error]
    | none =>
        obtain ⟨order, final, executes⟩ := exists_executes state rounds
        rw [show JobExecutor.bus ⟨⟨state, executorBus⟩, bus⟩ = none from heard, ← executes.left_iff,
          and_iff_right rfl]
        constructor
        · intro drains
          by_contra left
          obtain ⟨enough, returns⟩ := drains.returns
          obtain ⟨exc, raised⟩ := executes.processAll_raises heard left enough
          exact returns _ (Nat.le_add_left enough (order.length + 1)) exc raised
        · intro left
          obtain ⟨jobs, processed⟩ := executes.processAll heard left
          have ends (count : Nat) (long : order.length ≤ count) :
              schedulerEnds ⟨⟨state, executorBus⟩, bus⟩ rounds count = (.ok jobs, final) := by
            rw [schedulerEnds, processed count long]
          exact (executes.progress.drained_iff ends).mpr (by rw [left]; exact nofun)

/-- What a worker needs to drain the queue: nothing is pending, or it has no bus, and either no
pending job has a handler, or its executor has no bus and no job with a handler is behind one
without. -/
def Workable (worker : Wired WorkerState) (rounds : Nat → JobScheduler.Round) : Prop :=
  let scheduler := worker.service.scheduler
  pending scheduler.service.state = [] ∨
    worker.bus = none ∧
      ((∀ job ∈ pending scheduler.service.state,
          job.jobType ∉ scheduler.service.state.registered) ∨
        JobExecutor.bus scheduler = none ∧
          HandledFirst scheduler.service.state.registered (pending scheduler.service.state)
            (fun index => (rounds index).scan))

section Wired

variable (worker : WorkerState) (rounds : Nat → JobScheduler.Round)

/-- A worker whose executor has a bus ends early, with every job where it was. -/
theorem workerEnds_heard_iff {reached : EventBus}
    (heard : JobExecutor.bus worker.scheduler = some reached)
    (busy : pending worker.scheduler.service.state ≠ []) :
    Drains worker.scheduler.service.state (workerEnds ⟨worker, none⟩ rounds) ↔
      ∀ job ∈ pending worker.scheduler.service.state,
        job.jobType ∉ worker.scheduler.service.state.registered := by
  obtain ⟨⟨⟨state, executorBus⟩, bus⟩, registry, handlers⟩ := worker
  have stopped (count : Nat) (long : 1 ≤ count) :
      workerEnds ⟨⟨⟨⟨state, executorBus⟩, bus⟩, registry, handlers⟩, none⟩ rounds count =
        (.ok [], state) := by
    obtain ⟨count, rfl⟩ := Nat.exists_eq_add_of_le long
    obtain ⟨exc, raised⟩ := call_processNext_wired heard busy (rounds 0)
    have once := call_runOnce_unwired (rounds 0)
      ⟨⟨⟨state, executorBus⟩, bus⟩, registry, handlers⟩ raised
    rw [workerEnds, Nat.add_comm, call_runAll_ended _ count once]
  exact (Progress.refl state).drained_iff stopped

theorem workerEnds_silent_iff (silent : JobExecutor.bus worker.scheduler = none) :
    Drains worker.scheduler.service.state (workerEnds ⟨worker, none⟩ rounds) ↔
      HandledFirst worker.scheduler.service.state.registered
        (pending worker.scheduler.service.state) (fun index => (rounds index).scan) := by
  obtain ⟨⟨⟨state, executorBus⟩, bus⟩, registry, handlers⟩ := worker
  obtain ⟨order, final, executes⟩ := exists_executes state rounds
  obtain ⟨jobs, ran⟩ := executes.runAll silent ⟨⟨⟨state, executorBus⟩, bus⟩, registry, handlers⟩
  have ends (count : Nat) (long : order.length + 1 ≤ count) :
      workerEnds ⟨⟨⟨⟨state, executorBus⟩, bus⟩, registry, handlers⟩, none⟩ rounds count =
        (.ok jobs, final) := by
    rw [workerEnds, ran count long]
  exact (executes.progress.drained_iff ends).trans executes.handledFirst_iff.symm

end Wired

theorem workerEnds_drains_iff (worker : Wired WorkerState) (rounds : Nat → JobScheduler.Round) :
    Drains worker.service.scheduler.service.state (workerEnds worker rounds) ↔
      Workable worker rounds := by
  obtain ⟨worker, workerBus⟩ := worker
  unfold Workable
  by_cases idle : pending worker.scheduler.service.state = []
  · refine iff_of_true (Drains.of_idle idle 1 fun count long => ?_) (.inl idle)
    obtain ⟨count, rfl⟩ := Nat.exists_eq_add_of_le long
    rw [workerEnds, Nat.add_comm, call_runAll_ended _ count (call_runOnce_idle _ idle _ _)]
  · rw [or_iff_right idle]
    cases workerBus with
    | some own =>
        refine iff_of_false (fun drains => ?_) (fun both => nomatch both.1)
        obtain ⟨enough, returns⟩ := drains.returns
        obtain ⟨exc, raised⟩ := call_runAll_wired worker idle rounds enough own
        exact returns (enough + 1) (Nat.le_succ _) exc raised
    | none =>
        rw [and_iff_right rfl]
        cases heard : JobExecutor.bus worker.scheduler with
        | some reached =>
            rw [workerEnds_heard_iff worker rounds heard idle]
            exact (or_iff_left fun both => nomatch both.1).symm
        | none =>
            rw [workerEnds_silent_iff worker rounds heard, and_iff_right rfl]
            exact ⟨.inr, fun either => either.elim .done id⟩

/-- The scheduler drains the queue exactly where nothing is pending, or its executor has no bus and
every pending job has a handler; a worker, and every pool of such workers, exactly where it can
work through the jobs that have one. -/
theorem drains_iff (worker : Wired WorkerState) (rounds : Nat → JobScheduler.Round) :
    let scheduler := worker.service.scheduler
    let state := scheduler.service.state
    (Drains state (schedulerEnds scheduler rounds) ↔
      pending state = [] ∨
        JobExecutor.bus scheduler = none ∧ ∀ job ∈ pending state, job.jobType ∈ state.registered) ∧
    (Drains state (workerEnds worker rounds) ↔ Workable worker rounds) ∧
    ∀ pool : WorkerPool, pool.shared = worker →
      (Drains state (poolEnds pool rounds) ↔ Workable worker rounds) := by
  intro scheduler state
  have worked := workerEnds_drains_iff worker rounds
  refine ⟨schedulerEnds_drains_iff scheduler rounds, worked, fun pool same => ?_⟩
  rw [poolEnds_eq, same]
  exact worked

def waiting (id jobType : String) (priority : Int) : Job where
  workspaceId := "ws1"
  jobType := jobType
  id := id
  status := .pending
  payload := []
  result := ""
  errorMessage := ""
  attempts := 0
  maxRetries := 3
  priority := priority
  createdAt := 0
  startedAt := none
  completedAt := none
  updatedAt := 0
  hasWorkspace := by decide

/-- A job without a handler at the head of the queue, before one with a handler. -/
def blocked : SchedulerState :=
  ⟨⟨⟨[waiting "j1" "unknown" 5, waiting "j2" "ingest" 0], by decide⟩, []⟩, ["ingest"]⟩

/-- The job behind the head is never executed: the scheduler raises, and the worker ends early. -/
theorem blocked_not_drained :
    let rounds : Nat → JobScheduler.Round := fun _ => ⟨.asStored, .ok "done", fun _ => 0⟩
    let worker : Wired WorkerState := ⟨⟨plain blocked, .empty, .empty⟩, none⟩
    ¬ Drains blocked (schedulerEnds (plain blocked) rounds) ∧
      ¬ Drains blocked (workerEnds worker rounds) := by
  intro rounds worker
  have head : waiting "j1" "unknown" 5 ∈ pending blocked := by decide
  refine ⟨fun drains => ?_, fun drains => ?_⟩
  · rcases (schedulerEnds_drains_iff (plain blocked) rounds).mp drains with idle | ⟨_, handled⟩
    · exact List.ne_nil_of_mem head idle
    · exact absurd (handled _ head) (by decide)
  · obtain ⟨enough, jobs, after, order, ends, perm, _, ids⟩ := drains
    have idle : workerEnds worker rounds (enough + 1) = (.ok [], blocked) := rfl
    have same := ends (enough + 1) (Nat.le_succ _)
    rw [idle] at same
    cases same
    have none : order = [] := by simpa using ids
    subst none
    have left := perm.length_eq
    exact absurd left (by decide)

end LexMind.Workers
