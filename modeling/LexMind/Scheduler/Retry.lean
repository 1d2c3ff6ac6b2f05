import LexMind.Scheduler.Sequential

set_option autoImplicit false

namespace LexMind.Scheduler

open Lib Events

/-- How often one job entered RUNNING, was handed to its handler and was retried. -/
structure Tally where
  entered : Nat
  handled : Nat
  retried : Nat
deriving DecidableEq, Repr

def Observation.entersRunning (id : String) : Observation → Bool
  | .stored other before after => other = id ∧ before ≠ some .running ∧ after = .running
  | _ => false

def tally (id : String) (trace : List Observation) : Tally where
  entered := trace.countP (Observation.entersRunning id)
  handled := trace.count (.handled id)
  retried := trace.count (.retried id)

/-- The bound a job submitted with `max_retries = limit` is promised. -/
def RetryBounded (id : String) (limit : Int) (store : JobStore) : Prop :=
  (tally id store.trace).retried ≤ limit ∧ (tally id store.trace).handled ≤ limit + 1 ∧
    ∃ row, store.table.find? id = some row ∧ row.attempts = (tally id store.trace).entered

section Tally

variable (id : String) (store : JobStore) (job : Job) (outcome : HandlerOutcome) (clock : Clock)
  (now : Timestamp)

theorem tally_append (front back : List Observation) :
    tally id (front ++ back) =
      ⟨(tally id front).entered + (tally id back).entered,
        (tally id front).handled + (tally id back).handled,
        (tally id front).retried + (tally id back).retried⟩ := by
  simp [tally]

/-- The counters after one execution: only those of the executed job move. -/
theorem tally_executed (waiting : job.status = .pending)
    (present : store.table.find? job.id = some job) :
    tally id (store.executed (job.begun clock) (job.ran outcome clock)).trace =
      if job.id = id then
        ⟨(tally id store.trace).entered + 1, (tally id store.trace).handled + 1,
          (tally id store.trace).retried⟩
      else tally id store.trace := by
  rw [JobStore.executed_trace _ _ _ (by simp), tally_append]
  have final := job.ran_status outcome clock
  have settled : (job.ran outcome clock).status ≠ .running := by
    rcases final with done | failed <;> simp [*]
  split
  · rename_i same
    subst same
    simp [tally, Observation.entersRunning, JobStore.statusOf_present present, waiting, settled]
  · rename_i other
    simp [tally, Observation.entersRunning, other]

theorem tally_regranted :
    tally id (store.regranted (job.requeued now)).trace =
      if job.id = id then
        ⟨(tally id store.trace).entered, (tally id store.trace).handled,
          (tally id store.trace).retried + 1⟩
      else tally id store.trace := by
  rw [JobStore.regranted_trace, tally_append]
  split
  · rename_i same
    subst same
    simp [tally, Observation.entersRunning]
  · rename_i other
    simp [tally, Observation.entersRunning, other]

end Tally

/-- A round that runs the job although it has been started before: the RUNNING
transition then leaves the attempts alone. -/
def restartsAt (id : String) (state : SchedulerState) (round : JobScheduler.Round) : Prop :=
  ∃ job rest, JobRepository.pendingRows round.scan state.store.table = job :: rest ∧
    job.id = id ∧ job.jobType ∈ state.registered ∧ job.startedAt ≠ none

/-- The loop of `process_all` reaches such a round. -/
def restartsIn (id : String) : List JobScheduler.Round → SchedulerState → Prop
  | [], _ => False
  | round :: rest, state =>
      restartsAt id state round ∨
      ∃ job next, call (JobScheduler.processNext round) (plain state) =
        (.ok (some job), plain next) ∧ restartsIn id rest next

namespace Operation

/-- The calls that work on jobs that are already stored. -/
def works : Operation → Prop
  | .processNext _ | .processAll _ | .retryJob .. => True
  | _ => False

def restarts (id : String) (state : SchedulerState) : Operation → Prop
  | .processNext round => restartsAt id state round
  | .processAll rounds => restartsIn id rounds state
  | _ => False

end Operation

/-- The states a job goes through while no execution restarts it. -/
inductive Fair (id : String) (limit : Int) (store : JobStore) : Prop
  | waiting (row : Job) (present : store.table.find? id = some row) (status : row.status = .pending)
      (unstarted : row.startedAt = none) (unused : row.attempts = 0)
      (bounded : row.maxRetries = limit) (none : tally id store.trace = ⟨0, 0, 0⟩)
  | ran (row : Job) (present : store.table.find? id = some row) (status : row.status ≠ .pending)
      (started : row.startedAt ≠ none) (used : row.attempts = 1) (bounded : row.maxRetries = limit)
      (once : tally id store.trace = ⟨1, 1, 0⟩)
  | requeued (row : Job) (present : store.table.find? id = some row) (status : row.status = .pending)
      (started : row.startedAt ≠ none) (used : row.attempts = 1) (allowed : 1 < limit)
      (again : tally id store.trace = ⟨1, 1, 1⟩)

/-- The job has entered RUNNING more often than its counter says. -/
def Overrun (id : String) (store : JobStore) : Prop :=
  ∃ row, store.table.find? id = some row ∧ row.attempts < (tally id store.trace).entered

variable {id : String} {limit : Int} {state : SchedulerState}

theorem Fair.bounded {store : JobStore} (fair : Fair id limit store) (natural : 0 ≤ limit) :
    RetryBounded id limit store := by
  cases fair with
  | waiting row present status unstarted unused bounded none =>
      exact ⟨by simpa [none], by simp [none]; omega, row, present, by simp [none, unused]⟩
  | ran row present status started used bounded once =>
      exact ⟨by simpa [once], by simp [once]; omega, row, present, by simp [once, used]⟩
  | requeued row present status started used allowed again =>
      exact ⟨by simp [again]; omega, by simp [again]; omega, row, present, by simp [again, used]⟩

theorem Overrun.unbounded {store : JobStore} (overrun : Overrun id store) :
    ¬ RetryBounded id limit store := by
  rintro ⟨_, _, row, present, counted⟩
  obtain ⟨same, found, less⟩ := overrun
  rw [present] at found
  cases found
  omega

/-- Both predicates look at one row and its counters only. -/
theorem Fair.frame {store after : JobStore} (fair : Fair id limit store)
    (row : after.table.find? id = store.table.find? id)
    (counters : tally id after.trace = tally id store.trace) : Fair id limit after := by
  cases fair with
  | waiting job present status unstarted unused bounded none =>
      exact .waiting job (row.trans present) status unstarted unused bounded (counters.trans none)
  | ran job present status started used bounded once =>
      exact .ran job (row.trans present) status started used bounded (counters.trans once)
  | requeued job present status started used allowed again =>
      exact .requeued job (row.trans present) status started used allowed (counters.trans again)

theorem Overrun.frame {store after : JobStore} (overrun : Overrun id store)
    (row : after.table.find? id = store.table.find? id)
    (counters : tally id after.trace = tally id store.trace) : Overrun id after := by
  obtain ⟨job, present, less⟩ := overrun
  exact ⟨job, row.trans present, by rw [counters]; exact less⟩

/-- One round either leaves the job and its counters alone, or runs it. -/
theorem nextState_cases (id : String) (state : SchedulerState) (round : JobScheduler.Round) :
    (¬ restartsAt id state round ∧
      (nextState state round).store.table.find? id = state.store.table.find? id ∧
      tally id (nextState state round).store.trace = tally id state.store.trace) ∨
    ∃ job, state.store.table.find? id = some job ∧ job.status = .pending ∧
      (restartsAt id state round ↔ job.startedAt ≠ none) ∧
      (nextState state round).store.table.find? id =
        some (job.ran round.outcome round.clock) ∧
      tally id (nextState state round).store.trace =
        ⟨(tally id state.store.trace).entered + 1, (tally id state.store.trace).handled + 1,
          (tally id state.store.trace).retried⟩ := by
  unfold nextState
  rcases processNext_cases state plain_silent round with
    ⟨empty, idle⟩ | ⟨job, rest, listed, unhandled, refused⟩ | ⟨job, rest, listed, handled, executed⟩
  · rw [idle]
    refine .inl ⟨?_, rfl, rfl⟩
    rintro ⟨job, rest, listed, _⟩
    simp [empty] at listed
  · rw [refused]
    refine .inl ⟨?_, rfl, rfl⟩
    rintro ⟨other, later, again, _, handled, _⟩
    rw [listed] at again
    exact unhandled ((List.cons.inj again).1 ▸ handled)
  · obtain ⟨present, waiting, _⟩ := JobRepository.pendingRows_head listed
    have same : (job.begun round.clock).id = (job.ran round.outcome round.clock).id := by simp
    rw [executed]
    by_cases named : job.id = id
    · subst named
      refine .inr ⟨job, present, waiting, ⟨?_, ?_⟩, ?_, ?_⟩
      · rintro ⟨other, later, again, _, _, started⟩
        rw [listed] at again
        exact (List.cons.inj again).1 ▸ started
      · exact fun started => ⟨job, rest, listed, rfl, handled, started⟩
      · simp [JobStore.find?_executed _ _ _ same]
      · simp [tally_executed _ _ _ _ _ waiting present]
    · refine .inl ⟨?_, ?_, ?_⟩
      · rintro ⟨other, later, again, chosen, _⟩
        rw [listed] at again
        exact named ((List.cons.inj again).1 ▸ chosen)
      · simp [JobStore.find?_executed _ _ _ same, named]
      · simp [tally_executed _ _ _ _ _ waiting present, named]

theorem Fair.processNext (fair : Fair id limit state.store) (round : JobScheduler.Round)
    (clear : ¬ restartsAt id state round) : Fair id limit (nextState state round).store := by
  rcases nextState_cases id state round with
    ⟨_, row, counters⟩ | ⟨job, present, waiting, restart, row, counters⟩
  · exact fair.frame row counters
  · have unstarted : job.startedAt = none := by
      by_contra started
      exact clear (restart.mpr started)
    have settled : (job.ran round.outcome round.clock).status ≠ .pending := by
      rcases job.ran_status round.outcome round.clock with done | failed <;> simp [*]
    cases fair with
    | waiting old found status none unused bounded zero =>
        cases Option.some.inj (present.symm.trans found)
        exact .ran _ row settled (job.ran_startedAt _ _) (by simp [Job.ran_attempts, unstarted, unused])
          (by simpa using bounded) (by simp [counters, zero])
    | ran old found status =>
        cases Option.some.inj (present.symm.trans found)
        exact absurd waiting status
    | requeued old found status started =>
        cases Option.some.inj (present.symm.trans found)
        exact absurd unstarted started

/-- A restart counts an entry into RUNNING and no attempt. -/
theorem Fair.restart (fair : Fair id limit state.store) (round : JobScheduler.Round)
    (restarts : restartsAt id state round) : Overrun id (nextState state round).store := by
  rcases nextState_cases id state round with
    ⟨clear, _⟩ | ⟨job, present, waiting, restart, row, counters⟩
  · exact absurd restarts clear
  · have started := restart.mp restarts
    refine ⟨_, row, ?_⟩
    rw [counters, Job.ran_attempts, if_neg started]
    cases fair with
    | waiting old found status unstarted =>
        cases Option.some.inj (present.symm.trans found)
        exact absurd unstarted started
    | ran old found status =>
        cases Option.some.inj (present.symm.trans found)
        exact absurd waiting status
    | requeued old found status _ used allowed again =>
        cases Option.some.inj (present.symm.trans found)
        simp [used, again]

theorem Overrun.processNext (overrun : Overrun id state.store) (round : JobScheduler.Round) :
    Overrun id (nextState state round).store := by
  rcases nextState_cases id state round with
    ⟨_, row, counters⟩ | ⟨job, present, waiting, _, row, counters⟩
  · exact overrun.frame row counters
  · obtain ⟨old, found, less⟩ := overrun
    cases Option.some.inj (present.symm.trans found)
    refine ⟨_, row, ?_⟩
    rw [counters, Job.ran_attempts]
    split <;> push_cast <;> omega

/-- What `retry_job` does to one job: nothing, or a granted retry, which needs room
under the limit and moves only its own counter. -/
def RetryCounts (id : String) (now : Timestamp) (before after : JobStore) : Prop :=
  (after.table.find? id = before.table.find? id ∧ tally id after.trace = tally id before.trace) ∨
  ∃ job, before.table.find? id = some job ∧ job.status = .failed ∧
    job.attempts < job.maxRetries ∧ after.table.find? id = some (job.requeued now) ∧
    tally id after.trace = ⟨(tally id before.trace).entered, (tally id before.trace).handled,
      (tally id before.trace).retried + 1⟩

theorem retryJob_counts (id jobId : String) (state : SchedulerState) (clock : Clock) :
    ∃ next, (call (JobScheduler.retryJob jobId clock) (plain state)).2 = plain next ∧
      RetryCounts id (clock 0) state.store next.store := by
  rcases retryJob_cases state jobId clock with refused | ⟨job, found, failed, room, granted⟩
  · exact ⟨state, by rw [refused], .inl ⟨rfl, rfl⟩⟩
  · have same := Keyed.key_of_find? found
    refine ⟨_, by rw [granted], ?_⟩
    by_cases named : job.id = id
    · refine .inr ⟨job, by rw [← named, same]; exact found, failed, room, ?_, ?_⟩
      · simp [JobStore.find?_regranted, named]
      · simp [tally_regranted, named]
    · exact .inl ⟨by simp [JobStore.find?_regranted, named], by simp [tally_regranted, named]⟩

theorem Fair.retryJob {next : SchedulerState} {now : Timestamp} (fair : Fair id limit state.store)
    (counts : RetryCounts id now state.store next.store) : Fair id limit next.store := by
  rcases counts with ⟨row, counters⟩ | ⟨job, present, failed, room, row, counters⟩
  · exact fair.frame row counters
  · cases fair with
    | waiting old found status =>
        cases Option.some.inj (present.symm.trans found)
        simp [failed] at status
    | ran old found status started used bounded once =>
        cases Option.some.inj (present.symm.trans found)
        exact .requeued _ row rfl (by simpa using started) (by simpa using used)
          (by rw [← used, ← bounded]; exact room) (by simp [counters, once])
    | requeued old found status =>
        cases Option.some.inj (present.symm.trans found)
        simp [failed] at status

theorem Overrun.retryJob {next : SchedulerState} {now : Timestamp}
    (overrun : Overrun id state.store) (counts : RetryCounts id now state.store next.store) :
    Overrun id next.store := by
  rcases counts with ⟨row, counters⟩ | ⟨job, present, _, _, row, counters⟩
  · exact overrun.frame row counters
  · obtain ⟨old, found, less⟩ := overrun
    cases Option.some.inj (present.symm.trans found)
    exact ⟨_, row, by simpa [counters] using less⟩

/-- What a call does to the two predicates, by whether it restarts the job. -/
structure Judged (id : String) (limit : Int) (restarts : Prop) (before after : JobStore) : Prop where
  keeps : Fair id limit before → ¬ restarts → Fair id limit after
  spoils : Fair id limit before → restarts → Overrun id after
  stays : Overrun id before → Overrun id after

theorem processNext_judged (id : String) (limit : Int) (state : SchedulerState)
    (round : JobScheduler.Round) :
    Judged id limit (restartsAt id state round) state.store (nextState state round).store :=
  ⟨fun fair => fair.processNext round, fun fair => fair.restart round,
    fun overrun => overrun.processNext round⟩

theorem processAll_judged (id : String) (limit : Int) (rounds : List JobScheduler.Round)
    (state : SchedulerState) :
    ∃ next, (call (JobScheduler.processAll rounds) (plain state)).2 = plain next ∧
      Judged id limit (restartsIn id rounds state) state.store next.store := by
  induction rounds generalizing state with
  | nil => exact ⟨state, rfl, fun fair _ => fair, fun _ never => never.elim, fun overrun => overrun⟩
  | cons round rest ih =>
      have first := processNext_judged id limit state round
      rcases processAll_cases state round rest with ⟨done, same, last⟩ | ⟨job, made, later⟩
      · have stops : restartsIn id (round :: rest) state ↔ restartsAt id state round := by
          constructor
          · rintro (now | ⟨job, next, made, _⟩)
            · exact now
            · exact absurd made (last job next)
          · exact .inl
        rw [same] at first
        exact ⟨state, done, by rwa [stops]⟩
      · obtain ⟨next, ended, loop⟩ := ih (nextState state round)
        have goesOn : restartsIn id (round :: rest) state ↔
            restartsAt id state round ∨ restartsIn id rest (nextState state round) := by
          constructor
          · rintro (now | ⟨other, middle, again, restarts⟩)
            · exact .inl now
            · rw [made] at again
              cases congrArg (fun result => result.2.service) again
              exact .inr restarts
          · rintro (now | restarts)
            · exact .inl now
            · exact .inr ⟨job, _, made, restarts⟩
        refine ⟨next, later.trans ended, ?_, ?_, fun overrun => loop.stays (first.stays overrun)⟩
        · intro fair clear
          rw [goesOn, not_or] at clear
          exact loop.keeps (first.keeps fair clear.1) clear.2
        · intro fair restarts
          by_cases now : restartsAt id state round
          · exact loop.stays (first.spoils fair now)
          · exact loop.spoils (first.keeps fair now) ((goesOn.mp restarts).resolve_left now)

theorem works_judged (id : String) (limit : Int) (state : SchedulerState) (operation : Operation)
    (works : operation.works) :
    ∃ next, (schedulerStep (plain state) operation).2 = plain next ∧
      Judged id limit (operation.restarts id state) state.store next.store := by
  cases operation with
  | processNext round =>
      have judged := processNext_judged id limit state round
      refine ⟨nextState state round, ?_, judged⟩
      unfold nextState
      rcases processNext_cases state plain_silent round with
        ⟨_, done⟩ | ⟨_, _, _, _, done⟩ | ⟨_, _, _, _, done⟩ <;>
        simp [schedulerStep, Operation.program, done]
  | processAll rounds =>
      obtain ⟨next, done, judged⟩ := processAll_judged id limit rounds state
      exact ⟨next, by simp [schedulerStep, Operation.program, done], judged⟩
  | retryJob jobId clock =>
      obtain ⟨next, done, counts⟩ := retryJob_counts id jobId state clock
      refine ⟨next, by simp [schedulerStep, Operation.program, done], ?_, ?_, ?_⟩
      · exact fun fair _ => fair.retryJob counts
      · exact fun _ never => never.elim
      · exact fun overrun => overrun.retryJob counts
  | submit => exact works.elim
  | cancelJob => exact works.elim
  | getJob => exact works.elim
  | recoverPending => exact works.elim
  | register => exact works.elim
  | unregister => exact works.elim

/-- The store right after `submit` has returned. -/
def submitted (table : JobTable) (registered : List String) (workspaceId jobType : String)
    (payload : List (String × String)) (priority limit : Int) (id : String) (clock : Clock) :
    Wired Scheduling :=
  (schedulerStep (plain ⟨⟨table, []⟩, registered⟩)
    (.submit workspaceId jobType payload priority limit id clock)).2

theorem submitted_fair (table : JobTable) (registered : List String) (workspaceId jobType : String)
    (payload : List (String × String)) (priority limit : Int) (id : String) (clock : Clock)
    (owned : workspaceId ≠ "") (fresh : table.find? id = none) :
    ∃ state, submitted table registered workspaceId jobType payload priority limit id clock =
      plain state ∧ Fair id limit state.store := by
  rcases submit_cases ⟨⟨table, []⟩, registered⟩ workspaceId jobType payload priority limit id clock
    fresh with ⟨exc, unowned, _⟩ | ⟨job, made, stored⟩
  · exact absurd (Job.create_eq_error_iff.mp ⟨exc, unowned⟩) owned
  · obtain ⟨named, waiting, unused, bounded, unstarted, _⟩ := Job.create_ok made
    refine ⟨_, by simp [submitted, schedulerStep, Operation.program, stored]; rfl, ?_⟩
    refine .waiting job ?_ waiting unstarted unused bounded ?_
    · simp [JobStore.find?_admitted, named]
    · subst named
      simp [JobStore.admitted_trace, tally, Observation.entersRunning, waiting]

theorem run_overrun {calls : List Operation} (working : ∀ operation ∈ calls, operation.works)
    (overrun : Overrun id state.store) :
    Overrun id (run schedulerStep (plain state) calls).2.service.state.store := by
  induction calls generalizing state with
  | nil => exact overrun
  | cons operation rest ih =>
      obtain ⟨next, done, judged⟩ :=
        works_judged id 0 state operation (working _ List.mem_cons_self)
      rw [run_cons_state, done]
      exact ih (fun other later => working other (List.mem_cons_of_mem _ later))
        (judged.stays overrun)

/-- After a restart the counter is behind for good. -/
theorem clear_of_bounded {calls : List Operation} (fair : Fair id limit state.store)
    (working : ∀ operation ∈ calls, operation.works)
    (bounded : RetryBounded id limit (run schedulerStep (plain state) calls).2.service.state.store) :
    Along schedulerStep (fun wired operation => ¬ operation.restarts id wired.service.state)
      (plain state) calls := by
  induction calls generalizing state with
  | nil => trivial
  | cons operation rest ih =>
      obtain ⟨next, done, judged⟩ :=
        works_judged id limit state operation (working _ List.mem_cons_self)
      have later : ∀ other ∈ rest, other.works :=
        fun other inside => working other (List.mem_cons_of_mem _ inside)
      rw [run_cons_state, done] at bounded
      have clear : ¬ operation.restarts id state := fun restarts =>
        (run_overrun later (judged.spoils fair restarts)).unbounded bounded
      exact ⟨clear, by rw [done]; exact ih (judged.keeps fair clear) later bounded⟩

theorem bounded_of_clear {calls : List Operation} (fair : Fair id limit state.store)
    (natural : 0 ≤ limit) (working : ∀ operation ∈ calls, operation.works)
    (clear : Along schedulerStep (fun wired operation => ¬ operation.restarts id wired.service.state)
      (plain state) calls) (front : List Operation) (within : front <+: calls) :
    RetryBounded id limit (run schedulerStep (plain state) front).2.service.state.store := by
  induction front generalizing state calls with
  | nil => exact fair.bounded natural
  | cons operation rest ih =>
      obtain ⟨back, rfl⟩ := within
      obtain ⟨next, done, judged⟩ :=
        works_judged id limit state operation (working _ (by simp))
      obtain ⟨now, later⟩ := clear
      rw [run_cons_state, done]
      rw [done] at later
      exact ih (judged.keeps fair now)
        (fun other inside => working other (List.mem_cons_of_mem _ inside)) later
        (List.prefix_append rest back)

/-- The bound holds all along a run exactly when no `process_next` of the run runs
the job again after its first start. -/
theorem retry_bound_iff (table : JobTable) (registered : List String) (workspaceId jobType : String)
    (payload : List (String × String)) (priority limit : Int) (id : String) (clock : Clock)
    (owned : workspaceId ≠ "") (fresh : table.find? id = none) (natural : 0 ≤ limit)
    (calls : List Operation) (working : ∀ operation ∈ calls, operation.works) :
    (∀ front, front <+: calls → RetryBounded id limit (run schedulerStep
      (submitted table registered workspaceId jobType payload priority limit id clock)
      front).2.service.state.store) ↔
    Along schedulerStep (fun wired operation => ¬ operation.restarts id wired.service.state)
      (submitted table registered workspaceId jobType payload priority limit id clock) calls := by
  obtain ⟨state, start, fair⟩ :=
    submitted_fair table registered workspaceId jobType payload priority limit id clock owned fresh
  rw [start]
  exact ⟨fun bounded => clear_of_bounded fair working (bounded calls (List.prefix_refl calls)),
    fun clear front within => bounded_of_clear fair natural working clear front within⟩

/-- Where at most one attempt is allowed, a started job is never PENDING again. -/
theorem Fair.unrestarted (fair : Fair id limit state.store) (tight : limit ≤ 1)
    (round : JobScheduler.Round) : ¬ restartsAt id state round := by
  rcases nextState_cases id state round with ⟨clear, _⟩ | ⟨job, present, waiting, restart, _⟩
  · exact clear
  · rw [restart]
    cases fair with
    | waiting old found status unstarted =>
        cases Option.some.inj (present.symm.trans found)
        simp [unstarted]
    | ran old found status =>
        cases Option.some.inj (present.symm.trans found)
        exact absurd waiting status
    | requeued old found status started used allowed => omega

theorem Fair.unrestartedIn (tight : limit ≤ 1) (rounds : List JobScheduler.Round)
    (state : SchedulerState) (fair : Fair id limit state.store) : ¬ restartsIn id rounds state := by
  induction rounds generalizing state with
  | nil => exact fun never => never
  | cons round rest ih =>
      have clear := fair.unrestarted tight round
      rintro (now | ⟨job, next, made, later⟩)
      · exact clear now
      · have same : nextState state round = next := by rw [nextState, made]
        exact ih next (same ▸ fair.processNext round clear) later

/-- Where at most one attempt is allowed, the bound holds in every run. -/
theorem bounded_of_tight {calls : List Operation} (fair : Fair id limit state.store)
    (natural : 0 ≤ limit) (tight : limit ≤ 1) (working : ∀ operation ∈ calls, operation.works) :
    RetryBounded id limit (run schedulerStep (plain state) calls).2.service.state.store := by
  induction calls generalizing state with
  | nil => exact fair.bounded natural
  | cons operation rest ih =>
      obtain ⟨next, done, judged⟩ :=
        works_judged id limit state operation (working _ List.mem_cons_self)
      have clear : ¬ operation.restarts id state := by
        cases operation with
        | processNext round => exact fair.unrestarted tight round
        | processAll rounds => exact Fair.unrestartedIn tight rounds state fair
        | _ => exact fun never => never
      rw [run_cons_state, done]
      exact ih (judged.keeps fair clear)
        (fun other inside => working other (List.mem_cons_of_mem _ inside))

/-- A handler that fails each time: the third retry of a job that may have two. -/
def alwaysFailing : List Operation :=
  [.processNext ⟨.asStored, .error "boom", fun _ => 2⟩, .retryJob "j1" (fun _ => 3),
    .processNext ⟨.asStored, .error "boom", fun _ => 4⟩, .retryJob "j1" (fun _ => 5),
    .processNext ⟨.asStored, .error "boom", fun _ => 6⟩, .retryJob "j1" (fun _ => 7),
    .processAll [⟨.asStored, .error "boom", fun _ => 8⟩]]

theorem retry_bound_alwaysFailing :
    tally "j1" (run schedulerStep (submitted .empty ["index"] "w1" "index" [] 0 2 "j1" (fun _ => 1))
      alwaysFailing).2.service.state.store.trace = ⟨4, 4, 3⟩ ∧
    ¬ RetryBounded "j1" 2 (run schedulerStep
      (submitted .empty ["index"] "w1" "index" [] 0 2 "j1" (fun _ => 1))
      alwaysFailing).2.service.state.store := by
  have counted : tally "j1" (run schedulerStep
      (submitted .empty ["index"] "w1" "index" [] 0 2 "j1" (fun _ => 1))
      alwaysFailing).2.service.state.store.trace = ⟨4, 4, 3⟩ := by decide +kernel
  refine ⟨counted, ?_⟩
  rintro ⟨retried, _⟩
  rw [counted] at retried
  simp at retried

theorem retry_bound_iff_oneRound :
    (∀ front, front <+: [.processNext ⟨.asStored, .error "boom", fun _ => 2⟩] →
      RetryBounded "j1" 2 (run schedulerStep
        (submitted .empty ["index"] "w1" "index" [] 0 2 "j1" (fun _ => 1))
        front).2.service.state.store) ↔
    Along schedulerStep (fun wired operation => ¬ operation.restarts "j1" wired.service.state)
      (submitted .empty ["index"] "w1" "index" [] 0 2 "j1" (fun _ => 1))
      [.processNext ⟨.asStored, .error "boom", fun _ => 2⟩] :=
  retry_bound_iff .empty ["index"] "w1" "index" [] 0 2 "j1" (fun _ => 1) (by decide) rfl (by decide)
    _ (by simp [Operation.works])

end LexMind.Scheduler
