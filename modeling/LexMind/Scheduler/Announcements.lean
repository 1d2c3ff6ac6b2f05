import LexMind.Events.Transparency
import LexMind.Scheduler.SchedulerCalls

set_option autoImplicit false

/- Which calls of a scheduler come to an event, where its executor has the same bus. -/
namespace LexMind.Scheduler

open Lib Events

/-- The calls of the scheduler, and a job given to its executor directly. -/
inductive SchedulerCall
  | operation (made : Operation)
  | execute (job : Job) (outcome : HandlerOutcome) (clock : Clock)

def SchedulerCall.wiredProgram : SchedulerCall → SchedulerPy Answer
  | .operation made => made.program
  | .execute job outcome clock => (fun done => .job (some done)) <$>
      JobExecutor.execute job outcome clock

/-- A scheduler and an executor that were given one bus, or both none. -/
abbrev oneBus (state : SchedulerState) : Scheduling := ⟨state, .shared⟩

def withOneBus {α : Type} (program : SchedulerPy α) : Py (Wired SchedulerState) α :=
  onPart (fun wired => ⟨oneBus wired.service, wired.bus⟩)
    (fun _ wired => ⟨wired.service.state, wired.bus⟩) program

def SchedulerCall.program (made : SchedulerCall) : Py (Wired SchedulerState) Answer :=
  withOneBus made.wiredProgram

/-- The executor refuses the job. -/
def Refused (state : SchedulerState) (job : Job) : Prop :=
  job.jobType ∉ state.registered ∨ .running ∉ validTransitions job.status

/-- The call ends before it comes to an event. -/
def SchedulerCall.Quiet (state : SchedulerState) : SchedulerCall → Prop
  | .operation (.submit workspaceId ..) => workspaceId = ""
  | .operation (.processNext round) => Stuck state round
  | .operation (.processAll rounds) => ∀ round, rounds.head? = some round → Stuck state round
  | .operation (.cancelJob jobId _) => ∀ job, state.store.table.find? jobId = some job →
      .cancelled ∉ validTransitions job.status
  | .operation _ => True
  | .execute job .. => Refused state job

section OneBus

variable {α : Type} {program : SchedulerPy α} {state : SchedulerState}

theorem call_withOneBus (program : SchedulerPy α) (state : SchedulerState)
    (bus : Option EventBus) :
    call (withOneBus program) ⟨state, bus⟩ =
      ((call program ⟨oneBus state, bus⟩).1,
        ⟨(call program ⟨oneBus state, bus⟩).2.service.state,
          (call program ⟨oneBus state, bus⟩).2.bus⟩) := by
  rw [withOneBus, call_onPart]

theorem withOneBus_busFree (free : BusFree program (oneBus state)) :
    BusFree (withOneBus program) state := by
  obtain ⟨answer, after, same⟩ := free
  exact ⟨answer, after.state, fun bus => by rw [call_withOneBus, same]⟩

/-- Without their bus, no lookup of an attribute fails. -/
abbrev Muted (program : SchedulerPy α) : Prop := RaisesOnly Unheard Ordinary program

theorem withOneBus_heard (announces : Announces program (oneBus state))
    (muted : Muted program) : Heard (withOneBus program) state := by
  refine ⟨fun bus => ?_, ?_⟩
  · obtain ⟨className, attrName, raised⟩ := announces bus
    exact ⟨className, attrName, by rw [call_withOneBus, raised]⟩
  · rw [call_withOneBus]
    exact (muted ⟨oneBus state, none⟩ ⟨rfl, rfl⟩).1

theorem emit_muted (event : EventObject) : Muted (Events.emit event) := by
  rintro ⟨scheduling, bus⟩ ⟨rfl, shared⟩
  rw [emit_without_bus]
  exact ⟨nofun, rfl, shared⟩

theorem executorEmit_muted (event : EventObject) : Muted (JobExecutor.emit event) := by
  rintro ⟨⟨state, executorBus⟩, bus⟩ ⟨rfl, rfl⟩
  rw [JobExecutor.call_emit_shared]
  exact emit_muted event _ ⟨rfl, rfl⟩

end OneBus

section Parts

variable {α : Type} {scheduling : Scheduling}

theorem onRepo_busFree (program : Py JobStore α) : BusFree (onRepo program) scheduling :=
  ⟨_, _, fun _ => call_onRepo scheduling.state program⟩

theorem onRepo_muted {program : Py JobStore α} (tame : Tame program) : Muted (onRepo program) := by
  intro wired unheard
  rw [onRepo, call_onPart]
  exact ⟨(tame _ trivial).1, unheard⟩

theorem onHandlers_busFree (change : List String → List String) :
    BusFree (JobExecutor.onHandlers change) scheduling :=
  ⟨.ok (), { scheduling with state :=
    { scheduling.state with registered := change scheduling.state.registered } }, fun _ => rfl⟩

theorem onHandlers_muted (change : List String → List String) :
    Muted (JobExecutor.onHandlers change) := .modify fun _ unheard => unheard

theorem JobRepository.getById_tame (jobId : String) : Tame (getById jobId) :=
  RaisesOnly.get.bind fun _ => .pure _

theorem JobRepository.create_tame (job : Job) : Tame (create job) := by
  refine RaisesOnly.get.bind fun _ => .ite (.throw_bind trivial) ?_
  exact .bind (.modify fun _ _ => trivial) fun _ => .pure _

theorem JobRepository.update_tame (job : Job) : Tame (update job) := by
  refine RaisesOnly.get.bind fun store => ?_
  split
  · exact .throw trivial
  · exact .bind (.modify fun _ _ => trivial) fun _ => .pure _

theorem observe_muted (event : Observation) : Muted (observe event) :=
  onRepo_muted (.modify fun _ _ => trivial)

theorem enqueue_busFree (job : Job) : BusFree (JobQueue.enqueue job) scheduling := by
  unfold JobQueue.enqueue
  by_cases waiting : job.status = .pending
  · simp only [waiting, ne_eq, not_true_eq_false, ↓reduceIte]
    refine (onRepo_busFree _).bind fun found _ _ => ?_
    cases found with
    | none => exact onRepo_busFree _
    | some row => exact onRepo_busFree _
  · simp only [waiting, ne_eq, not_false_eq_true, ↓reduceIte]
    exact .raised _ fun _ => rfl

theorem enqueue_muted (job : Job) : Muted (JobQueue.enqueue job) := by
  refine .ite (.throw_bind trivial) ?_
  refine (onRepo_muted (JobRepository.getById_tame _)).bind fun found => ?_
  cases found with
  | none => exact onRepo_muted (JobRepository.create_tame job)
  | some row => exact onRepo_muted (JobRepository.update_tame job)

theorem persist_muted (job : Job) : Muted (JobExecutor.persist job) := by
  refine (onRepo_muted (JobRepository.getById_tame _)).bind fun found => ?_
  cases found with
  | none => exact (onRepo_muted (JobRepository.create_tame job)).bind fun _ => .pure _
  | some row => exact (onRepo_muted (JobRepository.update_tame job)).bind fun _ => .pure _

theorem Job.transitionTo_mild (job : Job) (target : JobStatus) (now : Timestamp) :
    Mild (job.transitionTo target now) := by
  unfold transitionTo
  split
  · exact .ok _
  · exact .error trivial

theorem Job.retry_mild (job : Job) (now : Timestamp) : Mild (job.retry now) := by
  unfold retry
  split
  · exact .ok _
  · exact .error trivial

theorem Job.create_mild (workspaceId jobType : String) (payload : List (String × String))
    (priority maxRetries : Int) (id : String) (createdAt updatedAt : Timestamp) :
    Mild (create workspaceId jobType payload priority maxRetries id createdAt updatedAt) := by
  unfold create
  split
  · exact .error trivial
  · exact .ok _

end Parts

section Executions

variable {scheduling : Scheduling} (job : Job) (outcome : HandlerOutcome) (clock : Clock)

theorem tryHandler_muted (running : Job) (now : Timestamp) :
    Muted (JobExecutor.tryHandler running outcome now) := by
  refine (observe_muted _).bind fun _ => ?_
  cases outcome with
  | error text => exact .pure _
  | ok result =>
      dsimp only
      split
      · exact .pure _
      · refine RaisesOnly.bind ?_ fun answer => ?_
        · intro wired unheard
          rw [call_attempt]
          exact ⟨nofun, (executorEmit_muted _ wired unheard).2⟩
        · cases answer with
          | error exc => exact .pure _
          | ok told => exact .pure _

theorem finish_muted (handled : Job) (raised : Option PyExc) (now : Timestamp) :
    Muted (JobExecutor.finish handled raised now) := by
  cases raised with
  | none => exact (persist_muted handled).bind fun _ => .pure _
  | some exc =>
      refine RaisesOnly.bind (.check (Job.transitionTo_mild _ _ _)) fun failed => ?_
      exact (executorEmit_muted _).bind fun _ => (persist_muted failed).bind fun _ => .pure _

theorem execute_muted : Muted (JobExecutor.execute job outcome clock) := by
  refine RaisesOnly.get.bind fun wired => .ite (.throw_bind trivial) ?_
  refine RaisesOnly.bind (.check (Job.transitionTo_mild _ _ _)) fun running => ?_
  refine (executorEmit_muted _).bind fun _ => (persist_muted running).bind fun _ => ?_
  exact (tryHandler_muted outcome running _).bind fun ended => finish_muted ended.1 ended.2 _

theorem execute_busFree (refused : Refused scheduling.state job) :
    BusFree (JobExecutor.execute job outcome clock) scheduling := by
  by_cases handled : job.jobType ∈ scheduling.state.registered
  · have invalid := refused.resolve_left (not_not.mpr handled)
    obtain ⟨exc, stays⟩ : ∃ exc, job.transitionTo .running (clock 0) = .error exc := by
      simp [Job.transitionTo, canTransition, invalid]
    refine .raised exc fun bus => ?_
    simp only [JobExecutor.execute, call_bind, call_get, andThen_ok, handled, not_true_eq_false,
      ↓reduceIte, call_check, stays, andThen_error]
  · refine .raised (.valueError ("No handler registered for job_type=" ++ pyRepr job.jobType))
      fun bus => ?_
    simp only [JobExecutor.execute, call_bind, call_get, andThen_ok, handled, not_false_eq_true,
      ↓reduceIte, call_throw, andThen_error]

theorem execute_announces {state : SchedulerState} (accepted : ¬ Refused state job) :
    Announces (JobExecutor.execute job outcome clock) (oneBus state) := by
  obtain ⟨handled, valid⟩ := not_or.mp accepted
  intro bus
  have start : job.transitionTo .running (clock 0) = .ok (job.begun clock) :=
    Job.transitionTo_of_valid (not_not.mp valid)
  refine ⟨"JobStarted", "name", ?_⟩
  simp only [JobExecutor.execute, call_bind, call_get, andThen_ok, not_not.mp handled,
    not_true_eq_false, ↓reduceIte, call_check, start,
    JobExecutor.call_emit_shared, emit_unnamed (jobStarted _) (domainEvent_unnamed _ _ _ rfl),
    andThen_error]
  rfl

end Executions

section Rounds

variable {state : SchedulerState} {round : JobScheduler.Round}

theorem call_isEmpty_listed (round : JobScheduler.Round) (bus : Option EventBus) :
    call JobQueue.isEmpty ⟨oneBus state, bus⟩ =
      (.ok (decide ((JobRepository.pendingRows round.scan state.store.table).length = 0)),
        ⟨oneBus state, bus⟩) := by
  rw [call_isEmpty, JobRepository.pendingRows_length]

theorem processNext_muted (round : JobScheduler.Round) :
    Muted (JobScheduler.processNext round) := by
  have reads : Muted (JobQueue.dequeue round.scan) :=
    (onRepo_muted (RaisesOnly.get.bind fun _ => .pure _)).bind fun _ => .pure _
  refine reads.bind fun found => ?_
  cases found with
  | none => exact .pure _
  | some job => exact (execute_muted job _ _).bind fun _ => .pure _

theorem processNext_busFree (stuck : Stuck state round) :
    BusFree (JobScheduler.processNext round) (oneBus state) := by
  unfold JobScheduler.processNext
  refine BusFree.bind ⟨_, _, fun _ => call_dequeue state round.scan⟩ fun found after dequeued => ?_
  rw [call_dequeue] at dequeued
  cases dequeued
  cases head : (JobRepository.pendingRows round.scan state.store.table).head? with
  | none => exact .returned _
  | some job =>
      have refused : Refused state job := .inl (stuck job head)
      exact (execute_busFree job _ _ refused).bind fun _ _ _ => .returned _

/-- A round that is not stuck starts its job, which is PENDING. -/
theorem processNext_announces (moves : ¬ Stuck state round) :
    Announces (JobScheduler.processNext round) (oneBus state) := by
  unfold Stuck at moves
  push Not at moves
  obtain ⟨job, head, handled⟩ := moves
  obtain ⟨rest, listed⟩ := List.head?_eq_some_iff.mp head
  have waiting := (JobRepository.pendingRows_head listed).2.1
  have accepted : ¬ Refused state job := by
    rintro (missing | invalid)
    · exact missing handled
    · exact invalid (by simp [waiting, validTransitions])
  refine .later (some job) (fun bus => by rw [call_dequeue, head]) ?_
  exact (execute_announces job _ _ accepted).bind

theorem processAll_muted (rounds : List JobScheduler.Round) :
    Muted (JobScheduler.processAll rounds) := by
  induction rounds with
  | nil => exact .pure _
  | cons round rest ih =>
      have counts : Muted JobQueue.isEmpty := by
        refine RaisesOnly.bind ?_ fun _ => .pure _
        exact onRepo_muted (RaisesOnly.get.bind fun _ => .pure _)
      refine counts.bind fun empty => .ite (.pure _) ?_
      exact (processNext_muted round).bind fun _ => ih.bind fun _ => .pure _

theorem processAll_busFree {rounds : List JobScheduler.Round}
    (stuck : ∀ round, rounds.head? = some round → Stuck state round) :
    BusFree (JobScheduler.processAll rounds) (oneBus state) := by
  cases rounds with
  | nil => exact .returned _
  | cons round rest =>
      have first := stuck round rfl
      unfold JobScheduler.processAll
      refine BusFree.bind ⟨_, _, call_isEmpty_listed round⟩ fun empty after counted => ?_
      rw [call_isEmpty_listed round] at counted
      cases counted
      cases listed : JobRepository.pendingRows round.scan state.store.table with
      | nil => exact .returned _
      | cons job later =>
          refine (processNext_busFree first).bind fun executed next returned => ?_
          rcases processNext_cases state plain_silent round with
            ⟨empty, _⟩ | ⟨_, _, _, _, refused⟩ | ⟨head, _, found, handled, _⟩
          · cases listed.symm.trans empty
          · cases returned.symm.trans refused
          · exact absurd handled (first head (by rw [found]; rfl))

theorem processAll_announces {rest : List JobScheduler.Round} (moves : ¬ Stuck state round) :
    Announces (JobScheduler.processAll (round :: rest)) (oneBus state) := by
  have busy : JobRepository.pendingRows round.scan state.store.table ≠ [] := by
    intro empty
    exact moves (fun job head => by cases (congrArg List.head? empty).symm.trans head)
  unfold JobScheduler.processAll
  refine .later false (fun bus => ?_) (processNext_announces moves).bind
  rw [call_isEmpty_listed round, decide_eq_false (mt List.length_eq_zero_iff.mp busy)]

end Rounds

section Calls

variable {state : SchedulerState} (jobId : String) (clock : Clock)

theorem retryJob_busFree {scheduling : Scheduling} :
    BusFree (JobScheduler.retryJob jobId clock) scheduling := by
  refine (onRepo_busFree _).bind fun found after _ => ?_
  cases found with
  | none => exact .returned _
  | some job =>
      dsimp only
      split
      · refine BusFree.bind ⟨_, _, fun bus => call_check _ _⟩ fun requeued _ _ => ?_
        refine (onRepo_busFree _).bind fun _ _ _ => (onRepo_busFree _).bind fun _ _ _ => ?_
        exact (enqueue_busFree requeued).bind fun _ _ _ => .returned _
      · exact .returned _

theorem retryJob_muted : Muted (JobScheduler.retryJob jobId clock) := by
  refine (onRepo_muted (JobRepository.getById_tame jobId)).bind fun found => ?_
  cases found with
  | none => exact .pure _
  | some job =>
      refine .ite ?_ (.pure _)
      refine RaisesOnly.bind (.check (Job.retry_mild job _)) fun requeued => ?_
      refine (onRepo_muted (JobRepository.update_tame requeued)).bind fun _ => ?_
      exact (observe_muted _).bind fun _ => (enqueue_muted requeued).bind fun _ => .pure _

theorem cancelJob_muted : Muted (JobScheduler.cancelJob jobId clock) := by
  refine (onRepo_muted (JobRepository.getById_tame jobId)).bind fun found => ?_
  cases found with
  | none => exact .pure _
  | some job =>
      refine .ite (.pure _) ?_
      split
      · exact .pure _
      · refine (onRepo_muted (JobRepository.update_tame _)).bind fun _ => ?_
        exact (emit_muted _).bind fun _ => .pure _

theorem cancelJob_busFree
    (kept : ∀ job, state.store.table.find? jobId = some job →
      .cancelled ∉ validTransitions job.status) :
    BusFree (JobScheduler.cancelJob jobId clock) (oneBus state) := by
  refine (onRepo_busFree _).bind fun found after looked => ?_
  simp only [call_onRepo, JobRepository.call_getById, withStore_self, Prod.mk.injEq,
    Except.ok.injEq, Wired.mk.injEq, and_true] at looked
  obtain ⟨rfl, rfl⟩ := looked
  cases found : state.store.table.find? jobId with
  | none => exact .returned _
  | some job =>
      have stays : ∃ exc, job.transitionTo .cancelled (clock 0) = .error exc := by
        simp [Job.transitionTo, canTransition, kept job found]
      obtain ⟨exc, stays⟩ := stays
      dsimp only
      rw [stays]
      split
      · exact .returned _
      · exact .returned _

theorem cancelJob_announces {job : Job} (found : state.store.table.find? jobId = some job)
    (valid : .cancelled ∈ validTransitions job.status) :
    Announces (JobScheduler.cancelJob jobId clock) (oneBus state) := by
  have unfinished : job.isTerminal = false := by
    cases status : job.status <;> simp_all [Job.isTerminal, validTransitions]
  have updated := JobRepository.call_update (job.moved .cancelled (clock 0)) job state.store
    (by rwa [Job.moved_id, Keyed.key_of_find? found])
  refine .later (some job) (fun bus => by rw [call_onRepo, JobRepository.call_getById,
    withStore_self, found]) ?_
  dsimp only
  rw [unfinished, if_neg Bool.false_ne_true, Job.transitionTo_of_valid valid]
  refine .later _ (fun bus => by rw [call_onRepo, updated]) ?_
  exact (Announces.emit (domainEvent_unnamed _ _ _ rfl)).bind

end Calls

section Submission

variable {state : SchedulerState} {workspaceId : String} (jobType : String)
  (payload : List (String × String)) (priority maxRetries : Int) (id : String) (clock : Clock)

theorem submit_muted (workspaceId : String) :
    Muted (JobScheduler.submit workspaceId jobType payload priority maxRetries id clock) := by
  refine RaisesOnly.bind (.check (Job.create_mild _ _ _ _ _ _ _ _)) fun job => ?_
  refine (enqueue_muted job).bind fun _ => (observe_muted _).bind fun _ => ?_
  exact (emit_muted _).bind fun _ => .pure _

theorem submit_busFree (unowned : workspaceId = "") :
    BusFree (JobScheduler.submit workspaceId jobType payload priority maxRetries id clock)
      (oneBus state) := by
  obtain ⟨exc, refused⟩ : ∃ exc, Job.create workspaceId jobType payload priority maxRetries id
      (clock 0) (clock 1) = .error exc := Job.create_eq_error_iff.mpr unowned
  refine .raised exc fun bus => ?_
  rw [JobScheduler.submit, call_bind, call_check, refused, andThen_error]

/-- The job is stored before its event is published. -/
theorem submit_announces (owned : workspaceId ≠ "") :
    Announces (JobScheduler.submit workspaceId jobType payload priority maxRetries id clock)
      (oneBus state) := by
  cases made : Job.create workspaceId jobType payload priority maxRetries id (clock 0) (clock 1) with
  | error exc => exact absurd (Job.create_eq_error_iff.mp ⟨exc, made⟩) owned
  | ok job =>
      have waiting := (Job.create_ok made).2.1
      refine .later job (fun bus => by rw [call_check, made]) ?_
      obtain ⟨row, queued⟩ : ∃ row, ∀ bus, call (JobQueue.enqueue job) ⟨oneBus state, bus⟩ =
          (.ok job, ⟨oneBus (withStore state (state.store.write row)), bus⟩) := by
        cases present : state.store.table.find? job.id with
        | none => exact ⟨job, fun bus => call_enqueue_fresh state job waiting present .shared bus⟩
        | some row =>
            exact ⟨JobRepository.overwrite row job,
              fun bus => call_enqueue_present state job row waiting present .shared bus⟩
      refine .later _ queued (.later _ (fun _ => call_observe _ _) ?_)
      exact (Announces.emit (domainEvent_unnamed _ _ _ rfl)).bind

end Submission

section Classification

variable {state : SchedulerState} {made : SchedulerCall}

theorem SchedulerCall.muted (made : SchedulerCall) : Muted made.wiredProgram := by
  cases made with
  | execute job outcome clock => exact (execute_muted job outcome clock).map _
  | operation made =>
      cases made with
      | submit workspaceId jobType payload priority maxRetries id clock =>
          exact (submit_muted jobType payload priority maxRetries id clock workspaceId).map _
      | processNext round => exact (processNext_muted round).map _
      | processAll rounds => exact (processAll_muted rounds).map _
      | retryJob jobId clock => exact (retryJob_muted jobId clock).map _
      | cancelJob jobId clock => exact (cancelJob_muted jobId clock).map _
      | getJob jobId => exact (onRepo_muted (JobRepository.getById_tame jobId)).map _
      | recoverPending scan => exact (onRepo_muted (RaisesOnly.get.bind fun _ => .pure _)).map _
      | register jobType => exact (onHandlers_muted _).map _
      | unregister jobType => exact (onHandlers_muted _).map _

theorem SchedulerCall.busFree (quiet : made.Quiet state) :
    BusFree made.wiredProgram (oneBus state) := by
  cases made with
  | execute job outcome clock =>
      have free : BusFree (JobExecutor.execute job outcome clock) (oneBus state) :=
        execute_busFree job outcome clock quiet
      exact free.map _
  | operation made =>
      cases made with
      | submit workspaceId jobType payload priority maxRetries id clock =>
          exact (submit_busFree jobType payload priority maxRetries id clock quiet).map _
      | processNext round => exact (processNext_busFree quiet).map _
      | processAll rounds => exact (processAll_busFree quiet).map _
      | retryJob jobId clock => exact (retryJob_busFree jobId clock).map _
      | cancelJob jobId clock => exact (cancelJob_busFree jobId clock quiet).map _
      | getJob jobId => exact (onRepo_busFree _).map _
      | recoverPending scan => exact (onRepo_busFree _).map _
      | register jobType => exact (onHandlers_busFree _).map _
      | unregister jobType => exact (onHandlers_busFree _).map _

theorem SchedulerCall.announces (heard : ¬ made.Quiet state) :
    Announces made.wiredProgram (oneBus state) := by
  cases made with
  | execute job outcome clock => exact (execute_announces job outcome clock heard).map _
  | operation made =>
      cases made with
      | submit workspaceId jobType payload priority maxRetries id clock =>
          exact (submit_announces jobType payload priority maxRetries id clock heard).map _
      | processNext round => exact (processNext_announces heard).map _
      | processAll rounds =>
          unfold Quiet at heard
          push Not at heard
          obtain ⟨round, first, moves⟩ := heard
          obtain ⟨rest, rfl⟩ := List.head?_eq_some_iff.mp first
          exact (processAll_announces moves).map _
      | cancelJob jobId clock =>
          unfold Quiet at heard
          push Not at heard
          obtain ⟨job, found, valid⟩ := heard
          exact (cancelJob_announces jobId clock found valid).map _
      | retryJob jobId clock => exact absurd trivial heard
      | getJob jobId => exact absurd trivial heard
      | recoverPending scan => exact absurd trivial heard
      | register jobType => exact absurd trivial heard
      | unregister jobType => exact absurd trivial heard

theorem SchedulerCall.transparent_iff {β : Type} (bus : EventBus) (state : SchedulerState)
    (uses : List (Use SchedulerState SchedulerCall β)) :
    Transparent SchedulerCall.program bus state uses ↔
      QuietRun SchedulerCall.program SchedulerCall.Quiet state uses := by
  refine Events.transparent_iff ?_ ?_ bus state uses
  · exact fun state made quiet => withOneBus_busFree (busFree quiet)
  · exact fun state made unquiet => withOneBus_heard (announces unquiet) made.muted

end Classification

end LexMind.Scheduler
