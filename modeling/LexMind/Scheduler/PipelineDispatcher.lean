import LexMind.Scheduler.JobScheduler
import LexMind.Lib.Run

set_option autoImplicit false

/- Pipelines dispatched as jobs, and where every job of a run comes from. The dispatcher is given its
scheduler and nothing else, no bus of its own. -/
namespace LexMind.Scheduler

open Lib Events

namespace PipelineDispatcher

/-- The dictionary of the two ids. -/
def ids (pipelineId documentId : String) : Keyed (Prod.fst : String × String → String) where
  rows := [("pipeline_id", pipelineId), ("document_id", documentId)]
  distinct := by simp

/-- `{"pipeline_id": ..., "document_id": ..., **payload}`: a key of the payload wins. -/
def jobPayload (pipelineId documentId : String) (payload : List (String × String)) :
    List (String × String) := ((ids pipelineId documentId).putAll payload).rows

/-- The scheduler's own default is three retries. -/
def dispatch (workspaceId pipelineId documentId : String) (payload : List (String × String))
    (priority : Int) (id : String) (clock : Clock) : SchedulerPy Job :=
  JobScheduler.submit workspaceId "pipeline" (jobPayload pipelineId documentId payload) priority 3
    id clock

def processNextPipeline (round : JobScheduler.Round) : SchedulerPy (Option Job) :=
  JobScheduler.processNext round

def processAllPipelines (rounds : List JobScheduler.Round) : SchedulerPy (List Job) :=
  JobScheduler.processAll rounds

end PipelineDispatcher

/-- The calls on one scheduler: those of its dispatcher, and its own. -/
inductive DispatcherCall
  | dispatch (workspaceId pipelineId documentId : String) (payload : List (String × String))
      (priority : Int) (id : String) (clock : Clock)
  | processNextPipeline (round : JobScheduler.Round)
  | processAllPipelines (rounds : List JobScheduler.Round)
  | scheduler (operation : Operation)

def DispatcherCall.program : DispatcherCall → SchedulerPy Answer
  | .dispatch workspaceId pipelineId documentId payload priority id clock =>
      (fun job => .job (some job)) <$>
        PipelineDispatcher.dispatch workspaceId pipelineId documentId payload priority id clock
  | .processNextPipeline round => .job <$> PipelineDispatcher.processNextPipeline round
  | .processAllPipelines rounds => .jobs <$> PipelineDispatcher.processAllPipelines rounds
  | .scheduler operation => operation.program

def dispatcherStep (wired : Wired Scheduling) (dispatcherCall : DispatcherCall) :
    Except PyExc Answer × Wired Scheduling := call dispatcherCall.program wired

/-- What a submission fixes of its job. -/
structure Origin where
  workspaceId : String
  jobType : String
  payload : List (String × String)
  maxRetries : Int
  priority : Int
  createdAt : Timestamp
deriving DecidableEq, Repr

def Job.origin (job : Job) : Origin where
  workspaceId := job.workspaceId
  jobType := job.jobType
  payload := job.payload
  maxRetries := job.maxRetries
  priority := job.priority
  createdAt := job.createdAt

/-- The job a call submits, by its id. -/
def DispatcherCall.submission : DispatcherCall → Option (String × Origin)
  | .dispatch workspaceId pipelineId documentId payload priority id clock =>
      some (id, ⟨workspaceId, "pipeline", PipelineDispatcher.jobPayload pipelineId documentId payload,
        3, priority, clock 0⟩)
  | .scheduler (.submit workspaceId jobType payload priority maxRetries id clock) =>
      some (id, ⟨workspaceId, jobType, payload, maxRetries, priority, clock 0⟩)
  | _ => none

/-- The jobs an answer holds. -/
def Answer.all : Answer → List Job
  | .unit => []
  | .job found => found.toList
  | .jobs all => all

section Origins

variable {origins : String → Option Origin}

/-- The job is as it was submitted under its id. -/
def Known (origins : String → Option Origin) (job : Job) : Prop :=
  origins job.id = some job.origin

def Follows (origins : String → Option Origin) (store : JobStore) : Prop :=
  ∀ row ∈ store.table.rows, Known origins row

def FollowsWired (origins : String → Option Origin) (wired : Wired Scheduling) : Prop :=
  Follows origins wired.service.state.store

/-- The fields a job's life changes are not those of its origin. -/
theorem Known.of_same {job next : Job} (known : Known origins job) (id : next.id = job.id)
    (origin : next.origin = job.origin) : Known origins next := by
  rw [Known, id, origin]
  exact known

theorem Job.moved_origin (job : Job) (target : JobStatus) (now : Timestamp) :
    (job.moved target now).origin = job.origin := by
  unfold moved markStarted markCompleted
  split <;> split <;> rfl

theorem Known.moved {job next : Job} {target : JobStatus} {now : Timestamp}
    (known : Known origins job) (moved : job.transitionTo target now = .ok next) :
    Known origins next := by
  obtain ⟨-, rfl⟩ := Job.transitionTo_ok moved
  exact known.of_same (Job.moved_id _ _ _) (Job.moved_origin _ _ _)

end Origins

section Repository

variable {origins : String → Option Origin} {job : Job}

theorem Follows.write {store : JobStore} (follows : Follows origins store)
    (known : Known origins job) : Follows origins (store.write job) := by
  intro row inside
  rcases (Keyed.mem_put _ _ _).mp inside with rfl | ⟨old, _⟩
  · exact known
  · exact follows row old

theorem write_ensures (known : Known origins job) :
    Ensures (Follows origins) (fun _ => True)
      (modify (fun store => store.write job) : Py JobStore Unit) :=
  .modify trivial fun _ follows => follows.write known

theorem getById_ensures (id : String) :
    Ensures (Follows origins) (fun found => ∀ job ∈ found, Known origins job)
      (JobRepository.getById id) := by
  refine Ensures.get.bind fun store follows => .pure fun job found => ?_
  exact follows job (Keyed.mem_of_find? found)

theorem create_ensures (known : Known origins job) :
    Ensures (Follows origins) (Known origins) (JobRepository.create job) := by
  refine Ensures.get.bind fun store _ => .ite (.throw_bind _) ?_
  exact (write_ensures known).bind fun _ _ => .pure known

theorem update_ensures (known : Known origins job) :
    Ensures (Follows origins) (Known origins) (JobRepository.update job) := by
  refine Ensures.get.bind fun store follows => ?_
  split
  · exact .throw _
  · rename_i row found
    have stored : Known origins row := follows row (Keyed.mem_of_find? found)
    have same : row.origin = job.origin := by
      have named := Keyed.key_of_find? found
      rw [Known, named, known] at stored
      exact (Option.some.inj stored).symm
    have written : Known origins (JobRepository.overwrite row job) := by
      refine stored.of_same rfl ?_
      rw [Job.origin, Job.origin, Origin.mk.injEq] at same
      obtain ⟨-, -, payload, maxRetries, priority, -⟩ := same
      rw [Job.origin, Job.origin, Origin.mk.injEq]
      exact ⟨rfl, rfl, payload.symm, maxRetries.symm, priority.symm, rfl⟩
    exact (write_ensures written).bind fun _ _ => .pure known

theorem listPending_ensures (scan : Arrangement Job) :
    Ensures (Follows origins) (fun jobs => ∀ job ∈ jobs, Known origins job)
      (JobRepository.listPending scan) := by
  refine Ensures.get.bind fun store follows => .pure fun job inside => ?_
  exact follows job ((JobRepository.mem_pendingRows _ _ _).mp inside).1

end Repository

section Calls

variable {origins : String → Option Origin} {job : Job}

theorem onRepo_ensures {α : Type} {expected : α → Prop} {program : Py JobStore α}
    (ensures : Ensures (Follows origins) expected program) :
    Ensures (FollowsWired origins) expected (onRepo program) :=
  ensures.onPart (fun _ follows => follows) (fun _ _ _ follows => follows)

theorem observe_ensures (event : Observation) :
    Ensures (FollowsWired origins) (fun _ => True) (observe event) :=
  onRepo_ensures (.modify trivial fun _ follows => follows)

/-- Whatever the subscribers of an event do, they do not reach the jobs. -/
theorem emit_ensures (event : EventObject) :
    Ensures (FollowsWired origins) (fun _ => True) (Events.emit event : SchedulerPy Unit) := by
  rintro ⟨scheduling, bus⟩ follows
  cases bus with
  | none =>
      rw [emit_without_bus]
      exact ⟨fun _ _ => trivial, follows⟩
  | some bus =>
      rw [emit_with_bus]
      exact ⟨fun _ _ => trivial, follows⟩

/-- Nor do those of the executor's own bus. -/
theorem executorEmit_ensures (event : EventObject) :
    Ensures (FollowsWired origins) (fun _ => True) (JobExecutor.emit event) := by
  refine Ensures.get.bind fun wired follows => ?_
  split
  · exact emit_ensures event
  · exact .pure trivial
  · rename_i bus own
    refine Ensures.bind (show Ensures (FollowsWired origins) (fun _ => True) _ from ?_)
      fun _ _ => .pure trivial
    intro wired follows
    rw [call_onPart]
    exact ⟨fun _ _ => trivial, follows⟩

theorem enqueue_ensures (known : Known origins job) :
    Ensures (FollowsWired origins) (Known origins) (JobQueue.enqueue job) := by
  refine .ite (.throw_bind _) ?_
  refine (onRepo_ensures (getById_ensures _)).bind fun found _ => ?_
  cases found with
  | some row => exact onRepo_ensures (update_ensures known)
  | none => exact onRepo_ensures (create_ensures known)

theorem persist_ensures (known : Known origins job) :
    Ensures (FollowsWired origins) (fun _ => True) (JobExecutor.persist job) := by
  refine (onRepo_ensures (getById_ensures _)).bind fun found _ => ?_
  cases found with
  | some row =>
      exact (onRepo_ensures (update_ensures known)).bind fun _ _ => .pure trivial
  | none => exact (onRepo_ensures (create_ensures known)).bind fun _ _ => .pure trivial

theorem tryHandler_ensures (known : Known origins job) (outcome : HandlerOutcome)
    (now : Timestamp) :
    Ensures (FollowsWired origins) (fun ended => Known origins ended.1)
      (JobExecutor.tryHandler job outcome now) := by
  refine (observe_ensures _).bind fun _ _ => ?_
  cases outcome with
  | error text => exact .pure known
  | ok result =>
      have resulted : Known origins { job with result := result } := known
      cases moved : Job.transitionTo { job with result := result } .completed now with
      | error exc =>
          dsimp only
          rw [moved]
          exact .pure resulted
      | ok done =>
          have completed := resulted.moved moved
          dsimp only
          rw [moved]
          refine (executorEmit_ensures _).attempt.bind fun told _ => ?_
          cases told with
          | ok _ => exact .pure completed
          | error exc => exact .pure completed

theorem finish_ensures (known : Known origins job) (raised : Option PyExc) (now : Timestamp) :
    Ensures (FollowsWired origins) (Known origins) (JobExecutor.finish job raised now) := by
  cases raised with
  | none => exact (persist_ensures known).bind fun _ _ => .pure known
  | some exc =>
      have told : Known origins { job with errorMessage := exc.text } := known
      refine (Ensures.check fun failed moved => told.moved moved).bind fun failed known => ?_
      refine (executorEmit_ensures _).bind fun _ _ => ?_
      exact (persist_ensures known).bind fun _ _ => .pure known

/-- The job that comes back is the one that was given, as far as its origin goes. -/
theorem execute_ensures (known : Known origins job) (outcome : HandlerOutcome) (clock : Clock) :
    Ensures (FollowsWired origins) (Known origins) (JobExecutor.execute job outcome clock) := by
  refine Ensures.get.bind fun wired _ => .ite (.throw_bind _) ?_
  refine (Ensures.check fun running moved => known.moved moved).bind fun running started => ?_
  refine (executorEmit_ensures _).bind fun _ _ => (persist_ensures started).bind fun _ _ => ?_
  exact (tryHandler_ensures started outcome _).bind fun ended known => finish_ensures known _ _

theorem submit_ensures {workspaceId jobType : String} {payload : List (String × String)}
    {priority maxRetries : Int} {id : String} {clock : Clock}
    (submitted : origins id =
      some ⟨workspaceId, jobType, payload, maxRetries, priority, clock 0⟩) :
    Ensures (FollowsWired origins) (Known origins)
      (JobScheduler.submit workspaceId jobType payload priority maxRetries id clock) := by
  have created : ∀ job, Job.create workspaceId jobType payload priority maxRetries id (clock 0)
      (clock 1) = .ok job → Known origins job := by
    intro job made
    unfold Job.create at made
    split at made
    · cases made
    · cases made
      exact submitted
  refine (Ensures.check created).bind fun job known => ?_
  refine (enqueue_ensures known).bind fun _ _ => (observe_ensures _).bind fun _ _ => ?_
  exact (emit_ensures _).bind fun _ _ => .pure known

theorem processNext_ensures (round : JobScheduler.Round) :
    Ensures (FollowsWired origins) (fun found => ∀ job ∈ found, Known origins job)
      (JobScheduler.processNext round) := by
  have dequeued : Ensures (FollowsWired origins) (fun found => ∀ job ∈ found, Known origins job)
      (JobQueue.dequeue round.scan) := by
    refine (onRepo_ensures (listPending_ensures _)).bind fun jobs all => .pure fun job found => ?_
    exact all job (List.mem_of_mem_head? found)
  refine dequeued.bind fun found known => ?_
  cases found with
  | none => exact .pure nofun
  | some job =>
      refine (execute_ensures (known job rfl) _ _).bind fun done known => .pure ?_
      rintro job ⟨⟩
      exact known

theorem processAll_ensures (rounds : List JobScheduler.Round) :
    Ensures (FollowsWired origins) (fun jobs => ∀ job ∈ jobs, Known origins job)
      (JobScheduler.processAll rounds) := by
  induction rounds with
  | nil => exact .pure nofun
  | cons round rest ih =>
      have counted : Ensures (FollowsWired origins) (fun _ => True) JobQueue.isEmpty := by
        have read : Ensures (Follows origins) (fun _ => True) JobRepository.countPending :=
          Ensures.get.bind fun _ _ => .pure trivial
        exact (onRepo_ensures read).bind fun _ _ => .pure trivial
      refine counted.bind fun idle _ => ?_
      cases idle with
      | true => exact .pure nofun
      | false =>
          refine (processNext_ensures round).bind fun executed known => ?_
          refine ih.bind fun later all => .pure fun job inside => ?_
          rcases List.mem_append.mp inside with first | rest
          · exact known job (Option.mem_toList.mp first)
          · exact all job rest

theorem retryJob_ensures (jobId : String) (clock : Clock) :
    Ensures (FollowsWired origins) (fun found => ∀ job ∈ found, Known origins job)
      (JobScheduler.retryJob jobId clock) := by
  refine (onRepo_ensures (getById_ensures _)).bind fun found known => ?_
  cases found with
  | none => exact .pure nofun
  | some job =>
      refine .ite ?_ (.pure nofun)
      have requeued : ∀ next, job.retry (clock 0) = .ok next → Known origins next := by
        intro next granted
        unfold Job.retry at granted
        split at granted
        · cases granted
          exact (known job rfl).of_same rfl rfl
        · cases granted
      refine (Ensures.check requeued).bind fun next known => ?_
      refine (onRepo_ensures (update_ensures known)).bind fun _ _ => ?_
      refine (observe_ensures _).bind fun _ _ => (enqueue_ensures known).bind fun _ _ => .pure ?_
      rintro job ⟨⟩
      exact known

theorem cancelJob_ensures (jobId : String) (clock : Clock) :
    Ensures (FollowsWired origins) (fun found => ∀ job ∈ found, Known origins job)
      (JobScheduler.cancelJob jobId clock) := by
  refine (onRepo_ensures (getById_ensures _)).bind fun found known => ?_
  cases found with
  | none => exact .pure nofun
  | some job =>
      dsimp only
      refine .ite (.pure nofun) ?_
      cases moved : job.transitionTo .cancelled (clock 0) with
      | error exc => exact .pure nofun
      | ok cancelled =>
          have known := (known job rfl).moved moved
          refine (onRepo_ensures (update_ensures known)).bind fun _ _ => ?_
          refine (emit_ensures _).bind fun _ _ => .pure ?_
          rintro job ⟨⟩
          exact known

/-- The one call that brings a job in is a submission, known beforehand. -/
theorem dispatcherCall_ensures (dispatcherCall : DispatcherCall)
    (submitted : ∀ id origin, dispatcherCall.submission = some (id, origin) →
      origins id = some origin) :
    Ensures (FollowsWired origins) (fun answer => ∀ job ∈ answer.all, Known origins job)
      dispatcherCall.program := by
  have one : ∀ found : Option Job, (∀ job ∈ found, Known origins job) →
      ∀ job ∈ (Answer.job found).all, Known origins job :=
    fun found known job inside => known job (Option.mem_toList.mp inside)
  have new : ∀ job : Job, Known origins job →
      ∀ other ∈ (Answer.job (some job)).all, Known origins other :=
    fun job known other inside => List.mem_singleton.mp inside ▸ known
  cases dispatcherCall with
  | dispatch workspaceId pipelineId documentId payload priority id clock =>
      exact ((submit_ensures (submitted _ _ rfl)).mono new).map
  | processNextPipeline round => exact ((processNext_ensures round).mono one).map
  | processAllPipelines rounds => exact (processAll_ensures rounds).map
  | scheduler operation =>
      cases operation with
      | submit workspaceId jobType payload priority maxRetries id clock =>
          exact ((submit_ensures (submitted _ _ rfl)).mono new).map
      | processNext round => exact ((processNext_ensures round).mono one).map
      | processAll rounds => exact (processAll_ensures rounds).map
      | retryJob jobId clock => exact ((retryJob_ensures jobId clock).mono one).map
      | cancelJob jobId clock => exact ((cancelJob_ensures jobId clock).mono one).map
      | getJob jobId => exact ((onRepo_ensures (getById_ensures jobId)).mono one).map
      | recoverPending scan => exact (onRepo_ensures (listPending_ensures scan)).map
      | register jobType => exact Ensures.map (.modify nofun fun _ follows => follows)
      | unregister jobType => exact Ensures.map (.modify nofun fun _ follows => follows)

/-- A run in which every submission is known beforehand. -/
theorem run_follows {wired : Wired Scheduling} {calls : List DispatcherCall}
    (follows : FollowsWired origins wired)
    (submitted : ∀ entry ∈ calls.filterMap DispatcherCall.submission,
      origins entry.1 = some entry.2) :
    FollowsWired origins (run dispatcherStep wired calls).2 ∧
      ∀ answer, .ok answer ∈ (run dispatcherStep wired calls).1 →
        ∀ job ∈ answer.all, Known origins job := by
  induction calls generalizing wired with
  | nil => exact ⟨follows, nofun⟩
  | cons dispatcherCall rest ih =>
      have first : ∀ id origin, dispatcherCall.submission = some (id, origin) →
          origins id = some origin := fun id origin submission =>
        submitted (id, origin) (List.mem_filterMap.mpr ⟨_, List.mem_cons_self, submission⟩)
      have others : ∀ entry ∈ rest.filterMap DispatcherCall.submission,
          origins entry.1 = some entry.2 := by
        intro entry inside
        obtain ⟨other, member, submission⟩ := List.mem_filterMap.mp inside
        exact submitted entry (List.mem_filterMap.mpr ⟨other, List.mem_cons_of_mem _ member,
          submission⟩)
      obtain ⟨answered, kept⟩ := dispatcherCall_ensures dispatcherCall first wired follows
      obtain ⟨last, answers⟩ := ih kept others
      refine ⟨last, fun answer inside => ?_⟩
      rcases List.mem_cons.mp inside with same | later
      · exact answered answer same.symm
      · exact answers answer later

end Calls

section Payloads

variable {pipelineId documentId : String} {payload : List (String × String)}

/-- Without the key in the payload, the dispatcher's own value is there. -/
theorem jobPayload_own {key value : String}
    (own : (key, value) ∈ (PipelineDispatcher.ids pipelineId documentId).rows)
    (absent : ∀ entry ∈ payload, entry.1 ≠ key) :
    (key, value) ∈ PipelineDispatcher.jobPayload pipelineId documentId payload := by
  have stays : ∀ (entries : List (String × String)) (table : Keyed Prod.fst),
      (∀ entry ∈ entries, entry.1 ≠ key) → (key, value) ∈ table.rows →
        (key, value) ∈ (table.putAll entries).rows := by
    intro entries
    induction entries with
    | nil => exact fun _ _ inside => inside
    | cons entry rest ih =>
        intro table absent inside
        obtain ⟨differs, others⟩ := List.forall_mem_cons.mp absent
        exact ih (table.put entry) others
          ((Keyed.mem_put _ _ _).mpr (.inr ⟨inside, Ne.symm differs⟩))
  exact stays payload _ absent own

end Payloads

/-- The job is one of the table, or one that a call submits, in all that its submission fixes. -/
def Sourced (table : JobTable) (calls : List DispatcherCall) (job : Job) : Prop :=
  (∃ row ∈ table.rows, row.id = job.id ∧ row.origin = job.origin) ∨
    (job.id, job.origin) ∈ calls.filterMap DispatcherCall.submission

/-- In a run with new ids, with whatever buses, every job stored or answered is as it was
submitted: no call makes up a job or changes what its handler is given. The job of a dispatched
pipeline names that pipeline and document, where the extra payload has no such keys. -/
theorem jobs_as_submitted (wired : Wired Scheduling) (calls : List DispatcherCall)
    (distinct : ((calls.filterMap DispatcherCall.submission).map Prod.fst).Nodup)
    (fresh : ∀ entry ∈ calls.filterMap DispatcherCall.submission,
      wired.service.state.store.table.contains entry.1 = false) :
    let last := (run dispatcherStep wired calls).2.service.state.store.table
    (∀ row ∈ last.rows, Sourced wired.service.state.store.table calls row) ∧
    (∀ answer, .ok answer ∈ (run dispatcherStep wired calls).1 →
      ∀ job ∈ answer.all, Sourced wired.service.state.store.table calls job) ∧
    ∀ workspaceId pipelineId documentId payload priority id clock,
      .dispatch workspaceId pipelineId documentId payload priority id clock ∈ calls →
      (∀ entry ∈ payload, entry.1 ≠ "pipeline_id" ∧ entry.1 ≠ "document_id") →
      ∀ row ∈ last.rows, row.id = id →
        ("pipeline_id", pipelineId) ∈ row.payload ∧ ("document_id", documentId) ∈ row.payload := by
  intro last
  let table := wired.service.state.store.table
  let submissions : Keyed (Prod.fst : String × Origin → String) := ⟨_, distinct⟩
  let origins : String → Option Origin := fun id =>
    ((table.find? id).map Job.origin).or ((submissions.find? id).map Prod.snd)
  have sourced : ∀ job, Known origins job → Sourced table calls job := by
    intro job known
    rcases Option.or_eq_some_iff.mp known with old | ⟨-, new⟩
    · obtain ⟨row, found, same⟩ := Option.map_eq_some_iff.mp old
      exact .inl ⟨row, Keyed.mem_of_find? found, Keyed.key_of_find? found, same⟩
    · obtain ⟨entry, found, same⟩ := Option.map_eq_some_iff.mp new
      have named := Keyed.key_of_find? found
      exact .inr (by rw [← named, ← same]; exact Keyed.mem_of_find? found)
  have follows : FollowsWired origins wired := by
    intro row inside
    have found : table.find? row.id = some row := table.find?_of_mem inside
    change ((table.find? row.id).map Job.origin).or _ = _
    rw [found]
    rfl
  have submitted : ∀ entry ∈ calls.filterMap DispatcherCall.submission,
      origins entry.1 = some entry.2 := by
    intro entry inside
    have gone : table.find? entry.1 = none := by
      have absent := fresh entry inside
      rwa [Keyed.contains, Option.isSome_eq_false_iff, Option.isNone_iff_eq_none] at absent
    have found : submissions.find? entry.1 = some entry := submissions.find?_of_mem inside
    change ((table.find? entry.1).map Job.origin).or ((submissions.find? entry.1).map Prod.snd) = _
    rw [gone, found]
    rfl
  obtain ⟨kept, answers⟩ := run_follows follows submitted
  refine ⟨fun row inside => sourced row (kept row inside),
    fun answer inside job named => sourced job (answers answer inside job named), ?_⟩
  intro workspaceId pipelineId documentId payload priority id clock made own row inside same
  have submission := submitted _ (List.mem_filterMap.mpr ⟨_, made, rfl⟩)
  have known : origins row.id = some row.origin := kept row inside
  rw [same, submission] at known
  have payloads := congrArg Origin.payload (Option.some.inj known)
  rw [show row.payload = PipelineDispatcher.jobPayload pipelineId documentId payload from
    payloads.symm]
  exact ⟨jobPayload_own List.mem_cons_self fun entry named => (own entry named).1,
    jobPayload_own (List.mem_cons_of_mem _ List.mem_cons_self) fun entry named =>
      (own entry named).2⟩

/-- A pipeline dispatched in a language, run to its failure and retried. -/
def oneDispatch : List DispatcherCall :=
  [.dispatch "w1" "ocr" "d1" [("language", "es")] 0 "j1" (fun _ => 7),
    .processNextPipeline ⟨.asStored, .error "boom", fun _ => 8⟩,
    .scheduler (.retryJob "j1" (fun _ => 9))]

/-- A scheduler with an event bus, over an executor that was given none. -/
def mixedWiring : Wired Scheduling where
  service := ⟨⟨⟨.empty, []⟩, ["pipeline"]⟩, .own none⟩
  bus := some ⟨[], .empty, ⟨0, 0⟩, ⟨0, 0, 0, 0⟩, [], []⟩

theorem jobs_as_submitted_oneDispatch :
    ∃ row ∈ (run dispatcherStep mixedWiring oneDispatch).2.service.state.store.table.rows,
      row.status = .pending ∧ ("pipeline_id", "ocr") ∈ row.payload := by
  obtain ⟨-, -, dispatched⟩ := jobs_as_submitted mixedWiring oneDispatch (by decide)
    (fun _ _ => rfl)
  have waits : ((run dispatcherStep mixedWiring
      oneDispatch).2.service.state.store.table.find? "j1").map Job.status = some .pending := by
    decide +kernel
  obtain ⟨row, found, pending⟩ := Option.map_eq_some_iff.mp waits
  have inside := Keyed.mem_of_find? found
  refine ⟨row, inside, pending, ?_⟩
  exact (dispatched "w1" "ocr" "d1" [("language", "es")] 0 "j1" _ List.mem_cons_self (by decide)
    row inside (Keyed.key_of_find? found)).1

end LexMind.Scheduler
