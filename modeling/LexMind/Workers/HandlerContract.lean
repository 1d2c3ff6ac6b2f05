import LexMind.Workers.Drain

set_option autoImplicit false

namespace LexMind.Workers

open Lib Events Scheduler

/-- What the object that the executor holds for the job's type does with the job. -/
def WorkerState.invocation (worker : WorkerState) (job : Job) : Invocation :=
  match worker.handlers.find? job.jobType with
  | some (_, handler) => handler.invoke job
  | none => ⟨[], .error ""⟩

/-- The round in which the executor calls the object that it holds. -/
def WorkerState.servedRound (worker : WorkerState) (scan : Arrangement Job) (clock : Clock) :
    JobScheduler.Round where
  scan := scan
  outcome :=
    match JobRepository.pendingRows scan worker.scheduler.service.state.store.table with
    | [] => .ok ""
    | job :: _ => (worker.invocation (job.begun clock)).ended
  clock := clock

/-- `run_once` of a worker, with the objects that are registered. -/
def WorkerService.serve (scan : Arrangement Job) (clock : Clock) : WorkerPy (Option Job) := do
  runOnce ((← get).service.servedRound scan clock)

def WorkerPool.serve (scan : Arrangement Job) (clock : Clock) : Py WorkerPool (Option Job) := do
  runOnce ((← get).shared.service.servedRound scan clock)

/-- The object is registered for the type, with the workers and with the executor. -/
structure Serves (worker : WorkerState) (jobType : String) (handler : TaskHandler) : Prop where
  listed : worker.registry.find? jobType = some (jobType, handler)
  held : worker.handlers.find? jobType = some (jobType, handler)
  known : jobType ∈ worker.scheduler.service.state.registered

/-- The calls of `handle` that the executor has caused: those of the object, each time it was
called. -/
def handleCalls (handler : TaskHandler) (running : Job) (before after : SchedulerState) : List Job :=
  (executedIds (after.store.trace.drop before.store.trace.length)).flatMap
    (fun _ => (handler.invoke running).handleCalls)

/-- What is owed to a handler: one call of its `handle`, with the job, and the outcome of that
call in the stored row. -/
structure Honours (handler : TaskHandler) (running : Job) (before after : SchedulerState) :
    Prop where
  once : handleCalls handler running before after = [running]
  stored : ∃ row, after.store.table.find? running.id = some row ∧
    match handler.handle running with
    | .ok result => row.status = .completed ∧ row.result = result
    | .error text => row.status = .failed ∧ row.errorMessage = text

variable {worker : Wired WorkerState} {jobType : String} {handler : TaskHandler}

theorem serves_register (before : Wired WorkerState) (jobType : String) (handler : TaskHandler) :
    Serves (call (WorkerService.register jobType handler) before).2.service jobType handler := by
  simp only [WorkerService.register, call_bind, call_modify, andThen_ok, call_onScheduler,
    JobExecutor.register]
  exact ⟨Keyed.find?_put_self _ (jobType, handler), Keyed.find?_put_self _ (jobType, handler),
    List.mem_insert_self⟩

theorem emit_service {σ : Type} (event : EventObject) (wired : Wired σ) :
    (call (emit event) wired).2.service = wired.service := by
  obtain ⟨service, bus⟩ := wired
  cases bus with
  | none => rw [emit_without_bus]
  | some bus => rw [emit_with_bus]

theorem emit_bind_service {σ α : Type} {event : EventObject} {next : Unit → Py (Wired σ) α}
    {service : σ} {wired : Wired σ} (same : wired.service = service)
    (later : ∀ other : Wired σ, other.service = service →
      (call (next ()) other).2.service = service) :
    (call (emit event >>= next) wired).2.service = service := by
  have first := (emit_service event wired).trans same
  rw [call_bind]
  rcases ended : call (emit event) wired with ⟨exc | value, state⟩
  · rwa [ended] at first
  · rw [ended] at first
    exact later state first

/-- Whatever a worker announces, the scheduler is as the round has left it. -/
theorem conclude_service (answer : Except PyExc (Option Job)) (wired : Wired WorkerState) :
    (call (WorkerService.conclude answer) wired).2.service = wired.service := by
  rcases answer with exc | (none | job)
  · exact emit_bind_service rfl (fun _ same => same)
  · rfl
  · refine emit_bind_service rfl (fun other same => ?_)
    split
    · exact emit_bind_service same (fun _ same => same)
    · exact emit_bind_service same (fun _ same => same)

theorem call_runOnce_scheduler (round : JobScheduler.Round) (worker : Wired WorkerState) :
    (call (WorkerService.runOnce round) worker).2.service.scheduler =
      (call (JobScheduler.processNext round) worker.service.scheduler).2 := by
  rw [WorkerService.runOnce, call_bind, call_attempt, call_onScheduler, andThen_ok, conclude_service]

theorem call_serve_scheduler (worker : Wired WorkerState) (scan : Arrangement Job) (clock : Clock) :
    (call (WorkerService.serve scan clock) worker).2.service.scheduler =
      (call (JobScheduler.processNext (worker.service.servedRound scan clock))
        worker.service.scheduler).2 := by
  rw [WorkerService.serve, call_bind, call_get, andThen_ok, call_runOnce_scheduler]

theorem call_poolServe_scheduler (pool : WorkerPool) (scan : Arrangement Job) (clock : Clock) :
    (call (WorkerPool.serve scan clock) pool).2.shared.service.scheduler =
      (call (WorkerService.serve scan clock) pool.shared).2.service.scheduler := by
  rw [call_serve_scheduler, WorkerPool.serve, call_bind, call_get, andThen_ok, WorkerPool.runOnce,
    call_bind, call_modify, andThen_ok, WorkerPool.onShared, call_onPart]
  exact call_runOnce_scheduler _ _

/-- The outcome of the call is in the stored row, and no other outcome is. -/
theorem stored_settled (state : SchedulerState) (job : Job) (round : JobScheduler.Round)
    (outcome : HandlerOutcome) :
    (∃ row, (settled state job round).store.table.find? (job.begun round.clock).id = some row ∧
      match outcome with
      | .ok result => row.status = .completed ∧ row.result = result
      | .error text => row.status = .failed ∧ row.errorMessage = text) ↔
      round.outcome = outcome := by
  have stored : (settled state job round).store.table.find? (job.begun round.clock).id =
      some (job.ran round.outcome round.clock) := by
    rw [settled, withStore_store, JobStore.executed, JobStore.write_table, Keyed.find?_put,
      Job.ran_id, Job.begun_id, if_pos rfl]
  rw [stored]
  cases made : round.outcome with
  | ok result =>
      cases outcome with
      | ok other => simp [Job.ran, Job.concluded]
      | error text => simp [Job.ran, Job.concluded]
  | error text =>
      cases outcome with
      | ok result => simp [Job.ran, Job.concluded]
      | error other => simp [Job.ran, Job.concluded]

theorem executedIds_new (state : SchedulerState) (job : Job) (round : JobScheduler.Round) :
    executedIds ((settled state job round).store.trace.drop state.store.trace.length) =
      [job.id] := by
  have whole := executedIds_settled state job round
  have kept : (settled state job round).store.trace.take state.store.trace.length =
      state.store.trace := by
    simp [settled, JobStore.executed]
  have split := List.take_append_drop state.store.trace.length (settled state job round).store.trace
  rw [← split, executedIds, List.filterMap_append, kept] at whole
  exact List.append_cancel_left whole

section Served

variable {before : Wired Scheduling} {round : JobScheduler.Round} {job : Job} {rest : List Job}
  {handler : TaskHandler}

/-- The contract is met where the call of the object is one call of its `handle`. -/
theorem honours_settled (state : SchedulerState)
    (made : round.outcome = (handler.invoke (job.begun round.clock)).ended) :
    Honours handler (job.begun round.clock) state (settled state job round) ↔
      ∃ body, handler.dunderCall = some body ∧
        body (job.begun round.clock) =
          ⟨[job.begun round.clock], handler.handle (job.begun round.clock)⟩ := by
  have calls : handleCalls handler (job.begun round.clock) state (settled state job round) =
      (handler.invoke (job.begun round.clock)).handleCalls := by
    rw [handleCalls, executedIds_new, List.flatMap_singleton]
  constructor
  · intro honours
    have once := honours.once
    have ended := (stored_settled state job round _).mp honours.stored
    rw [calls] at once
    rw [made] at ended
    cases own : handler.dunderCall with
    | none =>
        rw [TaskHandler.invoke, own] at once
        cases once
    | some body =>
        refine ⟨body, rfl, ?_⟩
        rw [TaskHandler.invoke, own] at once ended
        rw [← once, ← ended]
  · rintro ⟨body, own, single⟩
    have invoked : handler.invoke (job.begun round.clock) =
        ⟨[job.begun round.clock], handler.handle (job.begun round.clock)⟩ := by
      rw [TaskHandler.invoke, own]
      exact single
    refine ⟨?_, (stored_settled state job round _).mpr ?_⟩
    · rw [calls, invoked]
    · rw [made, invoked]

/-- With an event bus at the executor no handler is called at all. -/
theorem honours_round
    (listed : JobRepository.pendingRows round.scan before.service.state.store.table = job :: rest)
    (known : job.jobType ∈ before.service.state.registered)
    (made : round.outcome = (handler.invoke (job.begun round.clock)).ended) :
    Honours handler (job.begun round.clock) before.service.state
        (call (JobScheduler.processNext round) before).2.service.state ↔
      JobExecutor.bus before = none ∧ ∃ body, handler.dunderCall = some body ∧
        body (job.begun round.clock) =
          ⟨[job.begun round.clock], handler.handle (job.begun round.clock)⟩ := by
  obtain ⟨⟨state, executorBus⟩, bus⟩ := before
  cases heard : executorBus.heard bus with
  | none =>
      rw [call_processNext heard listed known, honours_settled state made]
      exact (and_iff_right heard).symm
  | some reached =>
      obtain ⟨exc, raised⟩ := call_processNext_wired heard (busy_of_listed listed) round
      rw [raised]
      refine iff_of_false (fun honours => ?_) (fun unwired => nomatch heard.symm.trans unwired.1)
      have once := honours.once
      rw [handleCalls, List.drop_length] at once
      cases once

end Served

/-- A registered object is served as its protocol says exactly where the executor has no event bus
and calling the object is one call of its `handle`. -/
theorem handler_contract_iff (jobType : String) (handler : TaskHandler) :
    (∀ before : Wired WorkerState,
      Serves (call (WorkerService.register jobType handler) before).2.service jobType handler) ∧
    (∀ before : WorkerPool,
      Serves (call (WorkerPool.register jobType handler) before).2.shared.service jobType handler) ∧
    ∀ (worker : Wired WorkerState) (scan : Arrangement Job) (clock : Clock) (job : Job)
      (rest : List Job), Serves worker.service jobType handler →
      JobRepository.pendingRows scan worker.service.scheduler.service.state.store.table = job :: rest →
      job.jobType = jobType →
      let before := worker.service.scheduler.service.state
      let running := job.begun clock
      let condition := JobExecutor.bus worker.service.scheduler = none ∧
        ∃ body, handler.dunderCall = some body ∧ body running = ⟨[running], handler.handle running⟩
      (Honours handler running before
        (call (WorkerService.serve scan clock) worker).2.service.scheduler.service.state ↔ condition) ∧
      ∀ pool : WorkerPool, pool.shared = worker →
        (Honours handler running before
          (call (WorkerPool.serve scan clock) pool).2.shared.service.scheduler.service.state ↔
            condition) := by
  refine ⟨fun before => serves_register before jobType handler, fun before => ?_, ?_⟩
  · rw [WorkerPool.register, WorkerPool.onShared, call_onPart]
    exact serves_register before.shared jobType handler
  · intro worker scan clock job rest serves listed typed before running condition
    have made : (worker.service.servedRound scan clock).outcome =
        (handler.invoke (job.begun clock)).ended := by
      have named : (job.begun clock).jobType = jobType := (Job.moved_jobType _ _ _).trans typed
      simp only [WorkerState.servedRound, listed, WorkerState.invocation, named, serves.held]
    have once : Honours handler running before
        (call (WorkerService.serve scan clock) worker).2.service.scheduler.service.state ↔
          condition := by
      rw [call_serve_scheduler]
      exact honours_round listed (typed ▸ serves.known) made
    refine ⟨once, fun pool same => ?_⟩
    rw [call_poolServe_scheduler, same]
    exact once

/-- An object with the method of the protocol, and nothing else. -/
def plainHandler : TaskHandler := ⟨"IngestHandler", fun _ => .ok "done", none⟩

/-- The executor calls the object itself: its `handle` is never called and the job fails. -/
theorem plainHandler_not_called :
    let job := waiting "j1" "ingest" 0
    let empty : Wired WorkerState := ⟨⟨plain ⟨⟨⟨[job], by decide⟩, []⟩, []⟩, .empty, .empty⟩, none⟩
    let worker := (call (WorkerService.register "ingest" plainHandler) empty).2
    let before := worker.service.scheduler.service.state
    let after :=
      (call (WorkerService.serve .asStored (fun _ => 0)) worker).2.service.scheduler.service.state
    Serves worker.service "ingest" plainHandler ∧
      ¬ Honours plainHandler (job.begun (fun _ => 0)) before after ∧
      (after.store.table.find? "j1").map (fun row => (row.status, row.errorMessage)) =
        some (.failed, "'IngestHandler' object is not callable") := by
  intro job empty worker before after
  refine ⟨⟨rfl, rfl, by decide⟩, fun honours => ?_, by rfl⟩
  have once := honours.once
  exact absurd once (by decide)

end LexMind.Workers
