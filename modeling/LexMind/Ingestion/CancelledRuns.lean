import LexMind.Ingestion.RunSteps

set_option autoImplicit false

/- What becomes of a run whose job a callback asks to cancel. -/
namespace LexMind.Ingestion

open Lib Storage

/-- A callback of a run with this trace asked for the cancellation of the job. -/
def CancelRequested (callback : Emitter) (trace : List IngestionEvent) : Prop :=
  ∃ before event after, trace = before ++ event :: after ∧ (callback before event).cancels = true

theorem not_cancelRequested_nil (callback : Emitter) : ¬ CancelRequested callback [] := by
  rintro ⟨before, event, after, split, _⟩
  simp at split

theorem cancelRequested_append_singleton (callback : Emitter) (trace : List IngestionEvent)
    (event : IngestionEvent) :
    CancelRequested callback (trace ++ [event]) ↔
      CancelRequested callback trace ∨ (callback trace event).cancels = true := by
  constructor
  · rintro ⟨before, own, after, split, cancels⟩
    rcases List.eq_nil_or_concat after with rfl | ⟨earlier, last, rfl⟩
    · obtain ⟨rfl, same⟩ := List.append_inj' split rfl
      cases same
      exact .inr cancels
    · have shorter : trace ++ [event] = (before ++ own :: earlier) ++ [last] := by
        rw [split]
        simp
      obtain ⟨rfl, _⟩ := List.append_inj' shorter rfl
      exact .inl ⟨before, own, earlier, rfl, cancels⟩
  · rintro (⟨before, own, after, rfl, cancels⟩ | cancels)
    · exact ⟨before, own, after ++ [event], by simp, cancels⟩
    · exact ⟨trace, event, [], rfl, cancels⟩

section Callback

variable {job : IngestionJob} (reaction : Reaction)

theorem leaves_cancelled_iff (unended : job.state ∉ [JobState.completed, .failed]) :
    (reaction.leaves job).state = .cancelled ↔
      job.state = .cancelled ∨ reaction.cancels = true := by
  unfold Reaction.leaves
  split
  · rename_i asked
    exact iff_of_true rfl (.inr asked.1)
  · rename_i ignored
    constructor
    · exact .inl
    · rintro (cancelled | asked)
      · exact cancelled
      · have terminal : job.isTerminal = true := by
          rw [← Bool.not_eq_false]
          exact fun going => ignored ⟨asked, going⟩
        rcases job.isTerminal_iff.mp terminal with completed | cancelled | failed
        · exact absurd (by simp [completed]) unended
        · exact cancelled
        · exact absurd (by simp [failed]) unended

theorem leaves_terminal (cancels : reaction.cancels = true) :
    (reaction.leaves job).isTerminal = true := by
  cases terminal : job.isTerminal with
  | true => simp [Reaction.leaves, terminal]
  | false =>
      have cancelled : reaction.leaves job = { job with state := .cancelled } := by
        simp [Reaction.leaves, cancels, terminal]
      rw [cancelled]
      rfl

theorem leaves_unended (unended : job.state ∉ [JobState.completed, .failed]) :
    (reaction.leaves job).state ∉ [JobState.completed, .failed] := by
  unfold Reaction.leaves
  split
  · simp
  · exact unended

end Callback

/-- Between the first transition of a run and its end: the job is cancelled exactly when a callback
asked for it, it has not ended in another way, and no event has said that the run is at its end. -/
structure Running (callback : Emitter) (state : RunState) : Prop where
  cancelled_iff : state.job.state = .cancelled ↔ CancelRequested callback state.trace
  unended : state.job.state ∉ [JobState.completed, .failed]
  silent : ∀ event ∈ state.trace, event.endsRun = false

/-- A step after which the run is still under way. -/
theorem running (context : IngestionContext) :
    StepRelation context (fun first last =>
      Running context.callback first → Running context.callback last) where
  trans _ _ _ first second holds := second (first holds)
  same first last job trace holds := by
    constructor
    · rw [job, trace]
      exact holds.cancelled_iff
    · rw [job]
      exact holds.unended
    · rw [trace]
      exact holds.silent
  moved state target allowed going holds := by
    have active : state.job.state ≠ .cancelled := by
      intro cancelled
      rw [cancelled] at allowed
      cases allowed
    constructor
    · have calm : ¬ CancelRequested context.callback state.trace := by
        rw [← holds.cancelled_iff]
        exact active
      refine iff_of_false ?_ calm
      intro cancelled
      exact going (by simp [show target = .cancelled from cancelled])
    · exact fun ended => going (by
        simp only [List.mem_cons, List.not_mem_nil, or_false] at ended ⊢
        tauto)
    · exact holds.silent
  emitted event state going holds := by
    rw [IngestionPipeline.call_emit]
    constructor
    · rw [leaves_cancelled_iff _ holds.unended, holds.cancelled_iff,
        cancelRequested_append_singleton]
    · exact leaves_unended _ holds.unended
    · intro other inside
      rcases List.mem_append.mp inside with old | new
      · exact holds.silent other old
      · rw [List.mem_singleton.mp new]
        exact going

/-- How a run of the pipeline ends: it raises with no event that says it is at its end, or it comes
to the callback of the completion event with a job that has settled. -/
def Ends (context : IngestionContext) (jobId : String)
    (outcome : Except PyExc IngestionResult × RunState) : Prop :=
  (∃ exc, outcome.1 = .error exc ∧ ∀ event ∈ outcome.2.trace, event.endsRun = false) ∨
    ∃ reached settled, Running context.callback reached ∧
      call (IngestionJob.settle .completed) reached.job = (.ok (), settled) ∧
      outcome =
        ((context.callback reached.trace (.importCompleted jobId)).answer.map
            (fun _ => reached.result),
          { reached with
            job := (context.callback reached.trace (.importCompleted jobId)).leaves settled
            trace := reached.trace ++ [.importCompleted jobId] })

section Ending

variable {context : IngestionContext} {jobId : String} {state : RunState}

/-- A step that raises ends the run while it is under way. -/
theorem Running.bind_ends {α : Type} {program : RunPy α} {next : α → RunPy IngestionResult}
    (holds : Running context.callback state)
    (keeps : Leaves (fun first last =>
      Running context.callback first → Running context.callback last) program)
    (after : ∀ value middle, Running context.callback middle →
      Ends context jobId (call (next value) middle)) :
    Ends context jobId (call (program >>= next) state) := by
  have reached := keeps state holds
  rw [call_bind]
  rcases ended : call program state with ⟨exc | value, middle⟩
  · rw [ended] at reached
    exact .inl ⟨exc, rfl, reached.silent⟩
  · rw [ended] at reached
    exact after value middle reached

theorem complete_ends (holds : Running context.callback state) :
    Ends context jobId (call (IngestionPipeline.complete context jobId) state) := by
  rw [IngestionPipeline.complete, call_bind, call_onJob]
  rcases settles : call (IngestionJob.settle .completed) state.job with ⟨exc | _, settled⟩
  · exact .inl ⟨exc, rfl, holds.silent⟩
  · refine .inr ⟨state, settled, holds, settles, ?_⟩
    rw [andThen_ok, call_bind, IngestionPipeline.call_emit]
    cases (context.callback state.trace (.importCompleted jobId)).answer <;> rfl

theorem importDiscovered_ends (holds : Running context.callback state)
    (discovered : List DiscoveredFile) :
    Ends context jobId
      (call (IngestionPipeline.importDiscovered context jobId discovered) state) := by
  have keeps := running context
  refine holds.bind_ends (keeps.of_same (fun _ => rfl) (fun _ => rfl)) (fun _ _ counted => ?_)
  refine counted.bind_ends (keeps.transition (by decide)) (fun _ _ validating => ?_)
  refine validating.bind_ends (keeps.transition (by decide)) (fun _ _ importing => ?_)
  refine importing.bind_ends (keeps.processFiles _ _ _) (fun _ _ processed => ?_)
  exact complete_ends processed

/-- Once the job is being discovered, no callback has asked for its cancellation. -/
theorem running_of_transition {callback : Emitter} {job next : IngestionJob}
    {event : IngestionEvent} (going : event.endsRun = false) (first : state.trace = [event])
    (left : state.job = (callback [] event).leaves job)
    (moved : call (IngestionJob.transitionTo .discovering) state.job = (.ok (), next)) :
    Running callback { state with job := next } := by
  have discovering := IngestionJob.state_of_transitionTo moved
  have active := IngestionJob.active_of_transitionTo moved
  constructor
  · have calm : ¬ CancelRequested callback ([] ++ [event]) := by
      rw [cancelRequested_append_singleton]
      rintro (requested | cancels)
      · exact not_cancelRequested_nil callback requested
      · rw [left, leaves_terminal _ cancels] at active
        cases active
    exact iff_of_false (by simp [discovering]) (by rwa [first])
  · simp [discovering]
  · rw [first]
    exact List.forall_mem_singleton.mpr going

theorem discovering_ends {job : IngestionJob} {event : IngestionEvent}
    (going : event.endsRun = false) (first : state.trace = [event])
    (left : state.job = (context.callback [] event).leaves job) :
    Ends context jobId (call (do
      onJob (IngestionJob.transitionTo .discovering)
      let discovered ← IngestionPipeline.discover context
      IngestionPipeline.importDiscovered context jobId discovered) state) := by
  rw [call_bind, call_onJob]
  rcases moves : call (IngestionJob.transitionTo .discovering) state.job with ⟨exc | _, next⟩
  · refine .inl ⟨exc, rfl, ?_⟩
    rw [andThen_error, first]
    exact List.forall_mem_singleton.mpr going
  · exact (running_of_transition going first left moves).bind_ends (running context).discover
      (fun discovered _ reached => importDiscovered_ends reached discovered)

theorem process_ends (context : IngestionContext) (job : IngestionJob) :
    Ends context job.jobId (call (IngestionPipeline.process context) (.create job)) := by
  rw [IngestionPipeline.process, call_bind, call_get, andThen_ok, call_bind,
    IngestionPipeline.call_emit]
  cases answered : (context.callback (RunState.create job).trace
      (.importStarted (RunState.create job).job.jobId context.source.name)).answer with
  | error exc => exact .inl ⟨exc, rfl, List.forall_mem_singleton.mpr rfl⟩
  | ok _ =>
      rw [andThen_ok]
      exact discovering_ends rfl rfl rfl

end Ending

/-- The event says that the import is completed. -/
def IngestionEvent.completes (event : IngestionEvent) : Prop :=
  ∃ jobId, event = .importCompleted jobId

theorem not_completes {event : IngestionEvent} (going : event.endsRun = false) :
    ¬ event.completes := by
  rintro ⟨jobId, rfl⟩
  cases going

/-- How a run of the manager ends: it raises and never says that the import is completed, or it says
so once, with a job that has settled, and returns unless that callback raises. -/
inductive RunEnds (callback : Emitter) : Except PyExc IngestionResult × RunState → Prop
  | uncompleted (exc : PyExc) (final : RunState)
      (silent : ∀ event ∈ final.trace, ¬ event.completes) :
      RunEnds callback (.error exc, final)
  | completed (jobId : String) (reached : RunState) (settled : IngestionJob)
      (running : Running callback reached)
      (settles : call (IngestionJob.settle .completed) reached.job = (.ok (), settled))
      (returns : (callback reached.trace (.importCompleted jobId)).raises = none) :
      RunEnds callback
        (.ok reached.result,
          { reached with
            job := (callback reached.trace (.importCompleted jobId)).leaves settled
            trace := reached.trace ++ [.importCompleted jobId] })
  | interrupted (jobId : String) (reached : RunState) (running : Running callback reached)
      (raises : (callback reached.trace (.importCompleted jobId)).raises ≠ none) (exc : PyExc)
      (final : RunState) (tail : List IngestionEvent) (silent : ∀ event ∈ tail, ¬ event.completes)
      (trace : final.trace = reached.trace ++ .importCompleted jobId :: tail) :
      RunEnds callback (.error exc, final)

/-- A failed run raises, whatever its last callback does, and does not say it is completed. -/
theorem fail_ends (context : IngestionContext) (exc : PyExc) (state : RunState) :
    ∃ raised final tail, call (IngestionManager.fail context exc) state = (.error raised, final) ∧
      final.trace = state.trace ++ tail ∧ ∀ event ∈ tail, ¬ event.completes := by
  rw [IngestionManager.fail, call_bind, call_onJob, IngestionJob.addWarning, call_modify, andThen_ok,
    call_bind, call_onJob]
  rcases call (IngestionJob.settle .failed) _ with ⟨refused | _, settled⟩
  · exact ⟨refused, _, [], rfl, (List.append_nil _).symm, nofun⟩
  · rw [andThen_ok, call_bind, call_get, andThen_ok, call_bind, IngestionPipeline.call_emit]
    have silent : ∀ event ∈ [IngestionEvent.importFailed settled.jobId exc.text],
        ¬ event.completes := by
      rw [List.forall_mem_singleton]
      rintro ⟨jobId, same⟩
      cases same
    cases (context.callback state.trace (.importFailed settled.jobId exc.text)).answer with
    | error raised => exact ⟨raised, _, _, rfl, rfl, silent⟩
    | ok _ => exact ⟨_, _, _, rfl, rfl, silent⟩

theorem answer_eq_ok_iff (reaction : Reaction) :
    reaction.answer = .ok () ↔ reaction.raises = none := by
  unfold Reaction.answer
  cases reaction.raises <;> simp

theorem run_ends (manager : IngestionManager) (job : IngestionJob) (location source : String)
    (recursive : Bool) :
    RunEnds manager.emit (call (manager.run location source recursive) (.create job)) := by
  unfold IngestionManager.run
  split
  · exact .uncompleted _ _ nofun
  · rename_i ingestionSource found
    generalize same : IngestionContext.mk ingestionSource location recursive manager.text
      manager.sha256 manager.pathValidator manager.emit = context
    have own : context.callback = manager.emit := by rw [← same]
    rw [call_bind, call_attempt, andThen_ok]
    rcases process_ends context job with
      ⟨exc, raised, silent⟩ | ⟨reached, settled, running, settles, outcome⟩
    · rcases ended : call (IngestionPipeline.process context) (.create job) with ⟨answer, failed⟩
      rw [ended] at raised silent
      subst raised
      obtain ⟨last, final, tail, fails, trace, quiet⟩ := fail_ends context exc failed
      rw [fails]
      refine .uncompleted last final ?_
      intro event inside
      rw [trace] at inside
      rcases List.mem_append.mp inside with before | after
      · exact not_completes (silent event before)
      · exact quiet event after
    · rw [outcome, ← own]
      cases raises : (context.callback reached.trace (.importCompleted job.jobId)).raises with
      | none =>
          rw [(answer_eq_ok_iff _).mpr raises]
          exact .completed job.jobId reached settled running settles raises
      | some exc =>
          have answers : (context.callback reached.trace (.importCompleted job.jobId)).answer =
              .error exc := by simp [Reaction.answer, raises]
          rw [answers]
          obtain ⟨last, final, tail, fails, trace, quiet⟩ := fail_ends context exc
            { reached with
              job := (context.callback reached.trace (.importCompleted job.jobId)).leaves settled
              trace := reached.trace ++ [.importCompleted job.jobId] }
          show RunEnds _ (call (IngestionManager.fail context exc) _)
          rw [fails]
          exact .interrupted job.jobId reached running (by rw [raises]; nofun) last final tail quiet
            (by rw [trace, List.append_assoc, List.singleton_append])

/-- The run respects a cancellation a callback asks for, with these events after it: it returns, its
job ends cancelled, no file is begun any more, and no event says that the run is at its end. -/
structure Respected (later : List IngestionEvent)
    (outcome : Except PyExc IngestionResult × RunState) : Prop where
  returned : ∃ result, outcome.1 = .ok result
  cancelled : outcome.2.job.state = .cancelled
  stopped : ∀ event ∈ later, event.startsFile = false
  silent : ∀ event ∈ later, event.endsRun = false

/-- A list splits at the one element of a kind in one way. -/
theorem split_unique {α : Type} {kind : α → Prop} {first rest before after : List α}
    {value other : α}
    (split : first ++ value :: rest = before ++ other :: after) (fits : kind other)
    (early : ∀ element ∈ first, ¬ kind element) (late : ∀ element ∈ rest, ¬ kind element) :
    first = before ∧ value = other ∧ rest = after := by
  rcases List.append_eq_append_iff.mp split with ⟨middle, rfl, own⟩ | ⟨middle, rfl, own⟩
  · cases middle with
    | nil =>
        cases own
        exact ⟨(List.append_nil first).symm, rfl, rfl⟩
    | cons head middle =>
        cases own
        exact absurd fits (late other (List.mem_append_right middle List.mem_cons_self))
  · cases middle with
    | nil =>
        cases own
        exact ⟨List.append_nil before, rfl, rfl⟩
    | cons head middle =>
        cases own
        exact absurd fits (early other (List.mem_append_right before List.mem_cons_self))

section Respected

variable {callback : Emitter} {outcome : Except PyExc IngestionResult × RunState}
variable {before after : List IngestionEvent} {event : IngestionEvent}

/-- A job that was cancelled by the end of its run settles as it is. -/
theorem settled_cancelled_iff {job settled : IngestionJob}
    (settles : call (IngestionJob.settle .completed) job = (.ok (), settled)) (reaction : Reaction) :
    (reaction.leaves settled).state = .cancelled ↔ job.state = .cancelled := by
  rcases IngestionJob.settle_cases settles with ⟨ended, rfl⟩ | ⟨active, completed⟩
  · simp [Reaction.leaves, ended]
  · have settled_ended : settled.isTerminal = true := by simp [IngestionJob.isTerminal, completed]
    have going : job.state ≠ .cancelled := by
      intro cancelled
      simp [IngestionJob.isTerminal, cancelled] at active
    simp [Reaction.leaves, settled_ended, completed, going]

theorem RunEnds.respected_iff (ends : RunEnds callback outcome)
    (emitted : outcome.2.trace = before ++ event :: after) :
    Respected after outcome ↔
      event.completes ∧ CancelRequested callback before ∧ (callback before event).raises = none := by
  cases ends with
  | uncompleted exc final silent =>
      refine iff_of_false ?_ ?_
      · rintro ⟨⟨_, returned⟩, _, _, _⟩
        cases returned
      · rintro ⟨completes, _, _⟩
        exact silent event (by rw [emitted]; simp) completes
  | interrupted jobId reached running raises exc final tail silent trace =>
      refine iff_of_false ?_ ?_
      · rintro ⟨⟨_, returned⟩, _, _, _⟩
        cases returned
      · rintro ⟨completes, _, returns⟩
        obtain ⟨rfl, rfl, _⟩ := split_unique (trace.symm.trans emitted) completes
          (fun other inside => not_completes (running.silent other inside)) silent
        exact raises returns
  | completed jobId reached settled running settles returns =>
      have early : ∀ other ∈ reached.trace, ¬ other.completes :=
        fun other inside => not_completes (running.silent other inside)
      constructor
      · intro respected
        rcases List.eq_nil_or_concat after with rfl | ⟨earlier, last, rfl⟩
        · obtain ⟨rfl, same⟩ := List.append_inj' emitted rfl
          cases same
          have cancelled := respected.cancelled
          rw [settled_cancelled_iff settles, running.cancelled_iff] at cancelled
          exact ⟨⟨jobId, rfl⟩, cancelled, returns⟩
        · -- the completion is announced after the callback
          have longer : reached.trace ++ [.importCompleted jobId] =
              (before ++ event :: earlier) ++ [last] := by simpa using emitted
          obtain ⟨_, same⟩ := List.append_inj' longer rfl
          cases same
          cases respected.silent _ (by rw [List.concat_eq_append]; exact List.mem_concat_self)
      · rintro ⟨completes, requested, _⟩
        obtain ⟨rfl, rfl, rfl⟩ := split_unique emitted completes early nofun
        refine ⟨⟨_, rfl⟩, ?_, nofun, nofun⟩
        rw [settled_cancelled_iff settles, running.cancelled_iff]
        exact requested

end Respected

/-- Of the callbacks that ask for the cancellation of the job, a run respects the one of the
completion event, where an earlier one has cancelled the job and it does not raise; it respects no
other. -/
theorem cancellation_respected_iff (manager : IngestionManager) (job : IngestionJob)
    (location source : String) (recursive : Bool) (before after : List IngestionEvent)
    (event : IngestionEvent)
    (emitted : (call (manager.run location source recursive) (.create job)).2.trace =
      before ++ event :: after) :
    ((manager.emit before event).cancels = true →
        Respected after (call (manager.run location source recursive) (.create job))) ↔
      ((manager.emit before event).cancels = true →
        event.completes ∧ CancelRequested manager.emit before ∧
          (manager.emit before event).raises = none) :=
  imp_congr_right (fun _ => (run_ends manager job location source recursive).respected_iff emitted)

/-- A manager of one folder with one text, whose callback cancels the job at these events. -/
def cancellingAt (events : List String) : IngestionManager where
  sources := [("filesystem",
    { name := "filesystem"
      discover := fun _ _ =>
        ⟨[⟨"/docs/a.txt", "text/plain", .ok ["docs".toList, "a.txt".toList], .ok true,
          .ok "alpha".toUTF8.toList⟩], none⟩ })]
  text := asciiText
  sha256 := fun _ => "8ed3f6ad685b959ead7022518e1af76cd816f8e8ec7ccdda1ed4018e8f2223f8"
  pathValidator := ⟨none⟩
  emit := fun _ event => ⟨event.name ∈ events, none⟩

/-- A run that is cancelled after its file and once more at its end. -/
theorem cancelled_twice_respected :
    Respected [] (call
      ((cancellingAt ["ingestion.import_progress", "ingestion.import_completed"]).run
        "/docs" "filesystem" true) (.create (.create "ws1" "/docs" "job1"))) := by
  refine (cancellation_respected_iff
    (cancellingAt ["ingestion.import_progress", "ingestion.import_completed"])
    (.create "ws1" "/docs" "job1") "/docs" "filesystem" true
    [.importStarted "job1" "filesystem", .fileDiscovered "job1" "/docs/a.txt",
      .fileValidated "/docs/a.txt", .importProgress "job1" 1] [] (.importCompleted "job1")
    (by decide +kernel)).mpr ?_ (by decide)
  intro _
  exact ⟨⟨"job1", rfl⟩, ⟨[.importStarted "job1" "filesystem",
    .fileDiscovered "job1" "/docs/a.txt", .fileValidated "/docs/a.txt"], .importProgress "job1" 1, [],
    rfl, by decide⟩, rfl⟩

/-- Cancelled while its files are discovered, a run raises, and says that the import failed. -/
theorem discovery_cancel_fails :
    (call ((cancellingAt ["ingestion.file_discovered"]).run "/docs" "filesystem" true)
      (.create (.create "ws1" "/docs" "job1"))).2.trace =
        [.importStarted "job1" "filesystem"] ++ .fileDiscovered "job1" "/docs/a.txt" ::
          [.importFailed "job1" "Cannot transition job 'job1' from cancelled to validating."] ∧
    ((cancellingAt ["ingestion.file_discovered"]).emit [.importStarted "job1" "filesystem"]
      (.fileDiscovered "job1" "/docs/a.txt")).cancels = true ∧
    ¬ Respected [.importFailed "job1" "Cannot transition job 'job1' from cancelled to validating."]
      (call ((cancellingAt ["ingestion.file_discovered"]).run "/docs" "filesystem" true)
        (.create (.create "ws1" "/docs" "job1"))) := by
  refine ⟨by decide +kernel, by decide, ?_⟩
  intro respected
  cases respected.silent _ List.mem_cons_self

end LexMind.Ingestion
