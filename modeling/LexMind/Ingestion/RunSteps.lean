import LexMind.Ingestion.IngestionPipeline

set_option autoImplicit false

/- What every step of a run keeps, the whole run keeps. -/
namespace LexMind.Ingestion

open Lib Storage

/-- A relation between the states before and after that each step of a run keeps: one that leaves
the events and the state of the job, one that moves the job on but does not end it, and one that
emits an event of the run. -/
structure StepRelation (context : IngestionContext) (related : RunState → RunState → Prop) :
    Prop where
  trans : ∀ first middle last, related first middle → related middle last → related first last
  same : ∀ first last : RunState, last.job.state = first.job.state → last.trace = first.trace →
    related first last
  moved : ∀ (state : RunState) (target : JobState), canTransition state.job.state target = true →
    target ∉ [JobState.completed, .cancelled, .failed] →
    related state { state with job := { state.job with state := target } }
  emitted : ∀ (event : IngestionEvent) (state : RunState), event.endsRun = false →
    related state (call (IngestionPipeline.emit context event) state).2

namespace StepRelation

variable {context : IngestionContext} {related : RunState → RunState → Prop}
variable (keeps : StepRelation context related)

section Rules

variable {α β : Type}

include keeps

theorem bind {program : RunPy α} {next : α → RunPy β} (before : Leaves related program)
    (after : ∀ value, Leaves related (next value)) : Leaves related (program >>= next) :=
  Leaves.bind keeps.trans before after

theorem of_same {program : RunPy α}
    (job : ∀ state, (call program state).2.job.state = state.job.state)
    (trace : ∀ state, (call program state).2.trace = state.trace) : Leaves related program :=
  fun state => keeps.same state _ (job state) (trace state)

theorem pure (value : α) : Leaves related (pure value : RunPy α) :=
  keeps.of_same (fun _ => rfl) (fun _ => rfl)

theorem throw (exc : PyExc) : Leaves related (throw exc : RunPy α) :=
  keeps.of_same (fun _ => rfl) (fun _ => rfl)

theorem get_bind {next : RunState → RunPy β} (after : ∀ value, Leaves related (next value)) :
    Leaves related (get >>= next) :=
  keeps.bind (keeps.of_same (fun _ => rfl) (fun _ => rfl)) after

theorem emit {event : IngestionEvent} (going : event.endsRun = false) :
    Leaves related (IngestionPipeline.emit context event) :=
  fun state => keeps.emitted event state going

theorem transition {target : JobState} (going : target ∉ [JobState.completed, .cancelled, .failed]) :
    Leaves related (onJob (IngestionJob.transitionTo target)) := by
  intro state
  rw [call_onJob]
  cases allowed : canTransition state.job.state target with
  | false =>
      obtain ⟨exc, refused⟩ := IngestionJob.call_transitionTo_refused target state.job allowed
      rw [refused]
      exact keeps.same state _ rfl rfl
  | true =>
      rw [IngestionJob.call_transitionTo target state.job allowed]
      exact keeps.moved state target allowed going

end Rules

section Steps

include keeps

theorem identifyFile (file : DiscoveredFile) :
    Leaves related (IngestionPipeline.identifyFile context file) := by
  unfold IngestionPipeline.identifyFile
  split
  · exact keeps.bind (keeps.of_same (fun _ => rfl) (fun _ => rfl))
      (fun _ => keeps.of_same (fun _ => rfl) (fun _ => rfl))
  · refine keeps.bind (keeps.of_same (by simp) (by simp)) (fun checksum => keeps.bind
      (keeps.of_same (by simp) (by simp)) (fun old => ?_))
    split
    · exact keeps.bind (keeps.of_same (fun _ => rfl) (fun _ => rfl)) (fun _ =>
        keeps.bind (keeps.of_same (fun _ => rfl) (fun _ => rfl)) (fun _ => keeps.emit rfl))
    · exact keeps.bind (keeps.of_same (fun _ => rfl) (fun _ => rfl))
        (fun _ => keeps.of_same (fun _ => rfl) (fun _ => rfl))

theorem processFile (file : DiscoveredFile) :
    Leaves related (IngestionPipeline.processFile context file) := by
  unfold IngestionPipeline.processFile
  split
  · exact keeps.bind (keeps.of_same (fun _ => rfl) (fun _ => rfl)) (fun _ =>
      keeps.bind (keeps.of_same (by simp) (by simp)) (fun _ =>
        keeps.bind (keeps.of_same (fun _ => rfl) (fun _ => rfl)) (fun _ => keeps.emit rfl)))
  · exact keeps.throw _
  · exact keeps.bind (keeps.emit rfl) (fun _ => keeps.identifyFile file)

theorem advance (total index : Nat) :
    Leaves related (IngestionPipeline.advance context total index) :=
  keeps.bind (keeps.of_same (by simp) (by simp)) (fun _ =>
    keeps.bind (keeps.of_same (by simp) (by simp)) (fun _ =>
      keeps.get_bind (fun _ => keeps.emit rfl)))

theorem processFiles (total index : Nat) (files : List DiscoveredFile) :
    Leaves related (IngestionPipeline.processFiles context total index files) := by
  induction files generalizing index with
  | nil => exact keeps.pure ()
  | cons file rest ih =>
      refine keeps.get_bind (fun state => ?_)
      split
      · exact keeps.pure ()
      · exact keeps.bind (keeps.processFile file) (fun _ =>
          keeps.bind (keeps.advance total index) (fun _ => ih (index + 1)))

theorem discoverFiles (files : List DiscoveredFile) :
    Leaves related (IngestionPipeline.discoverFiles context files) := by
  induction files with
  | nil => exact keeps.pure ()
  | cons file rest ih => exact keeps.get_bind (fun _ => keeps.bind (keeps.emit rfl) (fun _ => ih))

theorem discover : Leaves related (IngestionPipeline.discover context) := by
  refine keeps.bind (keeps.discoverFiles _) (fun _ => ?_)
  split
  · exact keeps.pure _
  · exact keeps.throw _

end Steps

end StepRelation

end LexMind.Ingestion
