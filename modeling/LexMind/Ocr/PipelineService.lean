import LexMind.Events.Recorder
import LexMind.Registry
import LexMind.Storage.Filesystem

set_option autoImplicit false

namespace LexMind.Ocr

open Lib Events Storage

/-- A value as far as the pipeline looks at it: a text, or something else that `str` shows. -/
inductive StepValue
  | text (content : String)
  | other (shown : Except PyExc String)

def StepValue.str : StepValue → Except PyExc String
  | text content => .ok content
  | other shown => shown

/-- Output of a single step; the duration is the value of a float. -/
structure PipelineStepResult where
  stepName : String
  data : StepValue
  metadata : List (String × StepValue)
  durationMs : Rat

/-- What every step of a run is given; the dictionary is shared by the steps. -/
structure PipelineContext where
  imageData : Bytes
  pageNumber : Int
  state : List (String × StepValue)

structure OcrPipelineOptions where
  stepNames : List String

structure OcrPipelineResult where
  pageNumber : Int
  stepResults : List PipelineStepResult
  finalText : String
  durationMs : Rat
  isSuccess : Bool

inductive PipelineEvent
  | started (pageNumber : Int) (stepNames : List String)
  | stepCompleted (pageNumber : Int) (stepName : String) (durationMs : Rat)
  | completed (pageNumber : Int) (stepCount : Nat) (finalText : String) (durationMs : Rat)
  | failed (pageNumber : Int) (stepName errorMessage : String)

def PipelineEvent.phase : PipelineEvent → Option Phase
  | started .. => some .started
  | stepCompleted .. => none
  | completed .. => some .completed
  | failed .. => some .failed

variable {γ : Type}

/-- A step, which works on a `γ`, may raise, and leaves the shared dictionary as it answers. -/
structure OcrPipelineStep (γ : Type) where
  name : String
  process : PipelineContext → Py γ (PipelineStepResult × List (String × StepValue))

structure OcrPipelineService (γ : Type) where
  registry : Keyed (@OcrPipelineStep.name γ)
  defaultSequence : List String

/-- What a run has so far: its results, the last text, the shared dictionary. -/
structure PipelineProgress where
  results : List PipelineStepResult
  finalText : String
  state : List (String × StepValue)

namespace OcrPipelineService

variable (service : OcrPipelineService γ) (imageData : Bytes) (pageNumber : Int)
  (perfCounter : Nat → Rat)

def get (name : String) : Except PyExc (OcrPipelineStep γ) :=
  registered service.registry (fun name => .ocrPipelineStepNotFound
    ("No OCR pipeline step registered under '" ++ name ++ "'")) name

/-- The text of a step, or the one before it. -/
def textAfter (previous : String) (result : PipelineStepResult) : Except PyExc String :=
  match result.data with
  | .text content => .ok content
  | .other _ =>
      match result.metadata.lookup "text" with
      | some value => value.str
      | none => .ok previous

/-- One turn of the loop; the clock is read before and after the step. -/
def runStep (name : String) (progress : PipelineProgress) :
    Py (Recorder PipelineEvent γ) PipelineProgress := do
  let step ← check (service.get name)
  let reading := 2 * progress.results.length + 1
  let (result, state) ← within (step.process ⟨imageData, pageNumber, progress.state⟩)
  let stepResult := { result with
    durationMs := (perfCounter (reading + 1) - perfCounter reading) * 1000 }
  let finalText ← check (textAfter progress.finalText stepResult)
  record (.stepCompleted pageNumber stepResult.stepName stepResult.durationMs)
  return ⟨progress.results ++ [stepResult], finalText, state⟩

/-- The loop, which a step that raises ends with its name. -/
def runSteps : List String → PipelineProgress →
    Py (Recorder PipelineEvent γ) (Except (String × PyExc) PipelineProgress)
  | [], progress => return .ok progress
  | name :: rest, progress => do
      match ← attempt (runStep service imageData pageNumber perfCounter name progress) with
      | .ok next => runSteps rest next
      | .error exc => return .error (name, exc)

/-- The requested names, or the configured ones where nothing is requested. -/
def names (options : Option OcrPipelineOptions) : List String :=
  match options with
  | some options => options.stepNames
  | none => service.defaultSequence

def run (options : Option OcrPipelineOptions) : Py (Recorder PipelineEvent γ) OcrPipelineResult := do
  if imageData = [] then throw (.valueError "image_data must not be empty")
  record (.started pageNumber (service.names options))
  match ← runSteps service imageData pageNumber perfCounter (service.names options) ⟨[], "", []⟩ with
  | .error (name, exc) =>
      record (.failed pageNumber name exc.text)
      throw exc
  | .ok progress =>
      let total := (perfCounter (2 * progress.results.length + 1) - perfCounter 0) * 1000
      record (.completed pageNumber progress.results.length progress.finalText total)
      return ⟨pageNumber, progress.results, progress.finalText, total, true⟩

end OcrPipelineService

section Steps

variable (service : OcrPipelineService γ) (imageData : Bytes) (pageNumber : Int)
  (perfCounter : Nat → Rat)

/-- A step publishes no phase of the run. -/
theorem runStep_silent (name : String) (progress : PipelineProgress) :
    Silent PipelineEvent.phase (service.runStep imageData pageNumber perfCounter name progress) := by
  refine silent_bind (silent_check _) (fun step => silent_bind (silent_within _) (fun answer => ?_))
  refine silent_bind (silent_check _) (fun finalText => ?_)
  exact silent_bind (silent_record rfl) (fun _ => silent_pure _)

/-- However the loop ends, it returns, and has published no phase of the run. -/
theorem runSteps_published (names : List String) (progress : PipelineProgress)
    (recorder : Recorder PipelineEvent γ) : ∃ ended after,
    call (service.runSteps imageData pageNumber perfCounter names progress) recorder =
      (.ok ended, after) ∧ Published PipelineEvent.phase [] recorder after := by
  induction names generalizing progress recorder with
  | nil => exact ⟨_, _, rfl, published_none recorder.env⟩
  | cons name rest ih =>
      have first := runStep_silent service imageData pageNumber perfCounter name progress recorder
      rw [OcrPipelineService.runSteps, call_bind, call_attempt, andThen_ok]
      cases (call (service.runStep imageData pageNumber perfCounter name progress) recorder).1 with
      | error exc => exact ⟨_, _, rfl, first⟩
      | ok next =>
          obtain ⟨ended, after, returned, later⟩ := ih next
            (call (service.runStep imageData pageNumber perfCounter name progress) recorder).2
          exact ⟨ended, after, returned, first.trans later⟩

/-- Every run is bracketed. -/
theorem run_bracketed (options : Option OcrPipelineOptions) (recorder : Recorder PipelineEvent γ) :
    Bracketed PipelineEvent.phase recorder
      (call (service.run imageData pageNumber perfCounter options) recorder) := by
  by_cases empty : imageData = []
  · have refused : call (service.run imageData pageNumber perfCounter options) recorder =
        (.error (.valueError "image_data must not be empty"), recorder) := by
      simp [OcrPipelineService.run, empty]
    rw [refused]
    exact .inl (published_none recorder.env)
  · have begun := published_record PipelineEvent.phase (.started pageNumber (service.names options)) rfl
      recorder
    obtain ⟨ended, after, returned, silent⟩ := runSteps_published service imageData pageNumber
      perfCounter (service.names options) ⟨[], "", []⟩
      { recorder with events := recorder.events ++ [.started pageNumber (service.names options)] }
    cases ended with
    | error failure =>
        obtain ⟨name, exc⟩ := failure
        have raises : call (service.run imageData pageNumber perfCounter options) recorder =
            (.error exc,
              { after with events := after.events ++ [.failed pageNumber name exc.text] }) := by
          simp [OcrPipelineService.run, empty, returned]
        have told := published_record PipelineEvent.phase (.failed pageNumber name exc.text) rfl after
        rw [raises]
        exact .inr (begun.trans (Published.trans silent told))
    | ok progress =>
        have returns : ∃ result total,
            call (service.run imageData pageNumber perfCounter options) recorder =
              (.ok result, { after with events := after.events ++
                [.completed pageNumber progress.results.length progress.finalText total] }) :=
          ⟨_, _, by simp [OcrPipelineService.run, empty, returned]; exact ⟨rfl, rfl⟩⟩
        obtain ⟨result, total, returns⟩ := returns
        have told := published_record PipelineEvent.phase
          (.completed pageNumber progress.results.length progress.finalText total) rfl after
        rw [returns]
        exact begun.trans (Published.trans silent told)

end Steps

end LexMind.Ocr
