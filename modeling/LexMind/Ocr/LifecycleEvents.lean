import LexMind.Layout.LayoutAnalysis
import LexMind.Lib.Run
import LexMind.Ocr.OCRPipeline
import LexMind.Ocr.OcrBenchmark
import LexMind.Ocr.PipelineService

set_option autoImplicit false

/- The start and the end that the orchestrating services publish, over runs of all of them. -/
namespace LexMind.Ocr

open Lib Events Layout Storage

variable {γ : Type}

structure Services (γ : Type) where
  layout : LayoutAnalysisService γ
  benchmark : OcrBenchmarkService γ
  pipeline : OcrPipelineService γ
  ocr : OCRPipeline γ

/-- What the bus has recorded from each service, and what the components work on. -/
structure Recordings (γ : Type) where
  layout : List LayoutEvent
  benchmark : List BenchmarkEvent
  pipeline : List PipelineEvent
  ocr : List OCREvent
  env : γ

namespace Recordings

variable (recordings : Recordings γ)

def layoutPart : Recorder LayoutEvent γ := ⟨recordings.layout, recordings.env⟩

def benchmarkPart : Recorder BenchmarkEvent γ := ⟨recordings.benchmark, recordings.env⟩

def pipelinePart : Recorder PipelineEvent γ := ⟨recordings.pipeline, recordings.env⟩

def ocrPart : Recorder OCREvent γ := ⟨recordings.ocr, recordings.env⟩

end Recordings

inductive ServiceCall (γ : Type)
  | analyze (imageData : Bytes) (options : LayoutAnalysisOptions) (pageNumber : Int)
      (analyzerName : Option String)
  | runBenchmark (dataset : BenchmarkDataset) (engine : OcrBenchmarkEngine γ)
      (runnerName : Option String) (options : Option Json)
  | run (imageData : Bytes) (pageNumber : Int) (perfCounter : Nat → Rat)
      (options : Option OcrPipelineOptions)
  | execute (request : OCRRequest)

inductive ServiceAnswer
  | layout (result : LayoutResult)
  | report (report : BenchmarkReport)
  | pipeline (result : OcrPipelineResult)
  | outcome (outcome : OCROutcome)

def ServiceCall.program (services : Services γ) : ServiceCall γ → Py (Recordings γ) ServiceAnswer
  | .analyze imageData options pageNumber analyzerName => .layout <$>
      onPart Recordings.layoutPart
        (fun recordings part => { recordings with layout := part.events, env := part.env })
        (services.layout.analyze imageData options pageNumber analyzerName)
  | .runBenchmark dataset engine runnerName options => .report <$>
      onPart Recordings.benchmarkPart
        (fun recordings part => { recordings with benchmark := part.events, env := part.env })
        (services.benchmark.runBenchmark dataset engine runnerName options)
  | .run imageData pageNumber perfCounter options => .pipeline <$>
      onPart Recordings.pipelinePart
        (fun recordings part => { recordings with pipeline := part.events, env := part.env })
        (services.pipeline.run imageData pageNumber perfCounter options)
  | .execute request => .outcome <$>
      onPart Recordings.ocrPart
        (fun recordings part => { recordings with ocr := part.events, env := part.env })
        (services.ocr.execute request)

def serviceStep (services : Services γ) (recordings : Recordings γ) (serviceCall : ServiceCall γ) :
    Except PyExc ServiceAnswer × Recordings γ :=
  call (serviceCall.program services) recordings

/-- The call's own service publishes a start and its end. -/
def Paired (services : Services γ) (recordings : Recordings γ) (serviceCall : ServiceCall γ) : Prop :=
  let ended := serviceStep services recordings serviceCall
  match serviceCall with
  | .analyze .. =>
      Bracketed LayoutEvent.phase recordings.layoutPart (ended.1, ended.2.layoutPart)
  | .runBenchmark .. =>
      Bracketed BenchmarkEvent.phase recordings.benchmarkPart (ended.1, ended.2.benchmarkPart)
  | .run .. => Bracketed PipelineEvent.phase recordings.pipelinePart (ended.1, ended.2.pipelinePart)
  | .execute _ => Bracketed OCREvent.phase recordings.ocrPart (ended.1, ended.2.ocrPart)

/-- The component that the call asks for is found: or there is no image, or no runner to choose. -/
def Found (services : Services γ) : ServiceCall γ → Prop
  | .analyze imageData _ _ analyzerName =>
      imageData = [] ∨ ∃ analyzer, services.layout.resolve analyzerName = .ok analyzer
  | .runBenchmark _ _ runnerName _ =>
      (∃ runner, services.benchmark.resolve runnerName = .ok runner) ∨
        ∃ message, services.benchmark.resolve runnerName = .error (.indexError message)
  | .run .. => True
  | .execute request => ∃ provider,
      services.ocr.dispatcher.select request.provider request.mimeType = .ok provider

/-- A call that returns, and one whose component is found, is paired; an execution without a provider
publishes its failure alone. -/
structure Announced (services : Services γ) (recordings : Recordings γ) (serviceCall : ServiceCall γ) :
    Prop where
  returned : ∀ answer, (serviceStep services recordings serviceCall).1 = .ok answer →
    Paired services recordings serviceCall
  found : Found services serviceCall → Paired services recordings serviceCall
  unselected : ∀ request exc, serviceCall = .execute request →
    services.ocr.dispatcher.select request.provider request.mimeType = .error exc →
      (serviceStep services recordings serviceCall).1 = .error exc ∧
        Published OCREvent.phase [.failed] recordings.ocrPart
          (serviceStep services recordings serviceCall).2.ocrPart

/-- What a call answers with is wrapped; whether it returned is not changed. -/
theorem bracketed_map {ε α β : Type} (phase : ε → Option Phase) (change : α → β)
    (before : Recorder ε γ) (answer : Except PyExc α) (after : Recorder ε γ) :
    Bracketed phase before (answer.map change, after) ↔ Bracketed phase before (answer, after) := by
  cases answer <;> rfl

section Calls

variable (services : Services γ) (recordings : Recordings γ)

theorem paired_of_found {serviceCall : ServiceCall γ} (found : Found services serviceCall) :
    Paired services recordings serviceCall := by
  unfold Paired serviceStep
  cases serviceCall with
  | analyze imageData options pageNumber analyzerName =>
      rw [ServiceCall.program, call_map, call_onPart]
      exact (bracketed_map _ _ _ _ _).mpr
        (analyze_bracketed services.layout imageData options pageNumber analyzerName _ found)
  | runBenchmark dataset engine runnerName options =>
      rw [ServiceCall.program, call_map, call_onPart]
      exact (bracketed_map _ _ _ _ _).mpr
        (runBenchmark_bracketed services.benchmark dataset engine runnerName options _ found)
  | run imageData pageNumber perfCounter options =>
      rw [ServiceCall.program, call_map, call_onPart]
      exact (bracketed_map _ _ _ _ _).mpr
        (run_bracketed services.pipeline imageData pageNumber perfCounter options _)
  | execute request =>
      obtain ⟨provider, selected⟩ := found
      rw [ServiceCall.program, call_map, call_onPart]
      exact (bracketed_map _ _ _ _ _).mpr (execute_bracketed services.ocr request selected _)

theorem unselected_alone (request : OCRRequest) {exc : PyExc}
    (unselected : services.ocr.dispatcher.select request.provider request.mimeType = .error exc) :
    (serviceStep services recordings (.execute request)).1 = .error exc ∧
      Published OCREvent.phase [.failed] recordings.ocrPart
        (serviceStep services recordings (.execute request)).2.ocrPart := by
  obtain ⟨raised, alone⟩ := execute_unselected services.ocr request unselected recordings.ocrPart
  rw [serviceStep, ServiceCall.program, call_map, call_onPart, raised]
  exact ⟨rfl, alone⟩

/-- A call whose component is not found raises. -/
theorem found_of_returned {serviceCall : ServiceCall γ} {answer : ServiceAnswer}
    (returned : (serviceStep services recordings serviceCall).1 = .ok answer) :
    Found services serviceCall := by
  by_contra missing
  cases serviceCall with
  | analyze imageData options pageNumber analyzerName =>
      obtain ⟨image, unresolved⟩ := not_or.mp missing
      cases resolved : services.layout.resolve analyzerName with
      | ok analyzer => exact unresolved ⟨analyzer, resolved⟩
      | error exc =>
          obtain ⟨⟨raised, raises⟩, _⟩ := analyze_unresolved services.layout imageData options
            pageNumber analyzerName recordings.layoutPart image resolved
          rw [serviceStep, ServiceCall.program, call_map, call_onPart, raises] at returned
          cases returned
  | runBenchmark dataset engine runnerName options =>
      obtain ⟨unresolved, named⟩ := not_or.mp missing
      cases resolved : services.benchmark.resolve runnerName with
      | ok runner => exact unresolved ⟨runner, resolved⟩
      | error exc =>
          obtain ⟨raises, _⟩ := runBenchmark_unresolved services.benchmark dataset engine runnerName
            options recordings.benchmarkPart resolved
            (fun message same => named ⟨message, same ▸ resolved⟩)
          rw [serviceStep, ServiceCall.program, call_map, call_onPart, raises] at returned
          cases returned
  | run imageData pageNumber perfCounter options => exact missing trivial
  | execute request =>
      cases selected : services.ocr.dispatcher.select request.provider request.mimeType with
      | ok provider => exact missing ⟨provider, selected⟩
      | error exc =>
          rw [(unselected_alone services recordings request selected).1] at returned
          cases returned

theorem announced (serviceCall : ServiceCall γ) : Announced services recordings serviceCall where
  returned answer returned := paired_of_found services recordings
    (found_of_returned services recordings returned)
  found := paired_of_found services recordings
  unselected := by
    rintro request exc rfl unselected
    exact unselected_alone services recordings request unselected

end Calls

/-- In every sequence of calls, each call that returns or finds its component publishes its start and
its end, and an execution without a provider its failure alone. -/
theorem lifecycle_events_announced (services : Services γ) (recordings : Recordings γ)
    (calls : List (ServiceCall γ)) :
    Along (serviceStep services) (Announced services) recordings calls :=
  along_of_all (announced services) recordings calls

/-- No component is registered anywhere. -/
def bare : Services Unit where
  layout := ⟨.empty, none⟩
  benchmark := ⟨.empty, none⟩
  pipeline := ⟨.empty, []⟩
  ocr := ⟨⟨.empty, none⟩, ⟨fun _ _ => pure (), fun _ => ""⟩, fun _ => pure []⟩

def scan : OCRRequest :=
  ⟨"w", "d", "storage://w/d.png", "", "", none, by decide, by decide, by decide⟩

/-- The failure of an execution without a provider stands alone. -/
theorem failed_without_started :
    ¬ Along (serviceStep bare) (Paired bare) ⟨[], [], [], [], ()⟩ [.execute scan] := by
  rintro ⟨paired, _⟩
  obtain ⟨raised, alone⟩ := unselected_alone bare ⟨[], [], [], [], ()⟩ scan rfl
  unfold Paired Bracketed at paired
  simp only [raised] at paired
  rcases paired with none | failed
  · cases alone.unique none
  · cases alone.unique failed

end LexMind.Ocr
