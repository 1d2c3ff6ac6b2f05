import LexMind.Events.Recorder
import LexMind.Json
import LexMind.Registry
import Mathlib.Algebra.Ring.Rat

set_option autoImplicit false

namespace LexMind.Ocr

open Lib Events

/-- A single benchmark sample: an image and its expected text. -/
structure BenchmarkCase where
  id : String
  expectedText : String
  imageRef : String
  identified : id ≠ ""

structure BenchmarkDataset where
  name : String
  cases : List BenchmarkCase
  named : name ≠ ""

/-- Outcome of one engine on one case, with the values of floats. -/
structure BenchmarkResult where
  engineName : String
  caseId : String
  accuracy : Rat
  latencyMs : Rat
  engineNamed : engineName ≠ ""
  identified : caseId ≠ ""
  fraction : 0 ≤ accuracy ∧ accuracy ≤ 1

structure BenchmarkReport where
  engineName : String
  datasetName : String
  results : List BenchmarkResult
  engineNamed : engineName ≠ ""
  datasetNamed : datasetName ≠ ""

namespace BenchmarkReport

/-- 0 where there are no results. -/
def mean (report : BenchmarkReport) (measure : BenchmarkResult → Rat) : Rat :=
  if report.results = [] then 0
  else (report.results.map measure).sum / report.results.length

def meanAccuracy (report : BenchmarkReport) : Rat := report.mean BenchmarkResult.accuracy

def meanLatency (report : BenchmarkReport) : Rat := report.mean BenchmarkResult.latencyMs

end BenchmarkReport

inductive BenchmarkEvent
  | started (engineName datasetName : String)
  | completed (engineName datasetName : String) (meanAccuracy meanLatency : Rat)
  | failed (engineName datasetName errorMessage : String)

def BenchmarkEvent.phase : BenchmarkEvent → Option Phase
  | started .. => some .started
  | completed .. => some .completed
  | failed .. => some .failed

variable {γ : Type}

/-- An engine and a runner, which work on a `γ` and may raise. -/
structure OcrBenchmarkEngine (γ : Type) where
  name : String
  recognize : String → Py γ String

structure BenchmarkRunner (γ : Type) where
  name : String
  run : BenchmarkDataset → OcrBenchmarkEngine γ → Option Json → Py γ BenchmarkReport

structure OcrBenchmarkService (γ : Type) where
  registry : Keyed (@BenchmarkRunner.name γ)
  default : Option String

namespace OcrBenchmarkService

variable (service : OcrBenchmarkService γ)

def resolve (runnerName : Option String) : Except PyExc (BenchmarkRunner γ) :=
  resolved service.registry (fun name => .benchmarkRunnerNotFound
    ("No benchmark runner registered under '" ++ name ++ "'")) runnerName service.default

/-- The runner's report, announced. -/
def runWith (runner : BenchmarkRunner γ) (dataset : BenchmarkDataset) (engine : OcrBenchmarkEngine γ)
    (options : Option Json) : Py (Recorder BenchmarkEvent γ) BenchmarkReport := do
  let report ← within (runner.run dataset engine options)
  record (.completed report.engineName report.datasetName report.meanAccuracy report.meanLatency)
  return report

def runBenchmark (dataset : BenchmarkDataset) (engine : OcrBenchmarkEngine γ)
    (runnerName : Option String) (options : Option Json) :
    Py (Recorder BenchmarkEvent γ) BenchmarkReport := do
  record (.started engine.name dataset.name)
  match service.resolve runnerName with
  | .error (.indexError message) =>
      record (.failed engine.name dataset.name message)
      throw (.benchmarkRunnerNotFound "No benchmark runner registered")
  | .error exc => throw exc
  | .ok runner =>
      failing (runWith runner dataset engine options)
        (fun exc => .failed engine.name dataset.name exc.text)

end OcrBenchmarkService

section Brackets

variable (service : OcrBenchmarkService γ) (dataset : BenchmarkDataset)
  (engine : OcrBenchmarkEngine γ) (runnerName : Option String) (options : Option Json)
  (recorder : Recorder BenchmarkEvent γ)

/-- With a runner, or with none to choose, a benchmark run is bracketed. -/
theorem runBenchmark_bracketed
    (found : (∃ runner, service.resolve runnerName = .ok runner) ∨
      ∃ message, service.resolve runnerName = .error (.indexError message)) :
    Bracketed BenchmarkEvent.phase recorder
      (call (service.runBenchmark dataset engine runnerName options) recorder) := by
  have begun := published_record BenchmarkEvent.phase (.started engine.name dataset.name) rfl recorder
  rcases found with ⟨runner, found⟩ | ⟨message, none⟩
  · have runs : call (service.runBenchmark dataset engine runnerName options) recorder =
        call (failing (OcrBenchmarkService.runWith runner dataset engine options)
          (fun exc => .failed engine.name dataset.name exc.text))
          { recorder with events := recorder.events ++ [.started engine.name dataset.name] } := by
      simp [OcrBenchmarkService.runBenchmark, found]
    rw [runs]
    exact bracketed_failing begun (completes_announced _ _ _ (fun _ => rfl)) (fun _ => rfl)
  · have told := published_record BenchmarkEvent.phase (.failed engine.name dataset.name message) rfl
      { recorder with events := recorder.events ++ [.started engine.name dataset.name] }
    have fails : call (service.runBenchmark dataset engine runnerName options) recorder =
        (.error (.benchmarkRunnerNotFound "No benchmark runner registered"), { recorder with
          events := recorder.events ++ [.started engine.name dataset.name] ++
            [.failed engine.name dataset.name message] }) := by
      simp [OcrBenchmarkService.runBenchmark, none]
    rw [fails]
    exact .inr (begun.trans told)

/-- A run that asks for a runner that is not registered raises after its start and says no more. -/
theorem runBenchmark_unresolved {exc : PyExc} (missing : service.resolve runnerName = .error exc)
    (named : ∀ message, exc ≠ .indexError message) :
    (call (service.runBenchmark dataset engine runnerName options) recorder).1 = .error exc ∧
      Published BenchmarkEvent.phase [.started] recorder
        (call (service.runBenchmark dataset engine runnerName options) recorder).2 := by
  have stops : call (service.runBenchmark dataset engine runnerName options) recorder =
      (.error exc,
        { recorder with events := recorder.events ++ [.started engine.name dataset.name] }) := by
    cases exc with
    | indexError message => exact absurd rfl (named message)
    | _ => simp [OcrBenchmarkService.runBenchmark, missing]
  rw [stops]
  exact ⟨rfl, published_record BenchmarkEvent.phase (.started engine.name dataset.name) rfl recorder⟩

end Brackets

end LexMind.Ocr
