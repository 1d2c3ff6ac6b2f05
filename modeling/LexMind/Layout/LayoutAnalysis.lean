import LexMind.Events.Recorder
import LexMind.Registry
import LexMind.Storage.Filesystem

set_option autoImplicit false

namespace LexMind.Layout

open Lib Events Storage

/-- Semantic type of a detected layout region. -/
inductive RegionType
  | text
  | title
  | heading
  | paragraph
  | list
  | table
  | figure
  | image
  | caption
  | header
  | footer
  | pageNumber
  | formula
  | code
  | other
deriving DecidableEq

/-- Between 0 and 1, as the value of a float. -/
def Fraction (value : Rat) : Prop := 0 ≤ value ∧ value ≤ 1

/-- A box on a page, in fractions of its sides. -/
structure BoundingBox where
  x : Rat
  y : Rat
  width : Rat
  height : Rat
  x_fraction : Fraction x
  y_fraction : Fraction y
  width_fraction : Fraction width
  height_fraction : Fraction height

structure LayoutRegion where
  regionType : RegionType
  bbox : BoundingBox
  confidence : Rat
  pageNumber : Int
  order : Int
  text : String
  metadata : List (String × String)
  confident : Fraction confidence

structure LayoutResult where
  pageNumber : Int
  regions : List LayoutRegion
  analyzer : String
  imageWidth : Int
  imageHeight : Int

def LayoutResult.regionCount (result : LayoutResult) : Nat := result.regions.length

structure LayoutAnalysisOptions where
  regionTypes : List RegionType
  minConfidence : Rat
  mergeOverlapping : Bool
  minimal : Fraction minConfidence

/-- The events of an analysis; the page is also their aggregate. -/
inductive LayoutEvent
  | started (pageNumber : Int)
  | completed (pageNumber : Int) (regionCount : Nat) (analyzer : String)
  | failed (pageNumber : Int) (errorMessage : String)

def LayoutEvent.phase : LayoutEvent → Option Phase
  | started _ => some .started
  | completed .. => some .completed
  | failed .. => some .failed

/-- An analyzer, which works on a `γ` and may raise. -/
structure LayoutAnalyzer (γ : Type) where
  name : String
  analyze : Bytes → LayoutAnalysisOptions → Int → Py γ LayoutResult

variable {γ : Type}

/-- The outer box fully contains the inner one. -/
def contains (outer inner : BoundingBox) : Bool :=
  inner.x ≥ outer.x ∧ inner.y ≥ outer.y ∧ inner.x + inner.width ≤ outer.x + outer.width ∧
    inner.y + inner.height ≤ outer.y + outer.height

structure LayoutAnalysisService (γ : Type) where
  registry : Keyed (@LayoutAnalyzer.name γ)
  default : Option String

namespace LayoutAnalysisService

variable (service : LayoutAnalysisService γ)

def resolve (analyzerName : Option String) : Except PyExc (LayoutAnalyzer γ) :=
  resolved service.registry (fun name => .layoutAnalyzerNotFound
    ("No layout analyzer registered under '" ++ name ++ "'")) analyzerName service.default

/-- Regions by falling confidence, without those that one kept before contains, by their order. -/
def mergeOverlapping (regions : List LayoutRegion) : List LayoutRegion :=
  let ordered := regions.insertionSort (fun first second => second.confidence ≤ first.confidence)
  let kept := ordered.foldl (fun kept region =>
    if kept.any (fun keptRegion => contains keptRegion.bbox region.bbox) then kept
    else kept ++ [region]) []
  kept.insertionSort (fun first second => first.order ≤ second.order)

def merged (options : LayoutAnalysisOptions) (result : LayoutResult) : LayoutResult :=
  { result with regions :=
      if options.mergeOverlapping then mergeOverlapping result.regions else result.regions }

/-- The analyzer's result, merged where that is asked for, and announced. -/
def analyzeWith (analyzer : LayoutAnalyzer γ) (imageData : Bytes) (options : LayoutAnalysisOptions)
    (pageNumber : Int) : Py (Recorder LayoutEvent γ) LayoutResult := do
  let result ← within (analyzer.analyze imageData options pageNumber)
  record (.completed pageNumber (merged options result).regionCount (merged options result).analyzer)
  return merged options result

def analyze (imageData : Bytes) (options : LayoutAnalysisOptions) (pageNumber : Int)
    (analyzerName : Option String) : Py (Recorder LayoutEvent γ) LayoutResult := do
  if imageData = [] then throw (.valueError "image_data must not be empty")
  record (.started pageNumber)
  match service.resolve analyzerName with
  | .error (.indexError _) => throw (.layoutAnalyzerNotFound "No layout analyzer registered")
  | .error exc => throw exc
  | .ok analyzer =>
      failing (analyzeWith analyzer imageData options pageNumber)
        (fun exc => .failed pageNumber exc.text)

end LayoutAnalysisService

section Brackets

variable (service : LayoutAnalysisService γ) (imageData : Bytes) (options : LayoutAnalysisOptions)
  (pageNumber : Int) (analyzerName : Option String) (recorder : Recorder LayoutEvent γ)

/-- Without an image, or with an analyzer, an analysis is bracketed. -/
theorem analyze_bracketed
    (found : imageData = [] ∨ ∃ analyzer, service.resolve analyzerName = .ok analyzer) :
    Bracketed LayoutEvent.phase recorder
      (call (service.analyze imageData options pageNumber analyzerName) recorder) := by
  by_cases empty : imageData = []
  · have refused : call (service.analyze imageData options pageNumber analyzerName) recorder =
        (.error (.valueError "image_data must not be empty"), recorder) := by
      simp [LayoutAnalysisService.analyze, empty]
    rw [refused]
    exact .inl (published_none recorder.env)
  · obtain ⟨analyzer, found⟩ := found.resolve_left empty
    have begun := published_record LayoutEvent.phase (.started pageNumber) rfl recorder
    have runs : call (service.analyze imageData options pageNumber analyzerName) recorder =
        call (failing (LayoutAnalysisService.analyzeWith analyzer imageData options pageNumber)
          (fun exc => .failed pageNumber exc.text))
          { recorder with events := recorder.events ++ [.started pageNumber] } := by
      simp [LayoutAnalysisService.analyze, empty, found]
    rw [runs]
    exact bracketed_failing begun (completes_announced _ _ _ (fun _ => rfl)) (fun _ => rfl)

/-- With an image and without an analyzer, an analysis raises after its start and says no more. -/
theorem analyze_unresolved (image : imageData ≠ []) {exc : PyExc}
    (missing : service.resolve analyzerName = .error exc) :
    (∃ raised, (call (service.analyze imageData options pageNumber analyzerName) recorder).1 =
        .error raised) ∧
      Published LayoutEvent.phase [.started] recorder
        (call (service.analyze imageData options pageNumber analyzerName) recorder).2 := by
  have stops : ∃ raised, call (service.analyze imageData options pageNumber analyzerName) recorder =
      (.error raised, { recorder with events := recorder.events ++ [.started pageNumber] }) := by
    cases exc <;> simp [LayoutAnalysisService.analyze, image, missing]
  obtain ⟨raised, stops⟩ := stops
  rw [stops]
  exact ⟨⟨raised, rfl⟩, published_record LayoutEvent.phase (.started pageNumber) rfl recorder⟩

end Brackets

end LexMind.Layout
