import LexMind.Python
import Mathlib.Data.Finmap

set_option autoImplicit false

namespace LexMind.Pipelines

open Lib

inductive StageId
  | documentValidation
  | metadataExtraction
  | ocr
  | languageDetection
  | documentClassification
  | parser
  | entityExtraction
  | chunking
  | embeddings
  | indexing
  | knowledgeGraph
  | timeline
  | contradictionDetection
  | searchRegistration
  | completed
deriving DecidableEq, Repr

def StageId.value : StageId → String
  | documentValidation => "document_validation"
  | metadataExtraction => "metadata_extraction"
  | ocr => "ocr"
  | languageDetection => "language_detection"
  | documentClassification => "document_classification"
  | parser => "parser"
  | entityExtraction => "entity_extraction"
  | chunking => "chunking"
  | embeddings => "embeddings"
  | indexing => "indexing"
  | knowledgeGraph => "knowledge_graph"
  | timeline => "timeline"
  | contradictionDetection => "contradiction_detection"
  | searchRegistration => "search_registration"
  | completed => "completed"

def pipelineStageOrder : List StageId :=
  [.documentValidation, .metadataExtraction, .ocr, .languageDetection, .documentClassification,
    .parser, .entityExtraction, .chunking, .embeddings, .indexing, .knowledgeGraph, .timeline,
    .contradictionDetection, .searchRegistration, .completed]

inductive StageStatus
  | pending
  | running
  | completed
  | failed
  | skipped
  | rolledBack
deriving DecidableEq, Repr

inductive RetryStrategy
  | never
  | immediate
  | fixedDelay
  | exponentialBackoff
  | custom
deriving DecidableEq, Repr

/-- Of the policy, what decides whether there is another attempt. -/
structure RetryPolicy where
  strategy : RetryStrategy
  maxAttempts : Int
deriving DecidableEq, Repr

def noRetry : RetryPolicy := ⟨.never, 1⟩

def RetryPolicy.shouldRetry (policy : RetryPolicy) (attempt : Nat) : Bool :=
  policy.strategy ≠ .never ∧ attempt < policy.maxAttempts

/-- Of a stage result, what the executor reads or sets. -/
structure StageResult where
  stageId : StageId
  status : StageStatus
  success : Bool
  warnings : List String
  errors : List String
  attempts : Nat
deriving DecidableEq, Repr

namespace StageResult

def ok (stageId : StageId) : StageResult := ⟨stageId, .completed, true, [], [], 1⟩

def failed (stageId : StageId) (error : String) : StageResult :=
  ⟨stageId, .failed, false, [], [error], 1⟩

def skipped (stageId : StageId) (reason : String) : StageResult :=
  ⟨stageId, .skipped, true, [reason], [], 1⟩

end StageResult

structure PipelineResult where
  pipelineId : String
  documentId : String
  stageResults : List StageResult
  completed : Bool
deriving DecidableEq, Repr

structure StageMetrics where
  stageId : StageId
  retries : Nat
  failures : Nat
deriving DecidableEq, Repr

structure PipelineStatistics where
  skippedStages : List StageId
  stageMetrics : Keyed StageMetrics.stageId

namespace PipelineStatistics

def empty : PipelineStatistics := ⟨[], .empty⟩

def markSkipped (statistics : PipelineStatistics) (stageId : StageId) : PipelineStatistics :=
  if stageId ∈ statistics.skippedStages then statistics
  else { statistics with skippedStages := statistics.skippedStages ++ [stageId] }

def metricsFor (statistics : PipelineStatistics) (stageId : StageId) : StageMetrics :=
  (statistics.stageMetrics.find? stageId).getD ⟨stageId, 0, 0⟩

/-- `metrics_for` keeps the metrics it creates. -/
def openMetrics (statistics : PipelineStatistics) (stageId : StageId) : PipelineStatistics :=
  { statistics with stageMetrics := statistics.stageMetrics.put (statistics.metricsFor stageId) }

def addFailure (statistics : PipelineStatistics) (stageId : StageId) : PipelineStatistics :=
  let metrics := statistics.metricsFor stageId
  { statistics with
    stageMetrics := statistics.stageMetrics.put { metrics with failures := metrics.failures + 1 } }

def addRetry (statistics : PipelineStatistics) (stageId : StageId) : PipelineStatistics :=
  let metrics := statistics.metricsFor stageId
  { statistics with
    stageMetrics := statistics.stageMetrics.put { metrics with retries := metrics.retries + 1 } }

end PipelineStatistics

/-- The keys and values stages share; values are not changed in place. -/
abbrev Shared (ν : Type) := Finmap (fun _ : String => ν)

/-- The context of one run. `world` is everything else its stages can reach and change. -/
structure PipelineContext (ω ν : Type) where
  pipelineId : String
  documentId : String
  cancelled : Bool
  reason : Option String
  statistics : PipelineStatistics
  shared : Shared ν
  world : ω

/-- The hooks of a stage may change the context in any way, and may raise. -/
structure PipelineStage (ω ν : Type) where
  id : StageId
  dependencies : List StageId
  retryPolicy : RetryPolicy
  validate : Py (PipelineContext ω ν) Bool
  execute : Py (PipelineContext ω ν) StageResult
  rollback : Py (PipelineContext ω ν) Unit

section Registry

variable {ω ν : Type}

/-- The registered stages by id. -/
abbrev PipelineRegistry (ω ν : Type) := Keyed (PipelineStage.id : PipelineStage ω ν → StageId)

/-- The dependencies of each stage, in the order of registration. -/
abbrev DependencyTable := Keyed (Prod.fst : StageId × List StageId → StageId)

/-- Where the depth-first visit stands. -/
structure Toposort where
  visiting : List StageId
  visited : List StageId
  ordered : List StageId
deriving DecidableEq, Repr

namespace DependencyTable

/-- The first missing dependency, as `_check_missing` meets it. -/
def checkMissing (table : DependencyTable) : Except PyExc Unit :=
  table.rows.forM (fun row => row.2.forM (fun dependency =>
    if table.contains dependency then .ok ()
    else .error (.stageDependency ("Stage '" ++ row.1.value ++ "' depends on unregistered '"
      ++ dependency.value ++ "'"))))

/-- `visit`, nested at most `fuel` deep. -/
def visit (table : DependencyTable) : Nat → Toposort → StageId → Except PyExc Toposort
  | 0, topo, _ => .ok topo
  | fuel + 1, topo, stageId =>
      if stageId ∈ topo.visited then .ok topo
      else if stageId ∈ topo.visiting then
        .error (.stageDependency ("Dependency cycle at '" ++ stageId.value ++ "'"))
      else
        match table.find? stageId with
        | none => .error (.keyError stageId.value)
        | some row => do
            let inner ← row.2.foldlM (visit table fuel)
              { topo with visiting := stageId :: topo.visiting }
            return ⟨inner.visiting.erase stageId, stageId :: inner.visited,
              inner.ordered ++ [stageId]⟩

/-- A visit nests at most once for each registered stage, as `visit_spec` shows. -/
def toposort (table : DependencyTable) : Except PyExc (List StageId) := do
  let final ← (table.rows.map Prod.fst).foldlM (visit table (table.rows.length + 1)) ⟨[], [], []⟩
  return final.ordered

def validate (table : DependencyTable) : Except PyExc Unit := do
  table.checkMissing
  let _ ← table.toposort

end DependencyTable

namespace PipelineRegistry

def dependencyTable (registry : PipelineRegistry ω ν) : DependencyTable where
  rows := registry.rows.map (fun stage => (stage.id, stage.dependencies))
  distinct := by
    rw [List.map_map]
    exact registry.distinct

def register (stage : PipelineStage ω ν) : Py (PipelineRegistry ω ν) Unit := do
  if (← get).contains stage.id then
    throw (.duplicateStage ("Stage '" ++ stage.id.value ++ "' already registered"))
  modify (fun registry => registry.put stage)

def unregister (stageId : StageId) : Py (PipelineRegistry ω ν) Unit :=
  modify (fun registry => registry.erase stageId)

def topologicalOrder (registry : PipelineRegistry ω ν) : Except PyExc (List StageId) := do
  registry.dependencyTable.checkMissing
  registry.dependencyTable.toposort

end PipelineRegistry

structure Pipeline (ω ν : Type) where
  registry : PipelineRegistry ω ν
  order : List StageId

namespace Pipeline

/-- The registered ones of the listed stages, in the listed order. -/
def stages (pipeline : Pipeline ω ν) : List (PipelineStage ω ν) :=
  pipeline.order.filterMap pipeline.registry.find?

def validate (pipeline : Pipeline ω ν) : Except PyExc Unit :=
  pipeline.registry.dependencyTable.validate

theorem find?_of_mem_stages {pipeline : Pipeline ω ν} {stage : PipelineStage ω ν}
    (inside : stage ∈ pipeline.stages) : pipeline.registry.find? stage.id = some stage := by
  obtain ⟨stageId, _, found⟩ := List.mem_filterMap.mp inside
  rwa [Keyed.key_of_find? found]

end Pipeline

end Registry

end LexMind.Pipelines
