import LexMind.Lib.FifoMap
import LexMind.Lib.Run
import LexMind.Python

set_option autoImplicit false

/- Page artifacts in memory, and the events of the service over them as a log of the store. -/
namespace LexMind.Ocr.Integration

open Lib

/-- What recognition made of one page of a document. -/
structure OcrArtifact where
  artifactId : String
  documentId : String
  pageNumber : Int
  imageRef : Option String
  text : String
  regions : List String
  tables : List String
  createdAt : Rat
  identified : artifactId ≠ ""
  documented : documentId ≠ ""
  paged : 1 ≤ pageNumber

structure OcrArtifactQuery where
  documentId : String
  pageNumber : Option Int

structure OcrArtifactOptions where
  overwrite : Bool

/-- The error of the repository, with its text. -/
inductive StoreError
  | duplicateArtifact (message : String)
deriving DecidableEq

inductive OcrArtifactEvent
  | stored (artifactId documentId : String) (pageNumber : Int)
  | deleted (artifactId : String)
  | failed (artifactId errorMessage : String)
deriving DecidableEq

abbrev InMemoryArtifactRepository := Keyed OcrArtifact.artifactId

def OcrArtifactQuery.matchesPage (query : OcrArtifactQuery) (documentId : String)
    (pageNumber : Int) : Bool :=
  documentId = query.documentId ∧ ∀ page ∈ query.pageNumber, pageNumber = page

def OcrArtifactQuery.matchesArtifact (query : OcrArtifactQuery) (artifact : OcrArtifact) : Bool :=
  query.matchesPage artifact.documentId artifact.pageNumber

namespace InMemoryArtifactRepository

def save (artifact : OcrArtifact) (overwrite : Bool) :
    EStateM StoreError InMemoryArtifactRepository Unit := do
  if Keyed.contains (← get) artifact.artifactId && !overwrite then
    throw (.duplicateArtifact ("Artifact '" ++ artifact.artifactId ++ "' already exists"))
  modify (fun artifacts => Keyed.put artifacts artifact)

def find (artifacts : InMemoryArtifactRepository) (query : OcrArtifactQuery) : List OcrArtifact :=
  artifacts.rows.filter query.matchesArtifact

/-- `pop(artifact_id, None) is not None`. -/
def delete (artifactId : String) : EStateM StoreError InMemoryArtifactRepository Bool := do
  let artifacts ← get
  modify (fun artifacts => Keyed.erase artifacts artifactId)
  return Keyed.contains artifacts artifactId

end InMemoryArtifactRepository

/-- The service on its repository, and what its bus has recorded. -/
structure OcrArtifactIntegrationService where
  repository : InMemoryArtifactRepository
  events : List OcrArtifactEvent

namespace OcrArtifactIntegrationService

def onRepository {α : Type} (program : EStateM StoreError InMemoryArtifactRepository α) :
    EStateM StoreError OcrArtifactIntegrationService α :=
  onPart OcrArtifactIntegrationService.repository
    (fun service repository => { service with repository := repository }) program

def emit (event : OcrArtifactEvent) : EStateM StoreError OcrArtifactIntegrationService Unit :=
  modify (fun service => { service with events := service.events ++ [event] })

/-- A duplicate is announced as a failure and raised again. -/
def store (artifact : OcrArtifact) (options : Option OcrArtifactOptions) :
    EStateM StoreError OcrArtifactIntegrationService Unit := do
  let body := do
    onRepository (InMemoryArtifactRepository.save artifact (options.getD ⟨false⟩).overwrite)
    emit (.stored artifact.artifactId artifact.documentId artifact.pageNumber)
  match ← attempt body with
  | .ok _ => return ()
  | .error (.duplicateArtifact message) =>
      emit (.failed artifact.artifactId
        ("Duplicate artifact '" ++ artifact.artifactId ++ "'"))
      throw (.duplicateArtifact message)

def delete (artifactId : String) : EStateM StoreError OcrArtifactIntegrationService Bool := do
  let removed ← onRepository (InMemoryArtifactRepository.delete artifactId)
  if removed then emit (.deleted artifactId)
  return removed

end OcrArtifactIntegrationService

/-- A call that may change the store; `get`, `find` and `list_all` only read it. -/
inductive IntegrationCall
  | store (artifact : OcrArtifact) (options : Option OcrArtifactOptions)
  | delete (artifactId : String)

def integrationStep (service : OcrArtifactIntegrationService) :
    IntegrationCall → Except StoreError Bool × OcrArtifactIntegrationService
  | .store artifact options =>
      call ((fun _ => true) <$> OcrArtifactIntegrationService.store artifact options) service
  | .delete artifactId => call (OcrArtifactIntegrationService.delete artifactId) service

/-- What a listener keeps of an artifact. -/
structure IndexEntry where
  artifactId : String
  documentId : String
  pageNumber : Int
deriving DecidableEq

/-- A listener's index: entries by the ids of the artifacts. -/
abbrev ArtifactIndex := Keyed IndexEntry.artifactId

def OcrArtifact.entry (artifact : OcrArtifact) : IndexEntry :=
  ⟨artifact.artifactId, artifact.documentId, artifact.pageNumber⟩

/-- The listener, on one event. -/
def ArtifactIndex.hear (index : ArtifactIndex) : OcrArtifactEvent → ArtifactIndex
  | .stored artifactId documentId pageNumber => index.put ⟨artifactId, documentId, pageNumber⟩
  | .deleted artifactId => index.erase artifactId
  | .failed .. => index

def replay (events : List OcrArtifactEvent) : ArtifactIndex :=
  events.foldl ArtifactIndex.hear .empty

/-- The index is that of the store, in its order. -/
def Indexes (index : ArtifactIndex) (repository : InMemoryArtifactRepository) : Prop :=
  index.rows = repository.rows.map OcrArtifact.entry

section Steps

variable {index : ArtifactIndex} {repository : InMemoryArtifactRepository}
  {service : OcrArtifactIntegrationService}

theorem Indexes.put (indexes : Indexes index repository) (artifact : OcrArtifact) :
    Indexes (index.put artifact.entry) (repository.put artifact) := by
  show Keyed.putRows IndexEntry.artifactId index.rows artifact.entry = _
  rw [indexes]
  exact Keyed.putRows_map OcrArtifact.entry (fun _ _ => Iff.rfl)

theorem Indexes.erase (indexes : Indexes index repository) (artifactId : String) :
    Indexes (index.erase artifactId) (repository.erase artifactId) := by
  show index.rows.filter _ = _
  rw [indexes]
  exact Keyed.filter_map_ne OcrArtifact.entry (fun _ _ => Iff.rfl)

theorem erase_absent {artifactId : String} (absent : repository.contains artifactId = false) :
    repository.erase artifactId = repository := by
  apply Keyed.ext_rows
  refine List.filter_eq_self.mpr fun artifact inside => ?_
  rw [Keyed.contains, Option.isSome_eq_false_iff, Option.isNone_iff_eq_none] at absent
  rw [decide_eq_true_iff]
  exact (Keyed.find?_eq_none_iff _ _).mp absent artifact inside

/-- What a call to store does: it stores and says so, or it raises and says that. -/
theorem store_cases (artifact : OcrArtifact) (options : Option OcrArtifactOptions)
    (service : OcrArtifactIntegrationService) :
    integrationStep service (.store artifact options) = (.ok true,
        ⟨service.repository.put artifact, service.events ++
          [.stored artifact.artifactId artifact.documentId artifact.pageNumber]⟩) ∨
      ∃ message reason, integrationStep service (.store artifact options) = (.error reason,
        ⟨service.repository, service.events ++ [.failed artifact.artifactId message]⟩) := by
  unfold integrationStep OcrArtifactIntegrationService.store
    OcrArtifactIntegrationService.onRepository OcrArtifactIntegrationService.emit
    InMemoryArtifactRepository.save
  by_cases refused : (Keyed.contains service.repository artifact.artifactId &&
      !(options.getD ⟨false⟩).overwrite) = true
  · exact .inr ⟨_, _, by simp [refused]; exact ⟨rfl, rfl⟩⟩
  · exact .inl (by simp [refused])

theorem delete_cases (artifactId : String) (service : OcrArtifactIntegrationService) :
    integrationStep service (.delete artifactId) =
      if service.repository.contains artifactId then
        (.ok true, ⟨service.repository.erase artifactId, service.events ++ [.deleted artifactId]⟩)
      else (.ok false, service) := by
  unfold integrationStep OcrArtifactIntegrationService.delete
    OcrArtifactIntegrationService.onRepository OcrArtifactIntegrationService.emit
    InMemoryArtifactRepository.delete
  by_cases present : Keyed.contains service.repository artifactId = true
  · simp [present]
  · have absent := eq_false_of_ne_true present
    simp [absent, erase_absent absent]

theorem replay_append (events : List OcrArtifactEvent) (event : OcrArtifactEvent) :
    replay (events ++ [event]) = (replay events).hear event :=
  List.foldl_append

def OcrArtifactEvent.isFailed : OcrArtifactEvent → Bool
  | failed .. => true
  | stored .. | deleted _ => false

def raises : Except StoreError Bool → Bool
  | .error _ => true
  | .ok _ => false

/-- The events replay to the store, and tell of each call that has raised. -/
structure Replays (service : OcrArtifactIntegrationService)
    (answers : List (Except StoreError Bool)) : Prop where
  indexes : Indexes (replay service.events) service.repository
  failures : service.events.countP OcrArtifactEvent.isFailed = answers.countP raises

theorem Replays.step {answers : List (Except StoreError Bool)} (replays : Replays service answers)
    (made : IntegrationCall) :
    Replays (integrationStep service made).2 (answers ++ [(integrationStep service made).1]) := by
  cases made with
  | store artifact options =>
      rcases store_cases artifact options service with stored | ⟨message, reason, refused⟩
      · rw [stored]
        refine ⟨?_, ?_⟩
        · rw [replay_append]
          exact replays.indexes.put artifact
        · rw [List.countP_append, List.countP_append, replays.failures]
          rfl
      · rw [refused]
        refine ⟨?_, ?_⟩
        · rw [replay_append]
          exact replays.indexes
        · rw [List.countP_append, List.countP_append, replays.failures]
          rfl
  | delete artifactId =>
      rw [delete_cases]
      split
      · refine ⟨?_, ?_⟩
        · rw [replay_append]
          exact replays.indexes.erase artifactId
        · rw [List.countP_append, List.countP_append, replays.failures]
          rfl
      · refine ⟨replays.indexes, ?_⟩
        rw [List.countP_append, replays.failures]
        rfl

end Steps

/-- Whatever is stored and deleted, the events of the service are a log of the store: replayed, they
give each stored artifact with its document and page, in the order of the store, and so what a
query finds; and as many failures are told as calls have raised. -/
theorem events_replay_store (calls : List IntegrationCall) :
    let service := (run integrationStep ⟨.empty, []⟩ calls).2
    (replay service.events).rows = service.repository.rows.map OcrArtifact.entry ∧
      (∀ query : OcrArtifactQuery,
        (InMemoryArtifactRepository.find service.repository query).map OcrArtifact.entry =
          (replay service.events).rows.filter
            (fun entry => query.matchesPage entry.documentId entry.pageNumber)) ∧
      service.events.countP OcrArtifactEvent.isFailed =
        (run integrationStep ⟨.empty, []⟩ calls).1.countP raises := by
  have replays : Replays (run integrationStep ⟨.empty, []⟩ calls).2
      (run integrationStep ⟨.empty, []⟩ calls).1 := by
    induction calls using List.reverseRecOn with
    | nil => exact ⟨rfl, rfl⟩
    | append_singleton calls made ih =>
        rw [run_append_state, run_append_answers]
        exact ih.step made
  refine ⟨replays.indexes, fun query => ?_, replays.failures⟩
  rw [replays.indexes, List.filter_map]
  rfl

end LexMind.Ocr.Integration
