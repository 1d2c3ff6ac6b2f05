import LexMind.Python

set_option autoImplicit false

namespace LexMind.Artifacts

open Lib

/-- Classification of artifacts produced by the processing pipeline. -/
inductive ArtifactType
  | originalDocument
  | ocrText
  | ocrLayout
  | parsedDocument
  | entities
  | relationships
  | chunks
  | embeddings
  | vectorIndex
  | knowledgeGraph
  | timeline
  | summary
  | report
  | exported
  | cache
  | thumbnail
  | preview
  | log
  | metrics
deriving DecidableEq, Repr

namespace ArtifactType

def value : ArtifactType → String
  | originalDocument => "original_document"
  | ocrText => "ocr_text"
  | ocrLayout => "ocr_layout"
  | parsedDocument => "parsed_document"
  | entities => "entities"
  | relationships => "relationships"
  | chunks => "chunks"
  | embeddings => "embeddings"
  | vectorIndex => "vector_index"
  | knowledgeGraph => "knowledge_graph"
  | timeline => "timeline"
  | summary => "summary"
  | report => "report"
  | exported => "export"
  | cache => "cache"
  | thumbnail => "thumbnail"
  | preview => "preview"
  | log => "log"
  | metrics => "metrics"

def all : List ArtifactType :=
  [originalDocument, ocrText, ocrLayout, parsedDocument, entities, relationships, chunks,
    embeddings, vectorIndex, knowledgeGraph, timeline, summary, report, exported, cache, thumbnail,
    preview, log, metrics]

def of (value : String) : Except PyExc ArtifactType :=
  enumOf "ArtifactType" all ArtifactType.value value

theorem of_value (member : ArtifactType) : of member.value = .ok member := by
  cases member <;> rfl

end ArtifactType

/-- Lifecycle status of an artifact. -/
inductive ArtifactStatus
  | registered
  | available
  | invalid
  | superseded
  | archived
  | deleted
deriving DecidableEq, Repr

namespace ArtifactStatus

def value : ArtifactStatus → String
  | registered => "registered"
  | available => "available"
  | invalid => "invalid"
  | superseded => "superseded"
  | archived => "archived"
  | deleted => "deleted"

def all : List ArtifactStatus := [registered, available, invalid, superseded, archived, deleted]

def of (value : String) : Except PyExc ArtifactStatus :=
  enumOf "ArtifactStatus" all ArtifactStatus.value value

theorem of_value (member : ArtifactStatus) : of member.value = .ok member := by
  cases member <;> rfl

theorem value_eq_iff (first second : ArtifactStatus) :
    first.value = second.value ↔ first = second := by
  cases first <;> cases second <;> decide

def validTransitions : ArtifactStatus → List ArtifactStatus
  | registered => [available, invalid]
  | available => [superseded, archived, deleted]
  | invalid => [deleted]
  | superseded => [archived, deleted]
  | archived => [deleted]
  | deleted => []

end ArtifactStatus

def canTransitionArtifact (source target : ArtifactStatus) : Bool :=
  target ∈ source.validTransitions

/-- Immutable record of a single artifact version. -/
structure ArtifactVersion where
  artifactId : String
  versionNumber : Int
  checksum : String
  createdAt : Timestamp
  producerModule : String
  producerVersion : String
  storageUri : String
  mediaType : String
  notes : String
deriving DecidableEq, Repr

/-- An insertion-ordered dictionary of texts. -/
abbrev Extra := Keyed (Prod.fst : String × String → String)

/-- Which kind of sequence an attribute holds: a list and a tuple are never equal. -/
inductive SeqKind
  | list
  | tuple
deriving DecidableEq, Repr

/-- Artifact aggregate root. `documentId` is the attribute callers may set on it; it is none of
its fields. -/
structure Artifact where
  id : String
  workspaceId : String
  investigationId : String
  artifactType : ArtifactType
  subtype : String
  status : ArtifactStatus
  currentVersion : Int
  producerModule : String
  producerVersion : String
  checksum : String
  mediaType : String
  storageUri : String
  tags : List String
  extra : Extra
  versions : List ArtifactVersion
  versionsKind : SeqKind
  createdAt : Timestamp
  updatedAt : Timestamp
  documentId : Option String
  identified : id ≠ ""
  owned : workspaceId ≠ ""

namespace Artifact

variable (artifact : Artifact)

def transition (target : ArtifactStatus) (now : Timestamp) : Except PyExc Artifact :=
  if canTransitionArtifact artifact.status target then
    .ok { artifact with status := target, updatedAt := now }
  else
    .error (.artifactState artifact.id artifact.status.value ("transition to " ++ target.value))

def markAvailable (now : Timestamp) : Except PyExc Artifact := artifact.transition .available now

def supersede (now : Timestamp) : Except PyExc Artifact := artifact.transition .superseded now

def archive (now : Timestamp) : Except PyExc Artifact := artifact.transition .archived now

/-- The status is set whatever it was. -/
def delete (now : Timestamp) : Artifact := { artifact with status := .deleted, updatedAt := now }

def validateChecksum (expected : String) : Bool := artifact.checksum = expected

/-- The new record is stamped when it is made, the artifact at the end. -/
def createNewVersion (checksum producerModule producerVersion storageUri mediaType notes : String)
    (made now : Timestamp) : Except PyExc Artifact :=
  if artifact.status = .deleted ∨ artifact.status = .archived then
    .error (.artifactState artifact.id artifact.status.value "create new version")
  else
    .ok { artifact with
      currentVersion := artifact.currentVersion + 1
      versions := artifact.versions ++ [{
        artifactId := artifact.id
        versionNumber := artifact.currentVersion + 1
        checksum := checksum
        createdAt := made
        producerModule := producerModule
        producerVersion := producerVersion
        storageUri := storageUri
        mediaType := mediaType
        notes := notes }]
      versionsKind := .tuple
      checksum := checksum
      storageUri := if storageUri = "" then artifact.storageUri else storageUri
      mediaType := if mediaType = "" then artifact.mediaType else mediaType
      updatedAt := now }

end Artifact

end LexMind.Artifacts
