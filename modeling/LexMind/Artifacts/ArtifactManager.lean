import LexMind.Artifacts.Artifact
import LexMind.Artifacts.GraphInvariant
import LexMind.Events.EventBus

set_option autoImplicit false

namespace LexMind.Artifacts

open Lib Events

/-- An implementation of the registry protocol, which holds a `ρ`. The artifact that `find` answers
with is the registered one: `changed` is the registry once a method has changed it. -/
structure ArtifactRegistry (ρ : Type) where
  find : ρ → String → Option Artifact
  registered : ρ → String → Bool
  register : Artifact → Py ρ Unit
  changed : ρ → Artifact → ρ
  registered_eq : ∀ held id, registered held id = (find held id).isSome
  find_id : ∀ held id artifact, find held id = some artifact → artifact.id = id
  /-- Registering a new id succeeds, or raises and changes nothing. -/
  find_register : ∀ held artifact, find held artifact.id = none →
    (∃ exc, call (register artifact) held = (.error exc, held)) ∨
    ∃ after, call (register artifact) held = (.ok (), after) ∧
      ∀ id, find after id = if id = artifact.id then some artifact else find held id
  find_changed : ∀ held artifact, (find held artifact.id).isSome →
    ∀ id, find (changed held artifact) id =
      if id = artifact.id then some artifact else find held id

/-- What the manager works on. -/
structure ManagerState (ρ : Type) where
  registry : ρ
  dependencies : DependencyGraph

abbrev ManagerPy (ρ α : Type) := Py (Wired (ManagerState ρ)) α

/-- The arguments of `create_artifact`, with the readings of the clock that the two defaults make. -/
structure CreateArtifact where
  artifactId : String
  workspaceId : String
  artifactType : ArtifactType
  checksum : String
  investigationId : String
  subtype : String
  producerModule : String
  producerVersion : String
  mediaType : String
  storageUri : String
  tags : List String
  createdAt : Timestamp
  updatedAt : Timestamp

/-- The constructor call, with the entity's own checks. -/
def CreateArtifact.artifact (request : CreateArtifact) : Except PyExc Artifact :=
  if identified : request.artifactId = "" then
    .error (.artifactValidation request.artifactId "artifact_id is required")
  else if owned : request.workspaceId = "" then
    .error (.artifactValidation request.artifactId "workspace_id is required")
  else
    .ok {
      id := request.artifactId
      workspaceId := request.workspaceId
      investigationId := request.investigationId
      artifactType := request.artifactType
      subtype := request.subtype
      status := .registered
      currentVersion := 1
      producerModule := request.producerModule
      producerVersion := request.producerVersion
      checksum := request.checksum
      mediaType := request.mediaType
      storageUri := request.storageUri
      tags := request.tags
      extra := .empty
      versions := []
      versionsKind := .list
      createdAt := request.createdAt
      updatedAt := request.updatedAt
      documentId := none
      identified := identified
      owned := owned }

def artifactCreated (artifact : Artifact) (producer : String) : EventObject :=
  domainEvent "ArtifactCreated" artifact.id
    [("artifact_type", .str artifact.artifactType.value), ("producer", .str producer)]

def artifactValidated (artifactId : String) : EventObject :=
  domainEvent "ArtifactValidated" artifactId [("checksum_valid", .bool true)]

def artifactSuperseded (artifactId : String) : EventObject :=
  domainEvent "ArtifactSuperseded" artifactId [("superseded_by", .str "")]

def artifactArchived (artifactId : String) : EventObject :=
  domainEvent "ArtifactArchived" artifactId []

def artifactDeleted (artifactId : String) : EventObject := domainEvent "ArtifactDeleted" artifactId []

variable {ρ : Type}

def onRegistry {α : Type} (program : Py ρ α) : ManagerPy ρ α :=
  onService (onPart ManagerState.registry
    (fun state registry => { state with registry := registry }) program)

def onGraph {α : Type} (program : Py DependencyGraph α) : ManagerPy ρ α :=
  onService (onPart ManagerState.dependencies
    (fun state dependencies => { state with dependencies := dependencies }) program)

namespace ArtifactManager

variable (registry : ArtifactRegistry ρ)

def getOrRaise (artifactId : String) : ManagerPy ρ Artifact := do
  match registry.find (← get).service.registry artifactId with
  | some artifact => return artifact
  | none => throw (.artifactNotFound artifactId)

/-- A method has changed the registered artifact. -/
def keep (artifact : Artifact) : ManagerPy ρ Unit :=
  onRegistry (modify (fun held => registry.changed held artifact))

def createArtifact (request : CreateArtifact) : ManagerPy ρ Artifact := do
  if registry.registered (← get).service.registry request.artifactId then
    throw (.artifactAlreadyExists request.artifactId)
  let artifact ← check request.artifact
  onRegistry (registry.register artifact)
  emit (artifactCreated artifact request.producerModule)
  return artifact

def validateArtifact (artifactId expectedChecksum : String) (now : Timestamp) :
    ManagerPy ρ Bool := do
  let artifact ← getOrRaise registry artifactId
  if ¬ artifact.validateChecksum expectedChecksum then
    throw (.artifactChecksum artifactId expectedChecksum artifact.checksum)
  keep registry (← check (artifact.markAvailable now))
  emit (artifactValidated artifactId)
  return true

/-- The registered artifact makes a transition, which is announced. -/
def moving (artifactId : String) (method : Artifact → Except PyExc Artifact) (event : EventObject) :
    ManagerPy ρ Unit := do
  let artifact ← getOrRaise registry artifactId
  keep registry (← check (method artifact))
  emit event

def supersedeArtifact (artifactId : String) (now : Timestamp) : ManagerPy ρ Unit :=
  moving registry artifactId (fun artifact => artifact.supersede now) (artifactSuperseded artifactId)

def archiveArtifact (artifactId : String) (now : Timestamp) : ManagerPy ρ Unit :=
  moving registry artifactId (fun artifact => artifact.archive now) (artifactArchived artifactId)

def deleteArtifact (order : SetOrder) (artifactId : String) (now : Timestamp) :
    ManagerPy ρ Unit := do
  let artifact ← getOrRaise registry artifactId
  keep registry (artifact.delete now)
  onGraph (DependencyGraph.remove order artifactId)
  emit (artifactDeleted artifactId)

def addDependency (order : SetOrder) (parentId childId relationship : String) :
    ManagerPy ρ Unit := do
  let _ ← getOrRaise registry parentId
  let _ ← getOrRaise registry childId
  onGraph (DependencyGraph.add order ⟨parentId, childId, relationship, ""⟩)

end ArtifactManager

/-- The calls that change what is managed, with the readings of the clock and the set orders. -/
inductive ManagerCall
  | createArtifact (request : CreateArtifact)
  | validateArtifact (artifactId expectedChecksum : String) (now : Timestamp)
  | supersedeArtifact (artifactId : String) (now : Timestamp)
  | archiveArtifact (artifactId : String) (now : Timestamp)
  | deleteArtifact (order : SetOrder) (artifactId : String) (now : Timestamp)
  | addDependency (order : SetOrder) (parentId childId relationship : String)

inductive ManagerAnswer
  | artifact (artifact : Artifact)
  | valid (answer : Bool)
  | unit

def ManagerCall.program (registry : ArtifactRegistry ρ) : ManagerCall → ManagerPy ρ ManagerAnswer
  | .createArtifact request => .artifact <$> ArtifactManager.createArtifact registry request
  | .validateArtifact artifactId expectedChecksum now =>
      .valid <$> ArtifactManager.validateArtifact registry artifactId expectedChecksum now
  | .supersedeArtifact artifactId now =>
      (fun _ => .unit) <$> ArtifactManager.supersedeArtifact registry artifactId now
  | .archiveArtifact artifactId now =>
      (fun _ => .unit) <$> ArtifactManager.archiveArtifact registry artifactId now
  | .deleteArtifact order artifactId now =>
      (fun _ => .unit) <$> ArtifactManager.deleteArtifact registry order artifactId now
  | .addDependency order parentId childId relationship =>
      (fun _ => .unit) <$> ArtifactManager.addDependency registry order parentId childId relationship

/-- A manager without an event bus. -/
def managerStep (registry : ArtifactRegistry ρ) (state : ManagerState ρ)
    (managerCall : ManagerCall) : Except PyExc ManagerAnswer × ManagerState ρ :=
  let ended := call (managerCall.program registry) ⟨state, none⟩
  (ended.1, ended.2.service)

end LexMind.Artifacts
