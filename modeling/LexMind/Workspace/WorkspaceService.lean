import LexMind.Lib.Regex
import LexMind.Lib.Run
import LexMind.Python

set_option autoImplicit false

namespace LexMind.WorkspaceServices

open Lib

section Entity

/-- The domain entity; its name is not blank. -/
structure Workspace where
  id : String
  createdAt : Timestamp
  updatedAt : Timestamp
  name : String
  description : String
  ownerId : String
  isActive : Bool
  documentCount : Int
  caseCount : Int
  named : pyStrip name ≠ ""

/-- A row of the `workspaces` table. -/
structure WorkspaceRow where
  id : String
  name : String
  description : String
  ownerId : String
  isActive : Bool
  documentCount : Int
  caseCount : Int
  createdAt : Timestamp
  updatedAt : Timestamp
deriving DecidableEq, Repr

/-- The constructor, with its check of the name, from the columns of a row. -/
def toDomain (row : WorkspaceRow) : Except PyExc Workspace :=
  if named : pyStrip row.name = "" then
    .error (.invariantViolation "Workspace name must not be empty")
  else
    .ok {
      id := row.id
      createdAt := row.createdAt
      updatedAt := row.updatedAt
      name := row.name
      description := row.description
      ownerId := row.ownerId
      isActive := row.isActive
      documentCount := row.documentCount
      caseCount := row.caseCount
      named := named }

def rowOf (workspace : Workspace) : WorkspaceRow where
  id := workspace.id
  name := workspace.name
  description := workspace.description
  ownerId := workspace.ownerId
  isActive := workspace.isActive
  documentCount := workspace.documentCount
  caseCount := workspace.caseCount
  createdAt := workspace.createdAt
  updatedAt := workspace.updatedAt

namespace Workspace

variable (workspace : Workspace) (now : Timestamp)

def touch : Workspace := { workspace with updatedAt := now }

def activate : Workspace := { workspace with isActive := true }.touch now

def deactivate : Workspace := { workspace with isActive := false }.touch now

end Workspace

end Entity

section Repository

/-- The table: the id is its primary key, and no two rows have one name, active or not. -/
structure WorkspaceTable where
  rows : Keyed WorkspaceRow.id
  unique : ∀ first ∈ rows.rows, ∀ second ∈ rows.rows, first.name = second.name → first = second

namespace WorkspaceTable

def empty : WorkspaceTable := ⟨.empty, fun _ inside => absurd inside List.not_mem_nil⟩

/-- No other row has the name of this one. -/
def NameFree (table : WorkspaceTable) (row : WorkspaceRow) : Prop :=
  ∀ other ∈ table.rows.rows, other.id ≠ row.id → other.name ≠ row.name

instance (table : WorkspaceTable) (row : WorkspaceRow) : Decidable (table.NameFree row) :=
  inferInstanceAs (Decidable (∀ other ∈ table.rows.rows, other.id ≠ row.id → other.name ≠ row.name))

def put (table : WorkspaceTable) (row : WorkspaceRow) (free : table.NameFree row) :
    WorkspaceTable where
  rows := table.rows.put row
  unique := by
    intro first inside second inside' same
    rcases (Keyed.mem_put _ _ _).mp inside with rfl | ⟨old, apart⟩
    · rcases (Keyed.mem_put _ _ _).mp inside' with rfl | ⟨old', apart'⟩
      · rfl
      · exact absurd same.symm (free second old' apart')
    · rcases (Keyed.mem_put _ _ _).mp inside' with rfl | ⟨old', apart'⟩
      · exact absurd same (free first old apart)
      · exact table.unique first old second old' same

def erase (table : WorkspaceTable) (workspaceId : String) : WorkspaceTable where
  rows := table.rows.erase workspaceId
  unique := by
    intro first inside second inside' same
    exact table.unique first ((Keyed.mem_erase _ _ _).mp inside).1 second
      ((Keyed.mem_erase _ _ _).mp inside').1 same

end WorkspaceTable

abbrev WorkspacePy (α : Type) := Py WorkspaceTable α

/-- Write a row in place of the one with its id, as far as the unique constraint lets it. -/
def flush (row : WorkspaceRow) : WorkspacePy Unit := do
  let table ← get
  if free : table.NameFree row then
    set (table.put row free)
  else
    throw (.integrityError "workspaces" "name")

namespace SqliteWorkspaceRepositoryImpl

def create (workspace : Workspace) : WorkspacePy Workspace := do
  if (← get).rows.contains workspace.id then
    throw (.integrityError "workspaces" "id")
  flush (rowOf workspace)
  return workspace

/-- The id and the creation time of the row stay. -/
def update (workspace : Workspace) : WorkspacePy Workspace := do
  match (← get).rows.find? workspace.id with
  | none => throw (.entityNotFound "Workspace" workspace.id)
  | some row =>
      flush { rowOf workspace with id := row.id, createdAt := row.createdAt }
      return workspace

def found (row : Option WorkspaceRow) : WorkspacePy (Option Workspace) :=
  match row with
  | none => return none
  | some row => do
      let workspace ← check (toDomain row)
      return some workspace

def getById (workspaceId : String) : WorkspacePy (Option Workspace) := do
  found (((← get).rows.find? workspaceId).filter (fun row => row.isActive))

def getByIdAny (workspaceId : String) : WorkspacePy (Option Workspace) := do
  found ((← get).rows.find? workspaceId)

def getByName (name : String) : WorkspacePy (Option Workspace) := do
  found ((← get).rows.rows.find? (fun row => row.name = name ∧ row.isActive = true))

/-- Only the status and the time stamp of the row change. -/
def delete (workspaceId : String) (now : Timestamp) : WorkspacePy Unit := do
  match (← get).rows.find? workspaceId with
  | none => throw (.entityNotFound "Workspace" workspaceId)
  | some row => flush { row with isActive := false, updatedAt := now }

def hardDelete (workspaceId : String) : WorkspacePy Unit := do
  match (← get).rows.find? workspaceId with
  | none => throw (.entityNotFound "Workspace" workspaceId)
  | some _ => modify (fun table => table.erase workspaceId)

end SqliteWorkspaceRepositoryImpl

end Repository

open SqliteWorkspaceRepositoryImpl

namespace WorkspaceValidator

/-- `[a-zA-Z0-9_\- ]`. -/
def nameChar (char : Char) : Bool :=
  char.isAlphanum || char = '_' || char = '-' || char = ' '

/-- `^[a-zA-Z0-9_\- ]+$`, which also matches before a final line break. -/
def namePattern (text : List Char) : Bool := (Regex.plus (.one nameChar)).acceptsLine '\n' text

def maxNameLength : Nat := 255

def validateName (name : String) : Except PyExc Unit :=
  if name = "" ∨ pyStrip name = "" then
    .error (.workspaceValidation "Workspace name must not be empty" [])
  else if maxNameLength < name.length then
    .error (.workspaceValidation "Workspace name must not exceed 255 characters" [])
  else if ¬ namePattern (pyStrip name).toList then
    .error (.workspaceValidation
      "Workspace name may only contain letters, digits, hyphens, underscores, and spaces" [])
  else .ok ()

def validateUniqueness (name : String) : WorkspacePy Unit := do
  if (← getByName name).isSome then
    throw (.workspaceValidation ("A workspace named '" ++ name ++ "' already exists") [])

def validateAll (name : String) : WorkspacePy Unit := do
  check (validateName name)
  validateUniqueness name

end WorkspaceValidator

/-- What the defaults of a new entity give. -/
structure Generated where
  id : String
  createdAt : Timestamp
  updatedAt : Timestamp

namespace WorkspaceInitializer

def createWorkspace (name description ownerId : String) (generated : Generated) :
    WorkspacePy Workspace := do
  let workspace ← check (toDomain ⟨generated.id, name, description, ownerId, true, 0, 0,
    generated.createdAt, generated.updatedAt⟩)
  create workspace

def initializeMetadata (workspaceId : String) (now : Timestamp) : WorkspacePy Workspace := do
  match ← getById workspaceId with
  | none => throw (.entityNotFound "Workspace" workspaceId)
  | some workspace => update (workspace.touch now)

end WorkspaceInitializer

namespace WorkspaceLifecycleManager

def load (workspaceId : String) : WorkspacePy Workspace := do
  match ← getByIdAny workspaceId with
  | none => throw (.entityNotFound "Workspace" workspaceId)
  | some workspace => return workspace

/-- What `open`, `close` and `archive` do; `published` is what the event bus answers, and there may
be none. -/
def change (turn : Workspace → Workspace) (workspaceId : String) (published : Except PyExc Unit) :
    WorkspacePy Workspace := do
  let workspace ← load workspaceId
  let workspace ← update (turn workspace)
  check published
  return workspace

def openWorkspace (workspaceId : String) (now : Timestamp) : Except PyExc Unit → WorkspacePy Workspace :=
  change (fun workspace => workspace.activate now) workspaceId

def close (workspaceId : String) (now : Timestamp) : Except PyExc Unit → WorkspacePy Workspace :=
  change (fun workspace => workspace.deactivate now) workspaceId

def archive (workspaceId : String) (now : Timestamp) : Except PyExc Unit → WorkspacePy Workspace :=
  change (fun workspace => workspace.deactivate now) workspaceId

def delete (workspaceId : String) (published : Except PyExc Unit) : WorkspacePy Unit := do
  let _ ← load workspaceId
  hardDelete workspaceId
  check published

end WorkspaceLifecycleManager

namespace WorkspaceService

def create (name description ownerId : String) (generated : Generated)
    (published : Except PyExc Unit) : WorkspacePy Workspace := do
  WorkspaceValidator.validateAll name
  let workspace ← WorkspaceInitializer.createWorkspace name description ownerId generated
  check published
  return workspace

end WorkspaceService

/-- The calls of the service, and the soft delete of the repository. -/
inductive ServiceCall
  | create (name description ownerId : String) (generated : Generated)
      (published : Except PyExc Unit)
  | openWorkspace (workspaceId : String) (now : Timestamp) (published : Except PyExc Unit)
  | close (workspaceId : String) (now : Timestamp) (published : Except PyExc Unit)
  | archive (workspaceId : String) (now : Timestamp) (published : Except PyExc Unit)
  | delete (workspaceId : String) (published : Except PyExc Unit)
  | initializeMetadata (workspaceId : String) (now : Timestamp)
  | softDelete (workspaceId : String) (now : Timestamp)

def ServiceCall.program : ServiceCall → WorkspacePy (Option Workspace)
  | .create name description ownerId generated published =>
      some <$> WorkspaceService.create name description ownerId generated published
  | .openWorkspace workspaceId now published =>
      some <$> WorkspaceLifecycleManager.openWorkspace workspaceId now published
  | .close workspaceId now published =>
      some <$> WorkspaceLifecycleManager.close workspaceId now published
  | .archive workspaceId now published =>
      some <$> WorkspaceLifecycleManager.archive workspaceId now published
  | .delete workspaceId published =>
      (fun _ => none) <$> WorkspaceLifecycleManager.delete workspaceId published
  | .initializeMetadata workspaceId now =>
      some <$> WorkspaceInitializer.initializeMetadata workspaceId now
  | .softDelete workspaceId now =>
      (fun _ => none) <$> SqliteWorkspaceRepositoryImpl.delete workspaceId now

def serviceStep (table : WorkspaceTable) (serviceCall : ServiceCall) :
    Except PyExc (Option Workspace) × WorkspaceTable :=
  call serviceCall.program table

end LexMind.WorkspaceServices
