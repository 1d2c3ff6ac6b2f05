import LexMind.Python

set_option autoImplicit false

namespace LexMind.Workspaces

open Lib

/-- Lifecycle status of a workspace. -/
inductive WorkspaceStatus
  | created
  | opened
  | active
  | readOnly
  | locked
  | closed
  | archived
  | corrupted
deriving DecidableEq, Repr

def WorkspaceStatus.value : WorkspaceStatus → String
  | .created => "created"
  | .opened => "open"
  | .active => "active"
  | .readOnly => "read_only"
  | .locked => "locked"
  | .closed => "closed"
  | .archived => "archived"
  | .corrupted => "corrupted"

def validTransitions : WorkspaceStatus → List WorkspaceStatus
  | .created => [.opened]
  | .opened => [.active, .readOnly, .closed]
  | .active => [.readOnly, .locked, .closed]
  | .readOnly => [.active, .closed]
  | .locked => [.active]
  | .closed => [.archived, .opened]
  | .archived => [.opened]
  | .corrupted => []

def canTransition (source target : WorkspaceStatus) : Bool := target ∈ validTransitions source

structure Workspace where
  id : String
  status : WorkspaceStatus
deriving DecidableEq, Repr

/-- The details are a text, so the constructor of the exception joins its characters. -/
def Workspace.transition (workspace : Workspace) (target : WorkspaceStatus) :
    Except PyExc Workspace :=
  if canTransition workspace.status target then .ok { workspace with status := target }
  else .error (.workspaceValidation workspace.id
    (("cannot transition from '" ++ workspace.status.value ++ "' to '" ++ target.value ++
      "'").toList.map String.singleton))

/-- How a call ends that does not return: it raises, or waits for a lock that nobody releases. -/
inductive Halt
  | raised (exc : PyExc)
  | blocked
deriving DecidableEq, Repr

def raising {α : Type} (result : Except PyExc α) : Except Halt α := result.mapError .raised

@[simp] theorem raising_ok {α : Type} (value : α) :
    raising (.ok value : Except PyExc α) = .ok value := rfl

@[simp] theorem raising_error {α : Type} (exc : PyExc) :
    raising (.error exc : Except PyExc α) = .error (.raised exc) := rfl

/-- A `threading.Lock` of the table `_locks`. -/
structure Lock where
  workspaceId : String
  locked : Bool
deriving DecidableEq, Repr

structure Holding where
  workspaceId : String
  owner : String
deriving DecidableEq, Repr

structure SingleProcessLock where
  locks : Keyed Lock.workspaceId
  held : Keyed Holding.workspaceId
  owner : String

namespace SingleProcessLock

/-- A lock object as its constructor makes it, by the thread of this identifier. -/
def create (owner : String) : SingleProcessLock := ⟨.empty, .empty, owner⟩

def isLocked (lock : SingleProcessLock) (workspaceId : String) : Bool :=
  lock.held.contains workspaceId

/-- The timeout is the default, which waits for as long as it takes. -/
def acquire (workspaceId : String) : EStateM Halt SingleProcessLock Bool := do
  if ¬ (← get).locks.contains workspaceId then
    modify (fun lock => { lock with locks := lock.locks.put ⟨workspaceId, false⟩ })
  if (← get).locks.find? workspaceId = some ⟨workspaceId, true⟩ then throw .blocked
  modify (fun lock => { lock with locks := lock.locks.put ⟨workspaceId, true⟩ })
  modify (fun lock => { lock with held := lock.held.put ⟨workspaceId, lock.owner⟩ })
  return true

def release (workspaceId : String) : EStateM Halt SingleProcessLock Unit := do
  match (← get).locks.find? workspaceId with
  | none => return
  | some entry =>
      modify (fun lock => { lock with held := lock.held.erase workspaceId })
      if ¬ entry.locked then throw (.raised (.runtimeError "release unlocked lock"))
      modify (fun lock => { lock with locks := lock.locks.put ⟨workspaceId, false⟩ })

end SingleProcessLock

/-- An in-memory map of workspace ids to open workspaces. -/
structure WorkspaceRegistry (ρ : Type) where
  register : ρ → Workspace → ρ
  unregister : ρ → String → ρ
  get : ρ → String → Option Workspace
  isRegistered : ρ → String → Bool
  get_id : ∀ registry id workspace, get registry id = some workspace → workspace.id = id
  get_register : ∀ registry workspace id,
    get (register registry workspace) id =
      if workspace.id = id then some workspace else get registry id
  get_unregister : ∀ registry removed id,
    get (unregister registry removed) id = if removed = id then none else get registry id
  isRegistered_eq : ∀ registry id, isRegistered registry id = (get registry id).isSome

/-- What the manager holds and changes; the lock is optional. -/
structure ManagerState (ρ : Type) where
  registry : ρ
  lock : Option SingleProcessLock

section Manager

variable {ρ : Type}

abbrev ManagerPy (ρ α : Type) := EStateM Halt (ManagerState ρ) α

/-- A call of the lock, which answers `unlocked` where there is none. -/
def onLock {α : Type} (unlocked : α) (program : EStateM Halt SingleProcessLock α) :
    ManagerPy ρ α := do
  match (← get).lock with
  | none => return unlocked
  | some lock => onPart (fun _ => lock) (fun state next => { state with lock := some next }) program

namespace WorkspaceManager

variable (service : WorkspaceRegistry ρ)

/-- `made` is what the factory answers. -/
def createWorkspace (made : Except PyExc Workspace) : ManagerPy ρ Workspace := do
  let workspace ← check (raising made)
  modify (fun state => { state with registry := service.register state.registry workspace })
  return workspace

/-- `loaded` is what the loader answers. -/
def openWorkspace (workspaceId : String) (loaded : Except PyExc Workspace) :
    ManagerPy ρ Workspace := do
  if service.isRegistered (← get).registry workspaceId then
    throw (.raised (.workspaceAlreadyOpen workspaceId))
  if ¬ (← onLock true (SingleProcessLock.acquire workspaceId)) then
    throw (.raised (.workspaceLock workspaceId "could not acquire lock"))
  let workspace ← check (raising loaded)
  let opened ← check (raising (workspace.transition .opened))
  modify (fun state => { state with registry := service.register state.registry opened })
  return opened

/-- What `close_workspace` and `archive_workspace` do: the workspace that changes its status is
taken from the registry, and its lock is released. -/
def leave (target : WorkspaceStatus) (workspaceId : String) : ManagerPy ρ Unit := do
  match service.get (← get).registry workspaceId with
  | none => throw (.raised (.workspaceNotFound workspaceId))
  | some workspace =>
      let _ ← check (raising (workspace.transition target))
      modify (fun state => { state with registry := service.unregister state.registry workspaceId })
      onLock () (SingleProcessLock.release workspaceId)

def closeWorkspace : String → ManagerPy ρ Unit := leave service .closed

def archiveWorkspace : String → ManagerPy ρ Unit := leave service .archived

def deleteWorkspace (workspaceId : String) : ManagerPy ρ Unit := do
  match service.get (← get).registry workspaceId with
  | none => return
  | some _ =>
      modify (fun state => { state with registry := service.unregister state.registry workspaceId })
      onLock () (SingleProcessLock.release workspaceId)

end WorkspaceManager

/-- A caller changes the status of an open workspace, by the workspace's own methods. -/
def changeStatus (service : WorkspaceRegistry ρ) (workspaceId : String) (status : WorkspaceStatus) :
    ManagerPy ρ Unit :=
  modify (fun state =>
    match service.get state.registry workspaceId with
    | none => state
    | some workspace =>
        { state with registry := service.register state.registry { workspace with status } })

/-- An operation publishes its event last; `published` is what the event bus answers, and there may
be none. -/
def publishing {α : Type} (program : ManagerPy ρ α) (published : Except PyExc Unit) :
    ManagerPy ρ α := do
  let value ← program
  check (raising published)
  return value

/-- The publication comes after all changes. -/
theorem call_publishing {α : Type} (program : ManagerPy ρ α) (published : Except PyExc Unit)
    (state : ManagerState ρ) :
    call (publishing program published) state =
      ((call program state).1.bind (fun value => (raising published).map (fun _ => value)),
        (call program state).2) := by
  rw [publishing, call_bind]
  rcases call program state with ⟨_ | value, next⟩
  · rfl
  · simp [Except.bind]

theorem publishing_returns_iff {α : Type} {program : ManagerPy ρ α} {published : Except PyExc Unit}
    {state next : ManagerState ρ} {value : α} :
    call (publishing program published) state = (.ok value, next) ↔
      call program state = (.ok value, next) ∧ published = .ok () := by
  rw [call_publishing]
  rcases call program state with ⟨_ | answer, left⟩
  · simp [Except.bind]
  · cases published <;> simp [Except.bind]

inductive ManagerCall
  | createWorkspace (made : Except PyExc Workspace)
  | openWorkspace (workspaceId : String) (loaded : Except PyExc Workspace)
  | closeWorkspace (workspaceId : String)
  | archiveWorkspace (workspaceId : String)
  | deleteWorkspace (workspaceId : String)
  | setStatus (workspaceId : String) (status : WorkspaceStatus)

def ManagerCall.program (service : WorkspaceRegistry ρ) : ManagerCall → ManagerPy ρ (Option Workspace)
  | .createWorkspace made => some <$> WorkspaceManager.createWorkspace service made
  | .openWorkspace workspaceId loaded =>
      some <$> WorkspaceManager.openWorkspace service workspaceId loaded
  | .closeWorkspace workspaceId =>
      (fun _ => none) <$> WorkspaceManager.closeWorkspace service workspaceId
  | .archiveWorkspace workspaceId =>
      (fun _ => none) <$> WorkspaceManager.archiveWorkspace service workspaceId
  | .deleteWorkspace workspaceId =>
      (fun _ => none) <$> WorkspaceManager.deleteWorkspace service workspaceId
  | .setStatus workspaceId status => (fun _ => none) <$> changeStatus service workspaceId status

def managerStep (service : WorkspaceRegistry ρ) (state : ManagerState ρ)
    (managerCall : ManagerCall) : Except Halt (Option Workspace) × ManagerState ρ :=
  call (managerCall.program service) state

/-- A call of the manager with its event bus. A workspace's own methods publish nothing. -/
def ManagerCall.announced (service : WorkspaceRegistry ρ) :
    ManagerCall → Except PyExc Unit → ManagerPy ρ (Option Workspace)
  | .setStatus workspaceId status, _ => (ManagerCall.setStatus workspaceId status).program service
  | managerCall, published => publishing (managerCall.program service) published

def announcedStep (service : WorkspaceRegistry ρ) (state : ManagerState ρ)
    (announced : ManagerCall × Except PyExc Unit) :
    Except Halt (Option Workspace) × ManagerState ρ :=
  call (announced.1.announced service announced.2) state

end Manager

/-- A registry that keeps a dictionary. -/
def dictRegistry : WorkspaceRegistry (Keyed Workspace.id) where
  register := Keyed.put
  unregister := Keyed.erase
  get := Keyed.find?
  isRegistered := Keyed.contains
  get_id := fun _ _ _ found => Keyed.key_of_find? found
  get_register := Keyed.find?_put
  get_unregister := by
    intro registry removed id
    rw [Keyed.find?_erase]
    simp only [eq_comm]
  isRegistered_eq := fun _ _ => rfl

end LexMind.Workspaces
