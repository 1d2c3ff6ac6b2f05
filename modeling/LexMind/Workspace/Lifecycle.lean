import LexMind.Workspace.LockDiscipline

set_option autoImplicit false

/- Which steps of a workspace's life the manager lets it take. -/
namespace LexMind.Workspaces

open Lib

/-- A workspace in one of these must be closed before it is deleted. -/
def WorkspaceStatus.inUse : WorkspaceStatus → Bool
  | .opened | .active | .readOnly => true
  | _ => false

variable {ρ : Type} (service : WorkspaceRegistry ρ)

/-- The workspace can be opened, the loader returning it in its last status, and then closed. -/
def Openable (state : ManagerState ρ) (workspace : Workspace) : Prop :=
  ∃ opened middle,
    managerStep service state (.openWorkspace workspace.id (.ok workspace)) =
      (.ok (some opened), middle) ∧
    (managerStep service middle (.closeWorkspace workspace.id)).1 = .ok none

/-- What a call owes to the life of a workspace. -/
def ServesLifecycle (state : ManagerState ρ) : ManagerCall × Except PyExc Unit → Prop
  | (.createWorkspace made, published) => ∀ workspace next,
      announcedStep service state (.createWorkspace made, published) = (.ok (some workspace), next) →
        Openable service next workspace
  | (.closeWorkspace workspaceId, published) => ∀ next,
      announcedStep service state (.closeWorkspace workspaceId, published) = (.ok none, next) →
        (managerStep service next (.archiveWorkspace workspaceId)).1 = .ok none
  | (.deleteWorkspace workspaceId, published) => ∀ id workspace,
      service.get state.registry id = some workspace → workspace.status.inUse = true →
        (service.get (announcedStep service state
          (.deleteWorkspace workspaceId, published)).2.registry id).isSome = true
  | _ => True

/-- A workspace that is registered can change to the status, and its lock is not a free one. -/
def CanLeave (state : ManagerState ρ) (target : WorkspaceStatus) (workspaceId : String) : Prop :=
  (∃ workspace, service.get state.registry workspaceId = some workspace ∧
    canTransition workspace.status target = true) ∧
  ∀ lock, state.lock = some lock → lock.locks.find? workspaceId ≠ some ⟨workspaceId, false⟩

/-- No workspace is created or closed, and none in use is deleted. -/
def Sidesteps (state : ManagerState ρ) : ManagerCall × Except PyExc Unit → Prop
  | (.createWorkspace made, published) => ¬ (made.isOk = true ∧ published = .ok ())
  | (.closeWorkspace workspaceId, published) =>
      ¬ (CanLeave service state .closed workspaceId ∧ published = .ok ())
  | (.deleteWorkspace workspaceId, _) => ∀ workspace,
      service.get state.registry workspaceId = some workspace → workspace.status.inUse = false
  | _ => True

variable {service} {state next : ManagerState ρ} {workspaceId : String}

section Leaving

@[simp] theorem onLock_registry {α : Type} (unlocked : α) (program : EStateM Halt SingleProcessLock α)
    (state : ManagerState ρ) :
    (call (onLock unlocked program) state).2.registry = state.registry := by
  obtain ⟨registry, _ | lock⟩ := state
  · rfl
  · rw [call_onLock]

theorem release_returns_iff (lock : SingleProcessLock) :
    (call (SingleProcessLock.release workspaceId) lock).1 = .ok () ↔
      lock.locks.find? workspaceId ≠ some ⟨workspaceId, false⟩ := by
  unfold SingleProcessLock.release
  cases found : lock.locks.find? workspaceId with
  | none => simp [found]
  | some entry =>
      obtain ⟨id, locked⟩ := entry
      obtain rfl : id = workspaceId := Keyed.key_of_find? found
      cases locked with
      | true => simp [found]
      | false => simp [found]

theorem unlock_returns_iff :
    (call (onLock () (SingleProcessLock.release workspaceId)) state).1 = .ok () ↔
      ∀ lock, state.lock = some lock →
        lock.locks.find? workspaceId ≠ some ⟨workspaceId, false⟩ := by
  obtain ⟨registry, _ | lock⟩ := state
  · exact ⟨fun _ _ => nofun, fun _ => rfl⟩
  · rw [call_onLock, release_returns_iff]
    simp

theorem leave_returns_iff (target : WorkspaceStatus) :
    (call (WorkspaceManager.leave service target workspaceId) state).1 = .ok () ↔
      CanLeave service state target workspaceId := by
  unfold WorkspaceManager.leave CanLeave
  cases found : service.get state.registry workspaceId with
  | none => simp [found]
  | some workspace =>
      by_cases valid : canTransition workspace.status target = true
      · simpa [found, Workspace.transition, valid] using unlock_returns_iff
      · simp [found, Workspace.transition, valid]

/-- A workspace that has left is not registered any more. -/
theorem leave_unregisters {target : WorkspaceStatus}
    (left : call (WorkspaceManager.leave service target workspaceId) state = (.ok (), next)) :
    service.get next.registry workspaceId = none := by
  obtain rfl : (call (WorkspaceManager.leave service target workspaceId) state).2 = next :=
    congrArg Prod.snd left
  unfold WorkspaceManager.leave at left ⊢
  cases found : service.get state.registry workspaceId with
  | none => simp [found]
  | some workspace =>
      by_cases valid : canTransition workspace.status target = true
      · simp [found, Workspace.transition, valid, service.get_unregister]
      · simp [found, Workspace.transition, valid] at left

theorem closeWorkspace_returns_iff :
    managerStep service state (.closeWorkspace workspaceId) = (.ok none, next) ↔
      call (WorkspaceManager.leave service .closed workspaceId) state = (.ok (), next) := by
  rw [managerStep, ManagerCall.program, WorkspaceManager.closeWorkspace, call_map]
  rcases call (WorkspaceManager.leave service .closed workspaceId) state with ⟨_ | done, left⟩
  · simp
  · simp

/-- An archive takes its workspace from the registry. -/
theorem archive_refused (absent : service.get state.registry workspaceId = none) :
    managerStep service state (.archiveWorkspace workspaceId) =
      (.error (.raised (.workspaceNotFound workspaceId)), state) := by
  simp [managerStep, ManagerCall.program, WorkspaceManager.archiveWorkspace, WorkspaceManager.leave,
    absent]

end Leaving

section Creating

theorem createWorkspace_made (workspace : Workspace) :
    managerStep service state (.createWorkspace (.ok workspace)) =
      (.ok (some workspace),
        { state with registry := service.register state.registry workspace }) := by
  simp [managerStep, ManagerCall.program, WorkspaceManager.createWorkspace]

theorem createWorkspace_unmade (exc : PyExc) :
    managerStep service state (.createWorkspace (.error exc)) = (.error (.raised exc), state) := by
  simp [managerStep, ManagerCall.program, WorkspaceManager.createWorkspace]

/-- A workspace that has been created is registered, and an open is refused. -/
theorem not_openable {workspace : Workspace}
    (registered : service.get state.registry workspace.id = some workspace) :
    ¬ Openable service state workspace := by
  have present : service.isRegistered state.registry workspace.id = true := by
    rw [service.isRegistered_eq, registered]
    rfl
  rintro ⟨opened, middle, returned, _⟩
  rw [open_refused present] at returned
  cases returned

end Creating

/-- A deletion looks at no status. -/
theorem deleteWorkspace_get (published : Except PyExc Unit) (id : String) :
    service.get (announcedStep service state (.deleteWorkspace workspaceId, published)).2.registry id =
      if workspaceId = id then none else service.get state.registry id := by
  unfold announcedStep ManagerCall.announced
  rw [call_publishing]
  unfold ManagerCall.program WorkspaceManager.deleteWorkspace
  cases found : service.get state.registry workspaceId with
  | none =>
      by_cases same : workspaceId = id
      · simp [← same, found]
      · simp [found, same]
  | some workspace => simp [found, service.get_unregister]

section Steps

variable (service) (state) (published : Except PyExc Unit)

theorem createWorkspace_serves_iff (made : Except PyExc Workspace) :
    ServesLifecycle service state (.createWorkspace made, published) ↔
      Sidesteps service state (.createWorkspace made, published) := by
  simp only [ServesLifecycle, Sidesteps, announcedStep, ManagerCall.announced, publishing_returns_iff]
  constructor
  · rintro serves ⟨isMade, done⟩
    obtain ⟨workspace, rfl⟩ := (isOk_iff made).mp isMade
    refine not_openable ?_ (serves workspace _ ⟨createWorkspace_made workspace, done⟩)
    rw [service.get_register, if_pos rfl]
  · rintro sidesteps workspace next ⟨returned, done⟩
    cases made with
    | error exc =>
        rw [← managerStep, createWorkspace_unmade] at returned
        cases returned
    | ok made => exact absurd ⟨rfl, done⟩ sidesteps

theorem closeWorkspace_serves_iff (workspaceId : String) :
    ServesLifecycle service state (.closeWorkspace workspaceId, published) ↔
      Sidesteps service state (.closeWorkspace workspaceId, published) := by
  simp only [ServesLifecycle, Sidesteps, announcedStep, ManagerCall.announced, publishing_returns_iff]
  constructor
  · rintro serves ⟨leaves, done⟩
    have left : call (WorkspaceManager.leave service .closed workspaceId) state =
        (.ok (), (call (WorkspaceManager.leave service .closed workspaceId) state).2) :=
      Prod.ext ((leave_returns_iff .closed).mpr leaves) rfl
    have archived := serves _ ⟨closeWorkspace_returns_iff.mpr left, done⟩
    rw [archive_refused (leave_unregisters left)] at archived
    cases archived
  · rintro sidesteps next ⟨returned, done⟩
    have left := closeWorkspace_returns_iff.mp returned
    have leaves := (leave_returns_iff .closed).mp (congrArg Prod.fst left)
    exact absurd ⟨leaves, done⟩ sidesteps

theorem deleteWorkspace_serves_iff (workspaceId : String) :
    ServesLifecycle service state (.deleteWorkspace workspaceId, published) ↔
      Sidesteps service state (.deleteWorkspace workspaceId, published) := by
  simp only [ServesLifecycle, Sidesteps, deleteWorkspace_get]
  constructor
  · intro serves workspace found
    by_contra inUse
    have kept := serves workspaceId workspace found (by simpa using inUse)
    rw [if_pos rfl] at kept
    cases kept
  · intro sidesteps id workspace found inUse
    by_cases same : workspaceId = id
    · rw [sidesteps workspace (same ▸ found)] at inUse
      cases inUse
    · rw [if_neg same, found]
      rfl

theorem serves_iff (announced : ManagerCall × Except PyExc Unit) :
    ServesLifecycle service state announced ↔ Sidesteps service state announced := by
  obtain ⟨managerCall, published⟩ := announced
  cases managerCall with
  | createWorkspace made => exact createWorkspace_serves_iff service state published made
  | closeWorkspace workspaceId => exact closeWorkspace_serves_iff service state published workspaceId
  | deleteWorkspace workspaceId => exact deleteWorkspace_serves_iff service state published workspaceId
  | openWorkspace workspaceId loaded => exact Iff.rfl
  | archiveWorkspace workspaceId => exact Iff.rfl
  | setStatus workspaceId status => exact Iff.rfl

end Steps

/-- From any state, a run serves the life of its workspaces exactly when it creates none, closes
none and deletes none that is in use. -/
theorem workspace_lifecycle_iff (service : WorkspaceRegistry ρ) (state : ManagerState ρ)
    (calls : List (ManagerCall × Except PyExc Unit)) :
    Along (announcedStep service) (ServesLifecycle service) state calls ↔
      Along (announcedStep service) (Sidesteps service) state calls :=
  along_congr (serves_iff service) _ _

/-- A workspace is created and cannot be opened; one is closed and cannot be archived; one that is
open is deleted. -/
theorem workspace_lifecycle_broken :
    ¬ Along (announcedStep dictRegistry) (ServesLifecycle dictRegistry) fresh
      [(.createWorkspace (.ok ⟨"lawFirm", .created⟩), .ok ())] ∧
    ¬ Along (announcedStep dictRegistry) (ServesLifecycle dictRegistry) fresh
      [(.openWorkspace "lawFirm" (.ok ⟨"lawFirm", .created⟩), .ok ()),
        (.closeWorkspace "lawFirm", .ok ())] ∧
    ¬ Along (announcedStep dictRegistry) (ServesLifecycle dictRegistry) fresh
      [(.openWorkspace "lawFirm" (.ok ⟨"lawFirm", .created⟩), .ok ()),
        (.deleteWorkspace "lawFirm", .ok ())] := by
  refine ⟨?_, ?_, ?_⟩
  · rintro ⟨serves, _⟩
    obtain ⟨opened, middle, returned, _⟩ := serves _ _ rfl
    cases congrArg Prod.fst returned
  · rintro ⟨_, serves, _⟩
    cases serves _ rfl
  · rintro ⟨_, serves, _⟩
    cases serves "lawFirm" _ rfl rfl

end LexMind.Workspaces
