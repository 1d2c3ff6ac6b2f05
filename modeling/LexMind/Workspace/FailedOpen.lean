import LexMind.Workspace.LockDiscipline

set_option autoImplicit false

/- What an open that raises leaves behind. -/
namespace LexMind.Workspaces

open Lib

variable {ρ : Type}

/-- The lock object of this workspace is locked, so that an acquire of it waits. -/
def ManagerState.Shut (state : ManagerState ρ) (workspaceId : String) : Prop :=
  ∃ lock, state.lock = some lock ∧ lock.locks.find? workspaceId = some ⟨workspaceId, true⟩

/-- The same workspaces are registered and the same locks are held, and an open of this workspace
ends as it would have. -/
structure Traceless (service : WorkspaceRegistry ρ) (workspaceId : String)
    (before after : ManagerState ρ) : Prop where
  registered : ∀ id, service.get after.registry id = service.get before.registry id
  held : after.lock.map (fun lock => lock.held.rows) = before.lock.map (fun lock => lock.held.rows)
  shut : ∀ id, after.Shut id ↔ before.Shut id
  reopened : ∀ loaded published,
    (announcedStep service after (.openWorkspace workspaceId loaded, published)).1 =
      (announcedStep service before (.openWorkspace workspaceId loaded, published)).1

variable (service : WorkspaceRegistry ρ)

theorem Traceless.refl (workspaceId : String) (state : ManagerState ρ) :
    Traceless service workspaceId state state :=
  ⟨fun _ => rfl, rfl, fun _ => Iff.rfl, fun _ _ => rfl⟩

/-- An open that raises leaves no trace. -/
def FailsTraceless (state : ManagerState ρ) (workspaceId : String) (loaded : Except PyExc Workspace)
    (published : Except PyExc Unit) : Prop :=
  ∀ exc, (announcedStep service state (.openWorkspace workspaceId loaded, published)).1 =
      .error (.raised exc) →
    Traceless service workspaceId state
      (announcedStep service state (.openWorkspace workspaceId loaded, published)).2

@[simp] theorem shut_iff (registry : ρ) (lock : SingleProcessLock) (workspaceId : String) :
    (⟨registry, some lock⟩ : ManagerState ρ).Shut workspaceId ↔
      lock.locks.find? workspaceId = some ⟨workspaceId, true⟩ := by
  simp [ManagerState.Shut]

variable {service}
variable {registry : ρ} {lock : SingleProcessLock} {workspaceId : String}

/-- The open of a registered workspace is refused before its lock is touched. -/
theorem open_registered (registered : service.isRegistered registry workspaceId = true)
    (loaded : Except PyExc Workspace) (published : Except PyExc Unit) :
    announcedStep service ⟨registry, some lock⟩ (.openWorkspace workspaceId loaded, published) =
      (.error (.raised (.workspaceAlreadyOpen workspaceId)), ⟨registry, some lock⟩) := by
  change call (publishing _ published) _ = _
  rw [call_publishing, ← managerStep, open_refused registered]
  rfl

section Absent

variable (absent : service.isRegistered registry workspaceId = false)

include absent

theorem open_locked (locked : lock.locks.find? workspaceId = some ⟨workspaceId, true⟩)
    (loaded : Except PyExc Workspace) (published : Except PyExc Unit) :
    announcedStep service ⟨registry, some lock⟩ (.openWorkspace workspaceId loaded, published) =
      (.error .blocked, ⟨registry, some lock⟩) := by
  simp [announcedStep, ManagerCall.announced, publishing, ManagerCall.program,
    WorkspaceManager.openWorkspace, absent, SingleProcessLock.call_acquire_locked locked]

variable (free : lock.locks.find? workspaceId ≠ some ⟨workspaceId, true⟩)

include free

/-- Past the lock, the load, the transition and the publication can raise, and none gives the
lock back. -/
theorem open_free_takes (loaded : Except PyExc Workspace) (published : Except PyExc Unit) :
    (announcedStep service ⟨registry, some lock⟩ (.openWorkspace workspaceId loaded, published)).2.lock
      = some (lock.taken workspaceId) := by
  have acquired := SingleProcessLock.call_acquire_free free
  unfold announcedStep ManagerCall.announced publishing ManagerCall.program
    WorkspaceManager.openWorkspace
  cases loaded with
  | error exc => simp [absent, acquired]
  | ok workspace =>
      by_cases valid : canTransition workspace.status .opened = true
      · simp [absent, acquired, Workspace.transition, valid]
      · simp [absent, acquired, Workspace.transition, valid]

theorem open_free_raises_iff (loaded : Except PyExc Workspace) (published : Except PyExc Unit) :
    (∃ exc, (announcedStep service ⟨registry, some lock⟩
        (.openWorkspace workspaceId loaded, published)).1 = .error (.raised exc)) ↔
      ¬ ∃ workspace, loaded = .ok workspace ∧ canTransition workspace.status .opened = true ∧
        published = .ok () := by
  have acquired := SingleProcessLock.call_acquire_free free
  unfold announcedStep ManagerCall.announced publishing ManagerCall.program
    WorkspaceManager.openWorkspace
  cases loaded with
  | error exc => simp [absent, acquired]
  | ok workspace =>
      by_cases valid : canTransition workspace.status .opened = true
      · cases published with
        | error exc => simp [absent, acquired, Workspace.transition, valid]
        | ok done => simp [absent, acquired, Workspace.transition, valid]
      · simp [absent, acquired, Workspace.transition, valid]

/-- So an open that raises has left the workspace locked that was not. -/
theorem open_free_traced {loaded : Except PyExc Workspace} {published : Except PyExc Unit} :
    ¬ Traceless service workspaceId ⟨registry, some lock⟩ (announcedStep service
      ⟨registry, some lock⟩ (.openWorkspace workspaceId loaded, published)).2 := by
  intro traceless
  have shut := (traceless.shut workspaceId).mp
    ⟨_, open_free_takes absent free loaded published, Keyed.find?_put_self _ _⟩
  exact free ((shut_iff registry lock workspaceId).mp shut)

end Absent

/-- In any state, an open leaves no trace where it raises exactly when it is refused before the
lock, or waits for the lock, or nothing after the lock raises. -/
theorem failed_open_traceless_iff (service : WorkspaceRegistry ρ) (registry : ρ)
    (lock : SingleProcessLock) (workspaceId : String) (loaded : Except PyExc Workspace)
    (published : Except PyExc Unit) :
    FailsTraceless service ⟨registry, some lock⟩ workspaceId loaded published ↔
      service.isRegistered registry workspaceId = true ∨
        lock.locks.find? workspaceId = some ⟨workspaceId, true⟩ ∨
        ∃ workspace, loaded = .ok workspace ∧ canTransition workspace.status .opened = true ∧
          published = .ok () := by
  by_cases registered : service.isRegistered registry workspaceId = true
  · refine ⟨fun _ => .inl registered, fun _ exc _ => ?_⟩
    rw [open_registered registered]
    exact Traceless.refl service workspaceId _
  have absent : service.isRegistered registry workspaceId = false := by simpa using registered
  by_cases locked : lock.locks.find? workspaceId = some ⟨workspaceId, true⟩
  · refine ⟨fun _ => .inr (.inl locked), fun _ exc raised => ?_⟩
    rw [open_locked absent locked] at raised
    cases raised
  have raises := open_free_raises_iff absent locked loaded published
  constructor
  · intro traceless
    refine .inr (.inr ?_)
    by_contra unopened
    obtain ⟨exc, raised⟩ := raises.mpr unopened
    exact open_free_traced absent locked (traceless exc raised)
  · rintro (present | shut | opened) exc raised
    · exact absurd present registered
    · exact absurd shut locked
    · exact absurd opened (raises.mp ⟨exc, raised⟩)

/-- The lock of a workspace that is missing stays taken, so that the next open waits for ever. -/
theorem missing_workspace_stays_shut :
    ¬ FailsTraceless dictRegistry fresh "lawFirm" (.error (.workspaceNotFound "lawFirm")) (.ok ()) ∧
      (announcedStep dictRegistry
        (announcedStep dictRegistry fresh
          (.openWorkspace "lawFirm" (.error (.workspaceNotFound "lawFirm")), .ok ())).2
        (.openWorkspace "lawFirm" (.ok ⟨"lawFirm", .closed⟩), .ok ())).1 = .error .blocked := by
  refine ⟨fun traceless => ?_, rfl⟩
  have shut := ((traceless _ rfl).shut "lawFirm").mp ⟨_, rfl, rfl⟩
  cases (shut_iff _ _ _).mp shut

end LexMind.Workspaces
