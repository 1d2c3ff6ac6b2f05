import LexMind.Lib.Run
import LexMind.Workspace.WorkspaceManager

set_option autoImplicit false

/- The locks that are held, against the workspaces that are registered. -/
namespace LexMind.Workspaces

open Lib

namespace SingleProcessLock

/-- A workspace is held exactly when its lock object is locked. -/
def Sound (lock : SingleProcessLock) : Prop :=
  ∀ workspaceId, lock.isLocked workspaceId = true ↔
    lock.locks.find? workspaceId = some ⟨workspaceId, true⟩

theorem create_sound (owner : String) : (create owner).Sound := by
  intro workspaceId
  simp [create, isLocked]

/-- The lock with this workspace taken. -/
def taken (lock : SingleProcessLock) (workspaceId : String) : SingleProcessLock :=
  { lock with
    locks := (if lock.locks.contains workspaceId then lock.locks
      else lock.locks.put ⟨workspaceId, false⟩).put ⟨workspaceId, true⟩
    held := lock.held.put ⟨workspaceId, lock.owner⟩ }

variable {lock : SingleProcessLock}

theorem taken_isLocked (workspaceId id : String) :
    (lock.taken workspaceId).isLocked id = true ↔ workspaceId = id ∨ lock.isLocked id = true := by
  by_cases same : workspaceId = id
  · simp [taken, isLocked, same]
  · simp [taken, isLocked, Keyed.find?_put, same]

theorem taken_sound (sound : lock.Sound) (workspaceId : String) : (lock.taken workspaceId).Sound := by
  intro id
  rw [taken_isLocked, sound id]
  unfold taken
  by_cases same : workspaceId = id
  · simp [same]
  · split <;> simp [Keyed.find?_put, same]

/-- A lock that is free is acquired at once. -/
theorem call_acquire_free {workspaceId : String}
    (free : lock.locks.find? workspaceId ≠ some ⟨workspaceId, true⟩) :
    call (acquire workspaceId) lock = (.ok true, lock.taken workspaceId) := by
  unfold acquire taken
  by_cases present : lock.locks.contains workspaceId = true
  · simp [present, free]
  · simp [present]

/-- A lock that is locked is waited for, and nobody releases it. -/
theorem call_acquire_locked {workspaceId : String}
    (locked : lock.locks.find? workspaceId = some ⟨workspaceId, true⟩) :
    call (acquire workspaceId) lock = (.error .blocked, lock) := by
  have present : lock.locks.contains workspaceId = true :=
    (lock.locks.contains_eq_true_iff workspaceId).mpr ⟨_, locked⟩
  simp [acquire, present, locked]

/-- A workspace that is not held is acquired. -/
theorem call_acquire (sound : lock.Sound) {workspaceId : String}
    (free : lock.isLocked workspaceId = false) :
    call (acquire workspaceId) lock = (.ok true, lock.taken workspaceId) := by
  apply call_acquire_free
  intro locked
  rw [(sound workspaceId).mpr locked] at free
  cases free

/-- The lock with this workspace free. -/
def freed (lock : SingleProcessLock) (workspaceId : String) : SingleProcessLock :=
  { lock with
    locks := lock.locks.put ⟨workspaceId, false⟩
    held := lock.held.erase workspaceId }

theorem freed_isLocked (workspaceId id : String) :
    (lock.freed workspaceId).isLocked id = true ↔ workspaceId ≠ id ∧ lock.isLocked id = true := by
  by_cases same : workspaceId = id
  · simp [freed, isLocked, Keyed.find?_erase, same]
  · simp [freed, isLocked, Keyed.find?_erase, same, Ne.symm same]

theorem freed_sound (sound : lock.Sound) (workspaceId : String) : (lock.freed workspaceId).Sound := by
  intro id
  rw [freed_isLocked, sound id]
  by_cases same : workspaceId = id
  · simp [freed, same]
  · simp [freed, Keyed.find?_put, same]

/-- An unlocked entry is the one that a release writes. -/
theorem freed_unlocked {workspaceId : String}
    (unlocked : lock.locks.find? workspaceId = some ⟨workspaceId, false⟩) :
    lock.freed workspaceId = { lock with held := lock.held.erase workspaceId } := by
  rw [freed, Keyed.put_of_find? lock.locks unlocked]

/-- Whether it returns or raises, a release leaves the workspace free and the others as they were. -/
theorem release_leaves (sound : lock.Sound) (workspaceId : String) :
    (call (release workspaceId) lock).2.Sound ∧
      ∀ id, (call (release workspaceId) lock).2.isLocked id = true ↔
        workspaceId ≠ id ∧ lock.isLocked id = true := by
  unfold release
  cases found : lock.locks.find? workspaceId with
  | none =>
      have free : ¬ lock.isLocked workspaceId = true := by
        rw [sound workspaceId, found]
        rintro ⟨⟩
      have apart : ∀ id, lock.isLocked id = true → workspaceId ≠ id := by
        rintro id held rfl
        exact free held
      simpa [found] using ⟨sound, apart⟩
  | some entry =>
      obtain ⟨id, locked⟩ := entry
      obtain rfl : id = workspaceId := Keyed.key_of_find? found
      have left : (call (release id) lock).2 = lock.freed id := by
        cases locked with
        | true => simp [release, found, freed]
        | false => simp [release, found, freed_unlocked found]
      unfold release at left
      rw [left]
      exact ⟨freed_sound sound id, freed_isLocked id⟩

end SingleProcessLock

variable {ρ : Type} (service : WorkspaceRegistry ρ)

namespace ManagerState

/-- There is a lock, and what it holds is locked. -/
def Sound (state : ManagerState ρ) : Prop :=
  ∃ lock, state.lock = some lock ∧ lock.Sound

def isLocked (state : ManagerState ρ) (workspaceId : String) : Bool :=
  match state.lock with
  | none => false
  | some lock => lock.isLocked workspaceId

/-- The lock of a workspace is held exactly when the workspace is registered. -/
def Disciplined (state : ManagerState ρ) : Prop :=
  ∀ workspaceId, state.isLocked workspaceId = true ↔
    service.isRegistered state.registry workspaceId = true

end ManagerState

/-- A workspace that is created is registered already; one that is opened and is not registered is
loaded under its id, in a status that can become OPEN. -/
def Orderly (state : ManagerState ρ) : ManagerCall → Prop
  | .createWorkspace made =>
      ∀ workspace, made = .ok workspace → service.isRegistered state.registry workspace.id = true
  | .openWorkspace workspaceId loaded =>
      service.isRegistered state.registry workspaceId = false →
        ∃ workspace, loaded = .ok workspace ∧ workspace.id = workspaceId ∧
          canTransition workspace.status .opened = true
  | _ => True

variable {service}

theorem isRegistered_register (registry : ρ) (workspace : Workspace) (id : String) :
    service.isRegistered (service.register registry workspace) id = true ↔
      workspace.id = id ∨ service.isRegistered registry id = true := by
  rw [service.isRegistered_eq, service.isRegistered_eq, service.get_register]
  by_cases same : workspace.id = id
  · simp [same]
  · simp [same]

theorem isRegistered_unregister (registry : ρ) (removed id : String) :
    service.isRegistered (service.unregister registry removed) id = true ↔
      removed ≠ id ∧ service.isRegistered registry id = true := by
  rw [service.isRegistered_eq, service.isRegistered_eq, service.get_unregister]
  by_cases same : removed = id
  · simp [same]
  · simp [same]

variable {registry : ρ} {lock : SingleProcessLock}

/-- After a release, the registered workspaces are in step again. -/
theorem released (sound : lock.Sound)
    (disciplined : (⟨registry, some lock⟩ : ManagerState ρ).Disciplined service)
    (workspaceId : String) :
    let state : ManagerState ρ := ⟨service.unregister registry workspaceId,
      some (call (SingleProcessLock.release workspaceId) lock).2⟩
    state.Sound ∧ state.Disciplined service := by
  obtain ⟨kept, held⟩ := SingleProcessLock.release_leaves sound workspaceId
  refine ⟨⟨_, rfl, kept⟩, ?_⟩
  intro id
  rw [ManagerState.isLocked, held id, isRegistered_unregister]
  exact and_congr_right (fun _ => disciplined id)

@[simp] theorem call_onLock {α : Type} (unlocked : α) (program : EStateM Halt SingleProcessLock α) :
    call (onLock unlocked program) (⟨registry, some lock⟩ : ManagerState ρ) =
      ((call program lock).1, ⟨registry, some (call program lock).2⟩) := by
  simp [onLock]

/-- The lock of a workspace that is not registered has been acquired, and that is all. -/
theorem taken_undisciplined {workspaceId : String}
    (absent : service.isRegistered registry workspaceId = false) :
    ¬ (⟨registry, some (lock.taken workspaceId)⟩ : ManagerState ρ).Disciplined service := by
  intro after
  have held : (lock.taken workspaceId).isLocked workspaceId = true :=
    (SingleProcessLock.taken_isLocked workspaceId workspaceId).mpr (.inl rfl)
  have registered := (after workspaceId).mp held
  rw [absent] at registered
  cases registered

/-- A workspace that is registered is open already. -/
theorem open_refused {state : ManagerState ρ} {workspaceId : String}
    (registered : service.isRegistered state.registry workspaceId = true)
    (loaded : Except PyExc Workspace) :
    managerStep service state (.openWorkspace workspaceId loaded) =
      (.error (.raised (.workspaceAlreadyOpen workspaceId)), state) := by
  simp [managerStep, ManagerCall.program, WorkspaceManager.openWorkspace, registered]

section Calls

variable (sound : lock.Sound)
  (disciplined : (⟨registry, some lock⟩ : ManagerState ρ).Disciplined service)

include disciplined

theorem register_disciplined_iff (workspace : Workspace) :
    (⟨service.register registry workspace, some lock⟩ : ManagerState ρ).Disciplined service ↔
      service.isRegistered registry workspace.id = true := by
  constructor
  · intro after
    have registered : service.isRegistered (service.register registry workspace) workspace.id = true :=
      (isRegistered_register registry workspace workspace.id).mpr (.inl rfl)
    exact (disciplined workspace.id).mp ((after workspace.id).mpr registered)
  · intro present id
    rw [isRegistered_register]
    constructor
    · exact fun held => .inr ((disciplined id).mp held)
    · rintro (rfl | registered)
      · exact (disciplined workspace.id).mpr present
      · exact (disciplined id).mpr registered

/-- The lock of a workspace that is not registered has been acquired, and another one or the same
is registered. -/
theorem register_taken_iff {workspaceId : String}
    (absent : service.isRegistered registry workspaceId = false) (workspace : Workspace) :
    (⟨service.register registry workspace, some (lock.taken workspaceId)⟩ :
      ManagerState ρ).Disciplined service ↔ workspace.id = workspaceId := by
  constructor
  · intro after
    have held : (lock.taken workspaceId).isLocked workspaceId = true :=
      (SingleProcessLock.taken_isLocked workspaceId workspaceId).mpr (.inl rfl)
    rcases (isRegistered_register _ _ _).mp ((after workspaceId).mp held) with same | registered
    · exact same
    · rw [absent] at registered
      cases registered
  · rintro rfl id
    rw [ManagerState.isLocked, SingleProcessLock.taken_isLocked, isRegistered_register]
    exact or_congr_right (disciplined id)

omit disciplined in
theorem createWorkspace_sound (sound : lock.Sound) (made : Except PyExc Workspace) :
    (managerStep service ⟨registry, some lock⟩ (.createWorkspace made)).2.Sound := by
  unfold managerStep ManagerCall.program WorkspaceManager.createWorkspace
  refine ⟨lock, ?_, sound⟩
  cases made with
  | error exc => simp
  | ok workspace => simp

theorem createWorkspace_decides (made : Except PyExc Workspace) :
    (managerStep service ⟨registry, some lock⟩ (.createWorkspace made)).2.Disciplined service ↔
      Orderly service ⟨registry, some lock⟩ (.createWorkspace made) := by
  unfold managerStep ManagerCall.program WorkspaceManager.createWorkspace
  cases made with
  | error exc => simpa [Orderly] using disciplined
  | ok workspace =>
      simpa [Orderly] using register_disciplined_iff disciplined workspace

theorem changeStatus_disciplined (workspaceId : String) (status : WorkspaceStatus) :
    (managerStep service ⟨registry, some lock⟩ (.setStatus workspaceId status)).2.Disciplined
      service := by
  unfold managerStep ManagerCall.program changeStatus
  cases found : service.get registry workspaceId with
  | none => simpa [found] using disciplined
  | some workspace =>
      have present : service.isRegistered registry workspace.id = true := by
        rw [service.isRegistered_eq, service.get_id _ _ _ found, found]
        rfl
      simpa [found] using
        (register_disciplined_iff disciplined { workspace with status }).mpr present

include sound

theorem openWorkspace_decides (workspaceId : String) (loaded : Except PyExc Workspace) :
    (managerStep service ⟨registry, some lock⟩ (.openWorkspace workspaceId loaded)).2.Disciplined
        service ↔ Orderly service ⟨registry, some lock⟩ (.openWorkspace workspaceId loaded) := by
  unfold managerStep ManagerCall.program WorkspaceManager.openWorkspace
  by_cases registered : service.isRegistered registry workspaceId = true
  · simpa [registered, Orderly] using disciplined
  · have absent : service.isRegistered registry workspaceId = false := by simpa using registered
    have free : lock.isLocked workspaceId = false :=
      eq_false_of_ne_true (fun held => registered ((disciplined workspaceId).mp held))
    have acquired := SingleProcessLock.call_acquire sound free
    have stuck : ¬ (⟨registry, some (lock.taken workspaceId)⟩ : ManagerState ρ).Disciplined service :=
      taken_undisciplined absent
    cases loaded with
    | error exc => simpa [absent, acquired, Orderly] using stuck
    | ok workspace =>
        by_cases valid : canTransition workspace.status .opened = true
        · simpa [absent, acquired, Orderly, Workspace.transition, valid]
            using register_taken_iff disciplined absent { workspace with status := .opened }
        · simpa [absent, acquired, Orderly, Workspace.transition, valid]
            using stuck

theorem openWorkspace_sound (workspaceId : String) (loaded : Except PyExc Workspace) :
    (managerStep service ⟨registry, some lock⟩ (.openWorkspace workspaceId loaded)).2.Sound := by
  unfold managerStep ManagerCall.program WorkspaceManager.openWorkspace
  by_cases registered : service.isRegistered registry workspaceId = true
  · exact ⟨lock, by simp [registered], sound⟩
  · have free : lock.isLocked workspaceId = false :=
      eq_false_of_ne_true (fun held => registered ((disciplined workspaceId).mp held))
    have acquired := SingleProcessLock.call_acquire sound free
    refine ⟨lock.taken workspaceId, ?_, SingleProcessLock.taken_sound sound workspaceId⟩
    cases loaded with
    | error exc => simp [registered, acquired]
    | ok workspace =>
        by_cases valid : canTransition workspace.status .opened = true
        · simp [registered, acquired, Workspace.transition, valid]
        · simp [registered, acquired, Workspace.transition, valid]

theorem leave_ordered (target : WorkspaceStatus) (workspaceId : String) :
    let state := (call (WorkspaceManager.leave service target workspaceId)
      (⟨registry, some lock⟩ : ManagerState ρ)).2
    state.Sound ∧ state.Disciplined service := by
  have unchanged : (⟨registry, some lock⟩ : ManagerState ρ).Sound := ⟨lock, rfl, sound⟩
  unfold WorkspaceManager.leave
  cases found : service.get registry workspaceId with
  | none => simpa [found] using ⟨unchanged, disciplined⟩
  | some workspace =>
      cases moved : workspace.transition target with
      | error exc =>
          simpa [found, moved] using ⟨unchanged, disciplined⟩
      | ok left =>
          simpa [found, moved] using
            released sound disciplined workspaceId

theorem deleteWorkspace_ordered (workspaceId : String) :
    let state := (call (WorkspaceManager.deleteWorkspace service workspaceId)
      (⟨registry, some lock⟩ : ManagerState ρ)).2
    state.Sound ∧ state.Disciplined service := by
  have unchanged : (⟨registry, some lock⟩ : ManagerState ρ).Sound := ⟨lock, rfl, sound⟩
  unfold WorkspaceManager.deleteWorkspace
  cases found : service.get registry workspaceId with
  | none => simpa [found] using ⟨unchanged, disciplined⟩
  | some workspace => simpa [found] using released sound disciplined workspaceId

end Calls

variable {state : ManagerState ρ}

/-- No call breaks the lock object itself. -/
theorem managerStep_sound (sound : state.Sound) (disciplined : state.Disciplined service)
    (managerCall : ManagerCall) : (managerStep service state managerCall).2.Sound := by
  obtain ⟨registry, _⟩ := state
  obtain ⟨lock, rfl, good⟩ := sound
  cases managerCall with
  | createWorkspace made => exact createWorkspace_sound good made
  | openWorkspace workspaceId loaded => exact openWorkspace_sound good disciplined workspaceId loaded
  | closeWorkspace workspaceId =>
      simpa [managerStep, ManagerCall.program, WorkspaceManager.closeWorkspace] using
        (leave_ordered good disciplined .closed workspaceId).1
  | archiveWorkspace workspaceId =>
      simpa [managerStep, ManagerCall.program, WorkspaceManager.archiveWorkspace] using
        (leave_ordered good disciplined .archived workspaceId).1
  | deleteWorkspace workspaceId =>
      simpa [managerStep, ManagerCall.program] using
        (deleteWorkspace_ordered good disciplined workspaceId).1
  | setStatus workspaceId status =>
      refine ⟨lock, ?_, good⟩
      simp only [managerStep, ManagerCall.program, changeStatus, call_map, call_modify]
      split <;> rfl

/-- One call keeps the discipline exactly when it is orderly. -/
theorem managerStep_decides (sound : state.Sound) (disciplined : state.Disciplined service)
    (managerCall : ManagerCall) :
    (managerStep service state managerCall).2.Disciplined service ↔
      Orderly service state managerCall := by
  obtain ⟨registry, _⟩ := state
  obtain ⟨lock, rfl, good⟩ := sound
  cases managerCall with
  | createWorkspace made => exact createWorkspace_decides disciplined made
  | openWorkspace workspaceId loaded => exact openWorkspace_decides good disciplined workspaceId loaded
  | closeWorkspace workspaceId =>
      refine ⟨fun _ => trivial, fun _ => ?_⟩
      simpa [managerStep, ManagerCall.program, WorkspaceManager.closeWorkspace] using
        (leave_ordered good disciplined .closed workspaceId).2
  | archiveWorkspace workspaceId =>
      refine ⟨fun _ => trivial, fun _ => ?_⟩
      simpa [managerStep, ManagerCall.program, WorkspaceManager.archiveWorkspace] using
        (leave_ordered good disciplined .archived workspaceId).2
  | deleteWorkspace workspaceId =>
      refine ⟨fun _ => trivial, fun _ => ?_⟩
      simpa [managerStep, ManagerCall.program] using
        (deleteWorkspace_ordered good disciplined workspaceId).2
  | setStatus workspaceId status =>
      exact ⟨fun _ => trivial, fun _ => changeStatus_disciplined disciplined workspaceId status⟩

/-- From a state in step, a run keeps the locks in step with the registered workspaces exactly when
all its calls are orderly. -/
theorem disciplined_iff (sound : state.Sound) (disciplined : state.Disciplined service)
    (calls : List ManagerCall) :
    Throughout (managerStep service) (ManagerState.Disciplined service) state calls ↔
      Along (managerStep service) (Orderly service) state calls := by
  have keeps : ∀ state managerCall, state.Sound → state.Disciplined service →
      (managerStep service state managerCall).2.Sound :=
    fun _ managerCall sound holds => managerStep_sound sound holds managerCall
  have decides : ∀ state managerCall, state.Sound → state.Disciplined service →
      ((managerStep service state managerCall).2.Disciplined service ↔
        Orderly service state managerCall) :=
    fun _ managerCall sound holds => managerStep_decides sound holds managerCall
  exact throughout_iff_along keeps decides sound disciplined calls

/-- A manager that has opened nothing yet. -/
def fresh : ManagerState (Keyed Workspace.id) := ⟨.empty, some (.create "main")⟩

theorem fresh_sound : fresh.Sound := ⟨_, rfl, SingleProcessLock.create_sound "main"⟩

theorem fresh_disciplined : fresh.Disciplined dictRegistry := by
  intro workspaceId
  simp [fresh, ManagerState.isLocked, SingleProcessLock.isLocked, SingleProcessLock.create,
    dictRegistry]

def reopened : List ManagerCall :=
  [.openWorkspace "lawFirm" (.ok ⟨"lawFirm", .closed⟩), .closeWorkspace "lawFirm",
    .openWorkspace "lawFirm" (.ok ⟨"lawFirm", .closed⟩)]

theorem reopened_disciplined :
    Throughout (managerStep dictRegistry) (ManagerState.Disciplined dictRegistry) fresh reopened :=
  (disciplined_iff fresh_sound fresh_disciplined reopened).mpr
    ⟨fun _ => ⟨_, rfl, rfl, rfl⟩, trivial, fun _ => ⟨_, rfl, rfl, rfl⟩, trivial⟩

/-- A workspace that the loader cannot load stays locked. -/
theorem unloaded_locked :
    ¬ Throughout (managerStep dictRegistry) (ManagerState.Disciplined dictRegistry) fresh
      [.openWorkspace "lawFirm" (.error (.workspaceNotFound "lawFirm"))] := by
  rintro ⟨_, disciplined⟩
  have registered := (disciplined "lawFirm").mp rfl
  cases registered

end LexMind.Workspaces
