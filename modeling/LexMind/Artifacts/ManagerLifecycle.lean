import LexMind.Artifacts.ArtifactManager

set_option autoImplicit false

/- Status, registration and edges over runs of the manager. -/
namespace LexMind.Artifacts

open Lib Relation

variable {ρ : Type} (registry : ArtifactRegistry ρ)

/-- The artifact is registered and not deleted. -/
def Live (held : ρ) (artifactId : String) : Prop :=
  ∃ artifact, registry.find held artifactId = some artifact ∧ artifact.status ≠ .deleted

/-- Both ends of every edge are registered and not deleted. -/
def EdgesLive (state : ManagerState ρ) : Prop :=
  ∀ parent child, state.dependencies.Edge parent child →
    Live registry state.registry parent ∧ Live registry state.registry child

/-- Every change of a status is one of the valid transitions. -/
def StatusSteps (before after : ρ) : Prop :=
  ∀ artifactId old new, registry.find before artifactId = some old →
    registry.find after artifactId = some new → old.status ≠ new.status →
      canTransitionArtifact old.status new.status = true

/-- What a call owes: valid transitions, and edges between live artifacts. -/
def KeepsLifecycle (state : ManagerState ρ) (managerCall : ManagerCall) : Prop :=
  StatusSteps registry state.registry (managerStep registry state managerCall).2.registry ∧
    EdgesLive registry (managerStep registry state managerCall).2

/-- A deletion is not of an artifact that is only REGISTERED, and a dependency that the graph takes
is between artifacts that are not DELETED. -/
def LifecycleAllows (state : ManagerState ρ) : ManagerCall → Prop
  | .deleteArtifact _ artifactId _ => ∀ artifact,
      registry.find state.registry artifactId = some artifact → artifact.status ≠ .registered
  | .addDependency order parentId childId _ => ∀ parent child,
      registry.find state.registry parentId = some parent →
      registry.find state.registry childId = some child →
      parentId ≠ childId → state.dependencies.wouldCreateCycle order parentId childId = false →
        parent.status ≠ .deleted ∧ child.status ≠ .deleted
  | _ => True

section Calls

variable {registry} {state : ManagerState ρ} {artifactId : String}

theorem call_getOrRaise_missing (missing : registry.find state.registry artifactId = none) :
    call (ArtifactManager.getOrRaise registry artifactId) ⟨state, none⟩ =
      (.error (.artifactNotFound artifactId), ⟨state, none⟩) := by
  simp [ArtifactManager.getOrRaise, missing]

theorem call_getOrRaise_found {artifact : Artifact}
    (found : registry.find state.registry artifactId = some artifact) :
    call (ArtifactManager.getOrRaise registry artifactId) ⟨state, none⟩ =
      (.ok artifact, ⟨state, none⟩) := by
  simp [ArtifactManager.getOrRaise, found]

theorem call_keep (artifact : Artifact) :
    call (ArtifactManager.keep registry artifact) ⟨state, none⟩ =
      (.ok (), ⟨{ state with registry := registry.changed state.registry artifact }, none⟩) := by
  simp [ArtifactManager.keep, onRegistry]

@[simp] theorem call_onGraph {α : Type} (program : Py DependencyGraph α) :
    call (onGraph program) (⟨state, none⟩ : Events.Wired (ManagerState ρ)) =
      ((call program state.dependencies).1,
        ⟨{ state with dependencies := (call program state.dependencies).2 }, none⟩) := by
  simp [onGraph]

theorem Artifact.transition_ok {artifact after : Artifact} {target : ArtifactStatus}
    {now : Timestamp} (moved : artifact.transition target now = .ok after) :
    canTransitionArtifact artifact.status target = true ∧ after.id = artifact.id ∧
      after.status = target := by
  unfold Artifact.transition at moved
  split at moved
  · rename_i valid
    cases moved
    exact ⟨valid, rfl, rfl⟩
  · cases moved

/-- What a call other than a deletion and a new dependency leaves: what it found, a new artifact,
or one that has made a valid transition to another status than DELETED. -/
inductive Moves (registry : ArtifactRegistry ρ) (state : ManagerState ρ) : ManagerState ρ → Prop
  | same : Moves registry state state
  | created (artifact : Artifact) (after : ρ)
      (fresh : registry.find state.registry artifact.id = none)
      (found : ∀ id, registry.find after id =
        if id = artifact.id then some artifact else registry.find state.registry id) :
      Moves registry state { state with registry := after }
  | moved (artifact after : Artifact)
      (found : registry.find state.registry artifact.id = some artifact)
      (valid : canTransitionArtifact artifact.status after.status = true)
      (same : after.id = artifact.id) (alive : after.status ≠ .deleted) :
      Moves registry state { state with registry := registry.changed state.registry after }

/-- Looking the artifact up and moving it, whatever is announced. -/
theorem moves_of_transition {α : Type} (target : ArtifactStatus) (alive : target ≠ .deleted)
    (now : Timestamp) (program : Artifact → ManagerPy ρ α)
    (moves : ∀ artifact,
      (∃ exc, call (program artifact) ⟨state, none⟩ = (.error exc, ⟨state, none⟩)) ∨
      ∃ after, artifact.transition target now = .ok after ∧
        (call (program artifact) ⟨state, none⟩).2 =
          ⟨{ state with registry := registry.changed state.registry after }, none⟩) :
    Moves registry state
      (call (ArtifactManager.getOrRaise registry artifactId >>= program) ⟨state, none⟩).2.service := by
  cases found : registry.find state.registry artifactId with
  | none =>
      rw [call_bind, call_getOrRaise_missing found]
      exact .same
  | some artifact =>
      rw [call_bind, call_getOrRaise_found found, andThen_ok]
      rcases moves artifact with ⟨exc, refused⟩ | ⟨after, transition, done⟩
      · rw [refused]
        exact .same
      · rw [done]
        obtain ⟨valid, same, status⟩ := Artifact.transition_ok transition
        have named := registry.find_id _ _ _ found
        exact .moved artifact after (named ▸ found) (status ▸ valid) same (status ▸ alive)

/-- Moving an artifact and then what only announces it. -/
theorem moving_cases {α : Type} {target : ArtifactStatus} (now : Timestamp) (artifact : Artifact)
    (rest : ManagerPy ρ α) (announces : ∀ after, (call rest ⟨after, none⟩).2 = ⟨after, none⟩) :
    (∃ exc, call (do
      ArtifactManager.keep registry (← check (artifact.transition target now))
      rest) ⟨state, none⟩ = (.error exc, ⟨state, none⟩)) ∨
    ∃ after, artifact.transition target now = .ok after ∧ (call (do
      ArtifactManager.keep registry (← check (artifact.transition target now))
      rest) ⟨state, none⟩).2 =
        ⟨{ state with registry := registry.changed state.registry after }, none⟩ := by
  cases transition : artifact.transition target now with
  | error exc => exact .inl ⟨exc, by rw [call_bind, call_check, andThen_error]⟩
  | ok after =>
      refine .inr ⟨after, rfl, ?_⟩
      rw [call_bind, call_check, andThen_ok, call_bind, call_keep, andThen_ok, announces]

theorem emit_announces (event : Events.EventObject) (after : ManagerState ρ) :
    (call (Events.emit event) ⟨after, none⟩).2 = ⟨after, none⟩ := by
  rw [Events.emit_without_bus]

/-- Creating raises and changes nothing, or registers a new artifact. -/
theorem createArtifact_moves (request : CreateArtifact) :
    Moves registry state
      (managerStep registry state (.createArtifact request)).2 := by
  rw [managerStep, ManagerCall.program, call_map, ArtifactManager.createArtifact]
  simp only [call_bind, call_get, andThen_ok]
  cases taken : registry.registered state.registry request.artifactId with
  | true =>
      simp only [↓reduceIte, call_bind, call_throw, andThen_error]
      exact .same
  | false =>
      simp only [Bool.false_eq_true, ↓reduceIte, call_bind, call_check]
      cases made : request.artifact with
      | error exc => exact .same
      | ok artifact =>
          have named : artifact.id = request.artifactId := by
            unfold CreateArtifact.artifact at made
            split at made
            · cases made
            · split at made
              · cases made
              · cases made
                rfl
          have fresh : registry.find state.registry artifact.id = none := by
            rw [named, ← Option.isNone_iff_eq_none, ← Option.isSome_eq_false_iff,
              ← registry.registered_eq, taken]
          rcases registry.find_register state.registry artifact fresh with
            ⟨exc, refused⟩ | ⟨after, done, found⟩
          · simp [onRegistry, refused]
            exact .same
          · simp [onRegistry, done]
            exact .created artifact after fresh found

theorem validateArtifact_moves (artifactId expected : String) (now : Timestamp) :
    Moves registry state
      (managerStep registry state (.validateArtifact artifactId expected now)).2 := by
  rw [managerStep, ManagerCall.program, call_map]
  refine moves_of_transition .available nofun now _ (fun artifact => ?_)
  by_cases same : artifact.validateChecksum expected = true
  · simp only [same, not_true_eq_false, ↓reduceIte]
    exact moving_cases now artifact _ (fun after => by
      rw [call_bind, Events.emit_without_bus, andThen_ok, call_pure])
  · exact .inl ⟨.artifactChecksum artifactId expected artifact.checksum, by simp [same]⟩

theorem moving_moves (artifactId : String) (target : ArtifactStatus) (alive : target ≠ .deleted)
    (now : Timestamp) (event : Events.EventObject) :
    Moves registry state (call (ArtifactManager.moving registry artifactId
      (fun artifact => artifact.transition target now) event) ⟨state, none⟩).2.service :=
  moves_of_transition target alive now _ (fun artifact =>
    moving_cases now artifact _ (emit_announces event))

/-- Only deletions and new dependencies can do more. -/
def ManagerCall.OnlyMoves : ManagerCall → Prop
  | .deleteArtifact .. | .addDependency .. => False
  | _ => True

theorem managerStep_moves (managerCall : ManagerCall) (only : managerCall.OnlyMoves) :
    Moves registry state (managerStep registry state managerCall).2 := by
  cases managerCall with
  | createArtifact request => exact createArtifact_moves request
  | validateArtifact artifactId expected now => exact validateArtifact_moves artifactId expected now
  | supersedeArtifact artifactId now =>
      rw [managerStep, ManagerCall.program, call_map]
      exact moving_moves artifactId .superseded nofun now _
  | archiveArtifact artifactId now =>
      rw [managerStep, ManagerCall.program, call_map]
      exact moving_moves artifactId .archived nofun now _
  | deleteArtifact order artifactId now => cases only
  | addDependency order parentId childId relationship => cases only

theorem StatusSteps.refl (held : ρ) : StatusSteps registry held held := by
  intro artifactId old new found found' differs
  cases found.symm.trans found'
  exact absurd rfl differs

/-- Changing one registered artifact by a valid transition, or not in its status. -/
theorem statusSteps_changed {held : ρ} {artifact after : Artifact}
    (found : registry.find held artifact.id = some artifact) (same : after.id = artifact.id) :
    StatusSteps registry held (registry.changed held after) ↔
      (artifact.status ≠ after.status →
        canTransitionArtifact artifact.status after.status = true) := by
  have changed := registry.find_changed held after (by rw [same, found]; rfl)
  constructor
  · intro steps differs
    refine steps artifact.id artifact after found ?_ differs
    rw [changed, if_pos same.symm]
  · intro valid artifactId old new before now differs
    rw [changed] at now
    split at now
    · rename_i own
      cases now
      rw [own, same, found] at before
      cases before
      exact valid differs
    · rw [before] at now
      cases now
      exact absurd rfl differs

theorem live_changed {held : ρ} {after : Artifact}
    (present : (registry.find held after.id).isSome) (alive : after.status ≠ .deleted)
    {artifactId : String} (live : Live registry held artifactId) :
    Live registry (registry.changed held after) artifactId := by
  obtain ⟨artifact, found, status⟩ := live
  unfold Live
  rw [registry.find_changed held after present]
  split
  · exact ⟨after, rfl, alive⟩
  · exact ⟨artifact, found, status⟩

theorem Moves.keeps {next : ManagerState ρ} (moves : Moves registry state next)
    (live : EdgesLive registry state) :
    StatusSteps registry state.registry next.registry ∧ EdgesLive registry next := by
  cases moves with
  | same => exact ⟨.refl _, live⟩
  | created artifact after fresh found =>
      have kept {id : String} {old : Artifact} (before : registry.find state.registry id = some old) :
          registry.find after id = some old := by
        rw [found, if_neg ?_, before]
        rintro rfl
        rw [fresh] at before
        cases before
      constructor
      · intro id old new before now differs
        cases (kept before).symm.trans now
        exact absurd rfl differs
      · intro parent child edge
        obtain ⟨⟨source, there, alive⟩, target, there', alive'⟩ := live parent child edge
        exact ⟨⟨source, kept there, alive⟩, target, kept there', alive'⟩
  | moved artifact after found valid same alive =>
      have present : (registry.find state.registry after.id).isSome := by
        rw [same, found]
        rfl
      refine ⟨(statusSteps_changed found same).mpr (fun _ => valid), fun parent child edge => ?_⟩
      obtain ⟨source, target⟩ := live parent child edge
      exact ⟨live_changed present alive source, live_changed present alive target⟩

theorem canTransition_to_deleted (status : ArtifactStatus) (available : status ≠ .registered)
    (alive : status ≠ .deleted) : canTransitionArtifact status .deleted = true := by
  cases status with
  | registered => exact absurd rfl available
  | deleted => exact absurd rfl alive
  | available | invalid | superseded | archived => decide

/-- A deletion of a registered artifact succeeds whatever its status is. -/
theorem deleteArtifact_found (order : SetOrder) (now : Timestamp) {artifact : Artifact}
    (found : registry.find state.registry artifactId = some artifact) :
    (managerStep registry state (.deleteArtifact order artifactId now)).2 =
      ⟨registry.changed state.registry (artifact.delete now),
        state.dependencies.removed order artifactId⟩ := by
  simp [managerStep, ManagerCall.program, ArtifactManager.deleteArtifact, call_getOrRaise_found found,
    call_keep, DependencyGraph.call_remove]

theorem deleteArtifact_missing (order : SetOrder) (now : Timestamp)
    (missing : registry.find state.registry artifactId = none) :
    (managerStep registry state (.deleteArtifact order artifactId now)).2 = state := by
  simp [managerStep, ManagerCall.program, ArtifactManager.deleteArtifact,
    call_getOrRaise_missing missing]

/-- The edges left by a deletion do not lead to the deleted artifact. -/
theorem deleteArtifact_keeps_iff (sound : state.dependencies.Sound) (live : EdgesLive registry state)
    (order : SetOrder) (artifactId : String) (now : Timestamp) :
    KeepsLifecycle registry state (.deleteArtifact order artifactId now) ↔
      LifecycleAllows registry state (.deleteArtifact order artifactId now) := by
  cases found : registry.find state.registry artifactId with
  | none =>
      rw [KeepsLifecycle, deleteArtifact_missing order now found]
      refine iff_of_true ⟨.refl _, live⟩ (fun artifact other => ?_)
      rw [found] at other
      cases other
  | some artifact =>
      have named := registry.find_id _ _ _ found
      have here : registry.find state.registry artifact.id = some artifact := named ▸ found
      have steps : StatusSteps registry state.registry
          (registry.changed state.registry (artifact.delete now)) ↔
            (artifact.status ≠ .deleted →
              canTransitionArtifact artifact.status .deleted = true) :=
        statusSteps_changed here rfl
      have edges : EdgesLive registry ⟨registry.changed state.registry (artifact.delete now),
          state.dependencies.removed order artifactId⟩ := by
        have kept {id : String} (apart : id ≠ artifactId) (before : Live registry state.registry id) :
            Live registry (registry.changed state.registry (artifact.delete now)) id := by
          obtain ⟨other, there, alive⟩ := before
          refine ⟨other, ?_, alive⟩
          rw [registry.find_changed _ _ (by rw [Artifact.delete, here]; rfl)]
          rw [if_neg (fun same => apart (same.trans named)), there]
        intro parent child edge
        obtain ⟨old, source, target⟩ := (sound.removed_edge order artifactId parent child).mp edge
        obtain ⟨first, second⟩ := live parent child old
        exact ⟨kept source first, kept target second⟩
      rw [KeepsLifecycle, deleteArtifact_found order now found]
      constructor
      · rintro ⟨valid, _⟩ other there status
        cases found.symm.trans there
        have moved := steps.mp valid (by rw [status]; nofun)
        rw [status] at moved
        cases moved
      · intro allowed
        exact ⟨steps.mpr (canTransition_to_deleted _ (allowed artifact found)), edges⟩

theorem live_of_found {held : ρ} {artifact : Artifact}
    (found : registry.find held artifactId = some artifact) :
    Live registry held artifactId ↔ artifact.status ≠ .deleted := by
  constructor
  · rintro ⟨other, there, alive⟩
    cases found.symm.trans there
    exact alive
  · exact fun alive => ⟨artifact, found, alive⟩

/-- With both artifacts registered, a new dependency is what the graph makes of it. -/
theorem addDependency_found (order : SetOrder) (parentId childId relationship : String)
    {parent child : Artifact} (source : registry.find state.registry parentId = some parent)
    (target : registry.find state.registry childId = some child) :
    (managerStep registry state (.addDependency order parentId childId relationship)).2 =
      { state with dependencies := (call (DependencyGraph.add order
          ⟨parentId, childId, relationship, ""⟩) state.dependencies).2 } := by
  simp [managerStep, ManagerCall.program, ArtifactManager.addDependency,
    call_getOrRaise_found source, call_getOrRaise_found target]

theorem addDependency_missing (order : SetOrder) (parentId childId relationship : String)
    (missing : registry.find state.registry parentId = none ∨
      registry.find state.registry childId = none) :
    (managerStep registry state (.addDependency order parentId childId relationship)).2 = state := by
  cases source : registry.find state.registry parentId with
  | none =>
      simp [managerStep, ManagerCall.program, ArtifactManager.addDependency,
        call_getOrRaise_missing source]
  | some parent =>
      have target : registry.find state.registry childId = none := by
        rcases missing with none | none
        · rw [source] at none
          cases none
        · exact none
      simp [managerStep, ManagerCall.program, ArtifactManager.addDependency,
        call_getOrRaise_found source, call_getOrRaise_missing target]

theorem addDependency_keeps_iff (live : EdgesLive registry state) (order : SetOrder)
    (parentId childId relationship : String) :
    KeepsLifecycle registry state (.addDependency order parentId childId relationship) ↔
      LifecycleAllows registry state (.addDependency order parentId childId relationship) := by
  by_cases missing : registry.find state.registry parentId = none ∨
      registry.find state.registry childId = none
  · rw [KeepsLifecycle, addDependency_missing order parentId childId relationship missing]
    refine iff_of_true ⟨.refl _, live⟩ (fun parent child source target => ?_)
    rcases missing with none | none
    · rw [none] at source
      cases source
    · rw [none] at target
      cases target
  · obtain ⟨unmissing, unmissing'⟩ := not_or.mp missing
    obtain ⟨parent, source⟩ := Option.ne_none_iff_exists'.mp unmissing
    obtain ⟨child, target⟩ := Option.ne_none_iff_exists'.mp unmissing'
    have cycle := state.dependencies.wouldCreateCycle_iff order parentId childId
    rw [KeepsLifecycle, addDependency_found order parentId childId relationship source target]
    rcases state.dependencies.add_cases order ⟨parentId, childId, relationship, ""⟩ with
      ⟨message, refused, reason⟩ | ⟨added, apart, clear⟩
    · rw [refused]
      refine iff_of_true ⟨.refl _, live⟩ (fun _ _ _ _ differs free => ?_)
      rcases reason with same | path
      · exact absurd same differs
      · rw [cycle.mpr path] at free
        cases free
    · rw [added]
      have ends : EdgesLive registry
          { state with dependencies := state.dependencies.linked ⟨parentId, childId, relationship, ""⟩ } ↔
          parent.status ≠ .deleted ∧ child.status ≠ .deleted := by
        rw [← live_of_found source, ← live_of_found target]
        constructor
        · intro edges
          exact edges parentId childId ((DependencyGraph.linked_edge _ _ _ _).mpr (.inr ⟨rfl, rfl⟩))
        · intro alive first second edge
          rcases (DependencyGraph.linked_edge _ _ _ _).mp edge with old | ⟨rfl, rfl⟩
          · exact live first second old
          · exact alive
      constructor
      · rintro ⟨_, edges⟩ first second there there' _ _
        cases source.symm.trans there
        cases target.symm.trans there'
        exact ends.mp edges
      · intro allowed
        have free : state.dependencies.wouldCreateCycle order parentId childId = false := by
          rw [← Bool.not_eq_true, cycle]
          exact clear
        exact ⟨.refl _, ends.mpr (allowed parent child source target apart free)⟩

end Calls

/-- The graph's two maps agree without a cycle, and its edges are between live artifacts. -/
structure Managed (registry : ArtifactRegistry ρ) (state : ManagerState ρ) : Prop where
  sound : state.dependencies.Sound
  live : EdgesLive registry state

variable {registry} {state : ManagerState ρ}

theorem Managed.moves (managed : Managed registry state) (managerCall : ManagerCall)
    (only : managerCall.OnlyMoves) : KeepsLifecycle registry state managerCall :=
  (managerStep_moves managerCall only).keeps managed.live

theorem Managed.keeps_iff (managed : Managed registry state) (managerCall : ManagerCall) :
    KeepsLifecycle registry state managerCall ↔ LifecycleAllows registry state managerCall := by
  cases managerCall with
  | deleteArtifact order artifactId now =>
      exact deleteArtifact_keeps_iff managed.sound managed.live order artifactId now
  | addDependency order parentId childId relationship =>
      exact addDependency_keeps_iff managed.live order parentId childId relationship
  | createArtifact request =>
      exact iff_of_true (managed.moves (.createArtifact request) trivial) trivial
  | validateArtifact artifactId expected now =>
      exact iff_of_true (managed.moves (.validateArtifact artifactId expected now) trivial) trivial
  | supersedeArtifact artifactId now =>
      exact iff_of_true (managed.moves (.supersedeArtifact artifactId now) trivial) trivial
  | archiveArtifact artifactId now =>
      exact iff_of_true (managed.moves (.archiveArtifact artifactId now) trivial) trivial

theorem Moves.dependencies {next : ManagerState ρ} (moves : Moves registry state next) :
    next.dependencies = state.dependencies := by
  cases moves <;> rfl

/-- Whatever is called, the graph is changed by its own operations only. -/
theorem managerStep_sound (sound : state.dependencies.Sound) (managerCall : ManagerCall) :
    (managerStep registry state managerCall).2.dependencies.Sound := by
  by_cases only : managerCall.OnlyMoves
  · rw [(managerStep_moves _ only).dependencies]
    exact sound
  · cases managerCall with
    | deleteArtifact order artifactId now =>
        cases found : registry.find state.registry artifactId with
        | none => rwa [deleteArtifact_missing order now found]
        | some artifact =>
            rw [deleteArtifact_found order now found]
            exact sound.removed order artifactId
    | addDependency order parentId childId relationship =>
        by_cases missing : registry.find state.registry parentId = none ∨
            registry.find state.registry childId = none
        · rwa [addDependency_missing order parentId childId relationship missing]
        · obtain ⟨unmissing, unmissing'⟩ := not_or.mp missing
          obtain ⟨parent, source⟩ := Option.ne_none_iff_exists'.mp unmissing
          obtain ⟨child, target⟩ := Option.ne_none_iff_exists'.mp unmissing'
          rw [addDependency_found order parentId childId relationship source target]
          exact graphStep_sound state.dependencies
            (.add order ⟨parentId, childId, relationship, ""⟩) sound
    | createArtifact => exact absurd trivial only
    | validateArtifact => exact absurd trivial only
    | supersedeArtifact => exact absurd trivial only
    | archiveArtifact => exact absurd trivial only

theorem Managed.step (managed : Managed registry state) {managerCall : ManagerCall}
    (keeps : KeepsLifecycle registry state managerCall) :
    Managed registry (managerStep registry state managerCall).2 :=
  ⟨managerStep_sound managed.sound managerCall, keeps.2⟩

/-- From any registry, every change of a status is a valid transition and every edge stays between
live artifacts exactly where no artifact is deleted that is only REGISTERED and no dependency is
taken at a DELETED one. -/
theorem lifecycle_kept_iff (registry : ArtifactRegistry ρ) (start : ρ) (calls : List ManagerCall) :
    Along (managerStep registry) (KeepsLifecycle registry) ⟨start, .empty⟩ calls ↔
      Along (managerStep registry) (LifecycleAllows registry) ⟨start, .empty⟩ calls := by
  have managed : Managed registry ⟨start, .empty⟩ := by
    refine ⟨DependencyGraph.sound_empty, fun parent child edge => ?_⟩
    simp [DependencyGraph.Edge, DependencyGraph.children, DependencyGraph.empty,
      Adjacency.successors] at edge
  constructor
  · exact Along.of_invariant (fun _ _ managed keeps => managed.step keeps)
      (fun _ managerCall managed keeps => (managed.keeps_iff managerCall).mp keeps) managed
  · exact Along.of_invariant
      (fun _ managerCall managed allowed => managed.step ((managed.keeps_iff managerCall).mpr allowed))
      (fun _ managerCall managed allowed => (managed.keeps_iff managerCall).mpr allowed) managed

/-- A registry that is a dictionary of its artifacts. -/
def dictionaryRegistry : ArtifactRegistry (Keyed Artifact.id) where
  find := Keyed.find?
  registered := Keyed.contains
  register := fun artifact => do
    if (← get).contains artifact.id then
      throw (.artifactAlreadyExists artifact.id)
    modify (fun held => held.put artifact)
  changed := Keyed.put
  registered_eq := fun _ _ => rfl
  find_id := fun _ _ _ found => Keyed.key_of_find? found
  find_register := fun held artifact fresh => by
    refine .inr ⟨held.put artifact, ?_, fun id => ?_⟩
    · simp [Keyed.contains, fresh]
    · rw [Keyed.find?_put]
      simp only [eq_comm]
  find_changed := fun held artifact _ id => by
    rw [Keyed.find?_put]
    simp only [eq_comm]

def ocrText (artifactId : String) : ManagerCall :=
  .createArtifact ⟨artifactId, "w", .ocrText, "c", "", "", "", "", "", "", [], 0, 0⟩

/-- An artifact is deleted before it is available; another gets an edge once it is deleted. -/
theorem lifecycle_broken :
    ¬ Along (managerStep dictionaryRegistry) (KeepsLifecycle dictionaryRegistry) ⟨.empty, .empty⟩
      [ocrText "a", .deleteArtifact .asStored "a" 1] ∧
    ¬ Along (managerStep dictionaryRegistry) (KeepsLifecycle dictionaryRegistry) ⟨.empty, .empty⟩
      [ocrText "a", .validateArtifact "a" "c" 1, ocrText "b",
        .deleteArtifact .asStored "a" 2, .addDependency .asStored "a" "b" "produced_by"] := by
  constructor
  · rintro ⟨_, ⟨steps, _⟩, _⟩
    have valid := steps "a" _ _ rfl rfl nofun
    cases valid
  · rintro ⟨_, _, _, _, ⟨_, edges⟩, _⟩
    obtain ⟨⟨artifact, found, alive⟩, _⟩ := edges "a" "b" (by unfold DependencyGraph.Edge; decide)
    cases found
    exact alive rfl

end LexMind.Artifacts
