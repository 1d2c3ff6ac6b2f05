import LexMind.Artifacts.ManagerLifecycle
import LexMind.Events.Transparency

set_option autoImplicit false

/- Which calls of the artifact manager come to an event. -/
namespace LexMind.Artifacts

open Lib Events

variable {ρ : Type} {registry : ArtifactRegistry ρ} {state : ManagerState ρ} {artifactId : String}

/-- The artifact is not registered, or it cannot make the transition. -/
def Rests (registry : ArtifactRegistry ρ) (state : ManagerState ρ) (artifactId : String)
    (target : ArtifactStatus) : Prop :=
  ∀ artifact, registry.find state.registry artifactId = some artifact →
    canTransitionArtifact artifact.status target = false

/-- The registry does not take the new artifact. -/
def Declines (registry : ArtifactRegistry ρ) (state : ManagerState ρ) (artifact : Artifact) :
    Prop :=
  (call (registry.register artifact) state.registry).1.isOk = false

/-- The call ends before it comes to an event. -/
def ManagerCall.Quiet (registry : ArtifactRegistry ρ) (state : ManagerState ρ) :
    ManagerCall → Prop
  | .createArtifact request => registry.registered state.registry request.artifactId = true ∨
      ∀ artifact, request.artifact = .ok artifact → Declines registry state artifact
  | .validateArtifact artifactId expectedChecksum _ => ∀ artifact,
      registry.find state.registry artifactId = some artifact →
        artifact.validateChecksum expectedChecksum = true →
          canTransitionArtifact artifact.status .available = false
  | .supersedeArtifact artifactId _ => Rests registry state artifactId .superseded
  | .archiveArtifact artifactId _ => Rests registry state artifactId .archived
  | .deleteArtifact _ artifactId _ => registry.find state.registry artifactId = none
  | .addDependency .. => True

section Lookup

theorem getOrRaise_missing (missing : registry.find state.registry artifactId = none)
    (bus : Option EventBus) :
    call (ArtifactManager.getOrRaise registry artifactId) ⟨state, bus⟩ =
      (.error (.artifactNotFound artifactId), ⟨state, bus⟩) := by
  simp [ArtifactManager.getOrRaise, missing]

theorem getOrRaise_found {artifact : Artifact}
    (found : registry.find state.registry artifactId = some artifact) (bus : Option EventBus) :
    call (ArtifactManager.getOrRaise registry artifactId) ⟨state, bus⟩ =
      (.ok artifact, ⟨state, bus⟩) := by
  simp [ArtifactManager.getOrRaise, found]

theorem getOrRaise_busFree : BusFree (ArtifactManager.getOrRaise registry artifactId) state := by
  cases found : registry.find state.registry artifactId with
  | none => exact .raised _ (getOrRaise_missing found)
  | some artifact => exact ⟨_, _, getOrRaise_found found⟩

theorem keep_wired (artifact : Artifact) (bus : Option EventBus) :
    call (ArtifactManager.keep registry artifact) ⟨state, bus⟩ =
      (.ok (), ⟨{ state with registry := registry.changed state.registry artifact }, bus⟩) := by
  simp [ArtifactManager.keep, onRegistry]

theorem transition_invalid {artifact : Artifact} {target : ArtifactStatus} (now : Timestamp)
    (invalid : canTransitionArtifact artifact.status target = false) :
    ∃ exc, artifact.transition target now = .error exc := by
  simp [Artifact.transition, invalid]

theorem transition_valid {artifact : Artifact} {target : ArtifactStatus} (now : Timestamp)
    (valid : canTransitionArtifact artifact.status target = true) :
    ∃ after, artifact.transition target now = .ok after := by
  simp [Artifact.transition, valid]

end Lookup

section Transitions

variable {α : Type} {target : ArtifactStatus} (now : Timestamp) {rest : ManagerPy ρ α}

/-- An artifact that cannot make the transition stays, whatever would follow. -/
theorem moved_busFree {artifact : Artifact}
    (invalid : canTransitionArtifact artifact.status target = false) :
    BusFree (do
      ArtifactManager.keep registry (← check (artifact.transition target now))
      rest) state := by
  obtain ⟨exc, refused⟩ := transition_invalid now invalid
  refine .raised exc fun bus => ?_
  rw [call_bind, call_check, refused, andThen_error]

/-- One that can is changed in the registry before its event is published. -/
theorem moved_heard {artifact : Artifact}
    (valid : canTransitionArtifact artifact.status target = true)
    (heard : ∀ after, Heard rest { state with registry := registry.changed state.registry after }) :
    Heard (do
      ArtifactManager.keep registry (← check (artifact.transition target now))
      rest) state := by
  obtain ⟨after, moved⟩ := transition_valid now valid
  exact .later _ (fun bus => by rw [call_check, moved]) (.later _ (keep_wired after) (heard after))

theorem moving_busFree {event : EventObject} (rests : Rests registry state artifactId target) :
    BusFree (ArtifactManager.moving registry artifactId
      (fun artifact => artifact.transition target now) event) state := by
  refine getOrRaise_busFree.bind fun artifact after returned => ?_
  cases found : registry.find state.registry artifactId with
  | none => cases (getOrRaise_missing found none).symm.trans returned
  | some other =>
      cases (getOrRaise_found found none).symm.trans returned
      exact moved_busFree now (rests artifact found)

theorem moving_heard {event : EventObject} (unnamed : event.attributes.lookup "name" = none)
    (moves : ¬ Rests registry state artifactId target) :
    Heard (ArtifactManager.moving registry artifactId
      (fun artifact => artifact.transition target now) event) state := by
  unfold Rests at moves
  push Not at moves
  obtain ⟨artifact, found, valid⟩ := moves
  refine .later _ (getOrRaise_found found) ?_
  exact moved_heard now (Bool.eq_true_of_not_eq_false valid) fun _ => .emit unnamed

end Transitions

section Creation

variable {request : CreateArtifact}

theorem createArtifact_busFree
    (quiet : (ManagerCall.createArtifact request).Quiet registry state) :
    BusFree (ArtifactManager.createArtifact registry request) state := by
  cases taken : registry.registered state.registry request.artifactId with
  | true =>
      refine .raised (.artifactAlreadyExists request.artifactId) fun bus => ?_
      simp [ArtifactManager.createArtifact, taken]
  | false =>
      have declined := quiet.resolve_left (by rw [taken]; exact Bool.false_ne_true)
      cases made : request.artifact with
      | error exc =>
          exact .raised exc fun bus => by simp [ArtifactManager.createArtifact, taken, made]
      | ok artifact =>
          have refused : ∃ exc, (call (registry.register artifact) state.registry).1 =
              .error exc := by
            have declined := declined artifact made
            unfold Declines at declined
            cases answer : (call (registry.register artifact) state.registry).1 with
            | error exc => exact ⟨exc, rfl⟩
            | ok value =>
                rw [answer] at declined
                cases declined
          obtain ⟨exc, refused⟩ := refused
          refine ⟨.error exc, { state with
            registry := (call (registry.register artifact) state.registry).2 }, fun bus => ?_⟩
          simp [ArtifactManager.createArtifact, taken, made, onRegistry, refused]

theorem createArtifact_heard
    (heard : ¬ (ManagerCall.createArtifact request).Quiet registry state) :
    Heard (ArtifactManager.createArtifact registry request) state := by
  unfold ManagerCall.Quiet at heard
  push Not at heard
  obtain ⟨free, artifact, made, taken⟩ := heard
  have registered : (call (registry.register artifact) state.registry).1 = .ok () := by
    unfold Declines at taken
    cases answer : (call (registry.register artifact) state.registry).1 with
    | ok value => rfl
    | error exc =>
        rw [answer] at taken
        exact absurd rfl taken
  refine .get_bind (fun bus => if_neg free) ?_
  refine .later _ (fun bus => by rw [call_check, made]) ?_
  refine .later () (fun bus => by
    rw [onRegistry, call_onService, call_onPart, registered]) ?_
  exact .emit_bind (domainEvent_unnamed _ _ _ rfl) (.ok _)

end Creation

section Classification

variable {made : ManagerCall}

theorem ManagerCall.busFree (quiet : made.Quiet registry state) :
    BusFree (made.program registry) state := by
  cases made with
  | createArtifact request => exact (createArtifact_busFree quiet).map _
  | validateArtifact artifactId expectedChecksum now =>
      refine BusFree.map _ (getOrRaise_busFree.bind fun artifact after returned => ?_)
      cases found : registry.find state.registry artifactId with
      | none => cases (getOrRaise_missing found none).symm.trans returned
      | some other =>
          cases (getOrRaise_found found none).symm.trans returned
          by_cases same : artifact.validateChecksum expectedChecksum = true
          · rw [if_neg (not_not.mpr same)]
            exact moved_busFree now (quiet artifact found same)
          · rw [if_pos same]
            exact .raised _ fun bus => rfl
  | supersedeArtifact artifactId now => exact (moving_busFree now quiet).map _
  | archiveArtifact artifactId now => exact (moving_busFree now quiet).map _
  | deleteArtifact order artifactId now =>
      refine BusFree.map _ (.raised (.artifactNotFound artifactId) fun bus => ?_)
      rw [ArtifactManager.deleteArtifact, call_bind, getOrRaise_missing quiet, andThen_error]
  | addDependency order parentId childId relationship =>
      refine BusFree.map _ (getOrRaise_busFree.bind fun _ _ _ => ?_)
      exact getOrRaise_busFree.bind fun _ _ _ => .onService _

theorem ManagerCall.heard (heard : ¬ made.Quiet registry state) :
    Heard (made.program registry) state := by
  cases made with
  | createArtifact request => exact (createArtifact_heard heard).map _
  | validateArtifact artifactId expectedChecksum now =>
      unfold Quiet at heard
      push Not at heard
      obtain ⟨artifact, found, same, valid⟩ := heard
      refine Heard.map (.later _ (getOrRaise_found found) ?_) _
      rw [if_neg (not_not.mpr same)]
      refine moved_heard now (Bool.eq_true_of_not_eq_false valid) fun _ => ?_
      exact .emit_bind (domainEvent_unnamed _ _ _ rfl) (.ok _)
  | supersedeArtifact artifactId now =>
      exact (moving_heard now (domainEvent_unnamed _ _ _ rfl) heard).map _
  | archiveArtifact artifactId now =>
      exact (moving_heard now (domainEvent_unnamed _ _ _ rfl) heard).map _
  | deleteArtifact order artifactId now =>
      obtain ⟨artifact, found⟩ := Option.ne_none_iff_exists'.mp heard
      refine Heard.map (.later _ (getOrRaise_found found) (.later _ (keep_wired _) ?_)) _
      refine .later () (fun bus => by
        rw [onGraph, call_onService, call_onPart, DependencyGraph.call_remove]) ?_
      exact .emit (domainEvent_unnamed _ _ _ rfl)
  | addDependency order parentId childId relationship => exact absurd trivial heard

theorem ManagerCall.transparent_iff {β : Type} (registry : ArtifactRegistry ρ) (bus : EventBus)
    (state : ManagerState ρ) (uses : List (Use (ManagerState ρ) ManagerCall β)) :
    Transparent (ManagerCall.program registry) bus state uses ↔
      QuietRun (ManagerCall.program registry) (ManagerCall.Quiet registry) state uses := by
  refine Events.transparent_iff ?_ ?_ bus state uses
  · exact fun state made quiet => busFree quiet
  · exact fun state made unquiet => heard unquiet

end Classification

end LexMind.Artifacts
