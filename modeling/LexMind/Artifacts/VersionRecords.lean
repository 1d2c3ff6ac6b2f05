import LexMind.Artifacts.ArtifactManager
import LexMind.Lib.Run

set_option autoImplicit false

/- The version records of an artifact, over its whole life. -/
namespace LexMind.Artifacts

open Lib

section Model

namespace Artifact

variable (artifact : Artifact)

def markInvalid (now : Timestamp) : Except PyExc Artifact := artifact.transition .invalid now

def latestVersion : Option ArtifactVersion := artifact.versions.getLast?

end Artifact

/-- The calls of an artifact's life. -/
inductive LifeCall
  | markAvailable (now : Timestamp)
  | markInvalid (now : Timestamp)
  | supersede (now : Timestamp)
  | archive (now : Timestamp)
  | delete (now : Timestamp)
  | createNewVersion (checksum producerModule producerVersion storageUri mediaType notes : String)
      (made now : Timestamp)

def LifeCall.apply (artifact : Artifact) : LifeCall → Except PyExc Artifact
  | .markAvailable now => artifact.markAvailable now
  | .markInvalid now => artifact.markInvalid now
  | .supersede now => artifact.supersede now
  | .archive now => artifact.archive now
  | .delete now => .ok (artifact.delete now)
  | .createNewVersion checksum producerModule producerVersion storageUri mediaType notes made now =>
      artifact.createNewVersion checksum producerModule producerVersion storageUri mediaType notes made
        now

/-- A call that raises has changed nothing by then. -/
def lifeStep (artifact : Artifact) (lifeCall : LifeCall) : Except PyExc Unit × Artifact :=
  match lifeCall.apply artifact with
  | .ok after => (.ok (), after)
  | .error exc => (.error exc, artifact)

end Model

section Contracts

/-- The checksum of `then` is recorded in `records` under the number it had. -/
def RecordedIn (records : List ArtifactVersion) (earlier : Artifact) : Prop :=
  ∃ version ∈ records, version.versionNumber = earlier.currentVersion ∧
    version.checksum = earlier.checksum

/-- Every checksum the artifact has ever had is recorded, the first one included. -/
structure WhollyRecorded (start : Artifact) (calls : List LifeCall) : Prop where
  numbers : ∃ first : Int, (run lifeStep start calls).2.versions.map ArtifactVersion.versionNumber =
    (List.range (run lifeStep start calls).2.versions.length).map fun (offset : Nat) => first + offset
  latest : ∃ version, (run lifeStep start calls).2.latestVersion = some version ∧
    version.versionNumber = (run lifeStep start calls).2.currentVersion ∧
    version.checksum = (run lifeStep start calls).2.checksum
  kept : ∀ front, front <+: calls →
    RecordedIn (run lifeStep start calls).2.versions (run lifeStep start front).2

/-- The records are numbered from 2 to the current version, the latest one has the checksum that is
the artifact's, and every checksum from version 2 on stays recorded. -/
structure RecordedFromSecond (start : Artifact) (calls : List LifeCall) : Prop where
  numbers : (run lifeStep start calls).2.versions.map ArtifactVersion.versionNumber =
    (List.range (run lifeStep start calls).2.versions.length).map fun (offset : Nat) => (2 + offset : Int)
  ends : (run lifeStep start calls).2.currentVersion =
    1 + (run lifeStep start calls).2.versions.length
  latest : ∀ version, (run lifeStep start calls).2.latestVersion = some version →
    version.versionNumber = (run lifeStep start calls).2.currentVersion ∧
      version.checksum = (run lifeStep start calls).2.checksum
  unversioned : (run lifeStep start calls).2.latestVersion = none ↔
    (run lifeStep start calls).2.currentVersion = 1
  kept : ∀ front, front <+: calls → (run lifeStep start front).2.currentVersion ≠ 1 →
    RecordedIn (run lifeStep start calls).2.versions (run lifeStep start front).2

end Contracts

section Steps

/-- A call appends a record of the new version, or leaves version, checksum and records alone. -/
theorem lifeStep_cases (artifact : Artifact) (lifeCall : LifeCall) :
    (∃ version, (lifeStep artifact lifeCall).2.versions = artifact.versions ++ [version] ∧
        version.versionNumber = artifact.currentVersion + 1 ∧
        (lifeStep artifact lifeCall).2.currentVersion = artifact.currentVersion + 1 ∧
        version.checksum = (lifeStep artifact lifeCall).2.checksum) ∨
      (lifeStep artifact lifeCall).2.versions = artifact.versions ∧
        (lifeStep artifact lifeCall).2.currentVersion = artifact.currentVersion ∧
        (lifeStep artifact lifeCall).2.checksum = artifact.checksum := by
  have moves {target : ArtifactStatus} {now : Timestamp}
      (transits : lifeCall.apply artifact = artifact.transition target now) :
      (lifeStep artifact lifeCall).2.versions = artifact.versions ∧
        (lifeStep artifact lifeCall).2.currentVersion = artifact.currentVersion ∧
        (lifeStep artifact lifeCall).2.checksum = artifact.checksum := by
    rw [lifeStep, transits, Artifact.transition]
    by_cases valid : canTransitionArtifact artifact.status target = true
    · rw [if_pos valid]
      exact ⟨rfl, rfl, rfl⟩
    · rw [if_neg valid]
      exact ⟨rfl, rfl, rfl⟩
  cases lifeCall with
  | markAvailable now => exact .inr (moves rfl)
  | markInvalid now => exact .inr (moves rfl)
  | supersede now => exact .inr (moves rfl)
  | archive now => exact .inr (moves rfl)
  | delete now => exact .inr ⟨rfl, rfl, rfl⟩
  | createNewVersion checksum producerModule producerVersion storageUri mediaType notes made now =>
      rw [lifeStep, LifeCall.apply, Artifact.createNewVersion]
      by_cases ended : artifact.status = .deleted ∨ artifact.status = .archived
      · rw [if_pos ended]
        exact .inr ⟨rfl, rfl, rfl⟩
      · rw [if_neg ended]
        exact .inl ⟨_, rfl, rfl, rfl, rfl⟩

/-- What the records of an artifact say of it. -/
structure Kept (artifact : Artifact) : Prop where
  numbers : artifact.versions.map ArtifactVersion.versionNumber =
    (List.range artifact.versions.length).map fun (offset : Nat) => (2 + offset : Int)
  ends : artifact.currentVersion = 1 + artifact.versions.length
  latest : ∀ version, artifact.latestVersion = some version →
    version.versionNumber = artifact.currentVersion ∧ version.checksum = artifact.checksum

theorem kept_step (artifact : Artifact) (lifeCall : LifeCall) (kept : Kept artifact) :
    Kept (lifeStep artifact lifeCall).2 := by
  rcases lifeStep_cases artifact lifeCall with ⟨version, records, number, bumped, checksum⟩ |
    ⟨records, same, checksum⟩
  · have ends := kept.ends
    refine ⟨?_, ?_, ?_⟩
    · rw [records, List.map_append, kept.numbers, List.length_append, List.length_singleton,
        List.range_succ, List.map_append, List.map_singleton, List.map_singleton, number, ends]
      congr 2
      omega
    · rw [bumped, records, List.length_append, List.length_singleton]
      omega
    · intro last found
      rw [Artifact.latestVersion, records, List.getLast?_concat] at found
      cases found
      exact ⟨number.trans bumped.symm, checksum⟩
  · refine ⟨?_, ?_, ?_⟩
    · rw [records]
      exact kept.numbers
    · rw [same, records]
      exact kept.ends
    · rw [Artifact.latestVersion, records, same, checksum]
      exact kept.latest

/-- No record is lost. -/
theorem versions_kept (artifact : Artifact) (calls : List LifeCall) :
    artifact.versions <+: (run lifeStep artifact calls).2.versions := by
  have keeps (later : Artifact) (lifeCall : LifeCall)
      (before : artifact.versions <+: later.versions) :
      artifact.versions <+: (lifeStep later lifeCall).2.versions := by
    rcases lifeStep_cases later lifeCall with ⟨version, records, _⟩ | ⟨records, _⟩
    · rw [records]
      exact before.trans (List.prefix_append _ _)
    · rwa [records]
  exact @run_invariant _ _ _ lifeStep (fun later => artifact.versions <+: later.versions) keeps
    artifact (List.prefix_refl _) calls

theorem Kept.unversioned {artifact : Artifact} (kept : Kept artifact) :
    artifact.latestVersion = none ↔ artifact.currentVersion = 1 := by
  rw [Artifact.latestVersion, List.getLast?_eq_none_iff, kept.ends, ← List.length_eq_zero_iff]
  omega

end Steps

/-- An artifact that has been created, whatever happens to it, keeps a record of each of its
versions from the second on. -/
theorem versions_recorded {request : CreateArtifact} {artifact : Artifact}
    (created : request.artifact = .ok artifact) (calls : List LifeCall) :
    RecordedFromSecond artifact calls := by
  have start : Kept artifact := by
    unfold CreateArtifact.artifact at created
    split at created
    · cases created
    · split at created
      · cases created
      · cases created
        exact ⟨rfl, rfl, fun _ none => absurd none (Option.some_ne_none _).symm⟩
  have all (front : List LifeCall) : Kept (run lifeStep artifact front).2 :=
    run_invariant kept_step start front
  have final := all calls
  refine ⟨final.numbers, final.ends, final.latest, final.unversioned, ?_⟩
  rintro front ⟨rest, rfl⟩ versioned
  cases found : (run lifeStep artifact front).2.latestVersion with
  | none => exact absurd ((all front).unversioned.mp found) versioned
  | some version =>
      refine ⟨version, ?_, (all front).latest version found⟩
      rw [run_append_state]
      exact (versions_kept _ rest).subset (List.mem_of_getLast? found)

/-- A text that is read again. -/
def scannedText : CreateArtifact :=
  ⟨"a", "w", .ocrText, "one", "", "", "", "", "", "", [], 0, 0⟩

theorem versions_recorded_scanned : ∃ artifact, scannedText.artifact = .ok artifact ∧
    RecordedFromSecond artifact [.markAvailable 1, .createNewVersion "two" "" "" "" "" "" 2 2] :=
  ⟨_, rfl, @versions_recorded scannedText _ rfl _⟩

/-- Its first checksum is recorded neither while it is the artifact's nor later. -/
theorem first_checksum_unrecorded : ∃ artifact, scannedText.artifact = .ok artifact ∧
    ¬ WhollyRecorded artifact [] ∧
      ¬ WhollyRecorded artifact [.createNewVersion "two" "" "" "" "" "" 2 2] := by
  refine ⟨_, rfl, fun recorded => ?_, fun recorded => ?_⟩
  · obtain ⟨version, none, _⟩ := recorded.latest
    cases none
  · obtain ⟨version, inside, _, checksum⟩ := recorded.kept [] List.nil_prefix
    cases List.mem_singleton.mp inside
    revert checksum
    decide

end LexMind.Artifacts
