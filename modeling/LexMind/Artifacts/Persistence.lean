import LexMind.Artifacts.ArtifactRepository

set_option autoImplicit false

/- What is kept of an artifact that is stored, read and written back. -/
namespace LexMind.Artifacts

open Lib

variable {iso : IsoFormat}

section Lookups

variable {table : ArtifactTable} {artifact : Artifact}

theorem shown_rowOf (artifact : Artifact) :
    SqliteArtifactRepositoryImpl.shown (rowOf iso artifact) = true ↔
      artifact.status ≠ .deleted := by
  unfold SqliteArtifactRepositoryImpl.shown
  rw [decide_eq_true_iff]
  exact not_congr (ArtifactStatus.value_eq_iff artifact.status .deleted)

theorem call_getById (found : table.find? artifact.id = some (rowOf iso artifact))
    (live : artifact.status ≠ .deleted) :
    call (SqliteArtifactRepositoryImpl.getById iso artifact.id) table =
      (.ok (some artifact.restored), table) := by
  have visible : SqliteArtifactRepositoryImpl.shown (rowOf iso artifact) = true :=
    (shown_rowOf artifact).mpr live
  simp [SqliteArtifactRepositoryImpl.getById, found, visible, toDomain_rowOf]

/-- The artifacts listed for a document are those of the rows that name it and are shown. -/
theorem call_listByDocument (written : Written iso table) (scan : Arrangement ArtifactRow)
    (documentId : String) :
    ∃ listed, call (SqliteArtifactRepositoryImpl.listByDocument iso scan documentId) table =
        (.ok listed, table) ∧
      ∀ id, (∃ other ∈ listed, other.id = id) ↔
        ∃ row ∈ table.rows, row.id = id ∧ row.documentId = some documentId ∧
          SqliteArtifactRepositoryImpl.shown row = true := by
  have decodes : ∀ row ∈ table.rows, ∃ artifact,
      toDomain iso row = .ok artifact ∧ artifact.id = row.id := by
    intro row stored
    obtain ⟨artifact, rfl⟩ := written row stored
    exact ⟨_, toDomain_rowOf iso artifact, rfl⟩
  obtain ⟨listed, returned, ids⟩ := mapM_filter_returns
    (fun row => row.documentId = some documentId && SqliteArtifactRepositoryImpl.shown row)
    (scan.mem_arrange table.rows) decodes
  refine ⟨listed, ?_, fun id => ?_⟩
  · simp [SqliteArtifactRepositoryImpl.listByDocument, returned]
  · simp only [Bool.and_eq_true, decide_eq_true_eq] at ids
    exact ids id

end Lookups

section Resaving

/-- `update(get_by_id(id))`. -/
def resave (iso : IsoFormat) (artifactId : String) : Py ArtifactTable Unit := do
  match ← SqliteArtifactRepositoryImpl.getById iso artifactId with
  | none => throw (.attributeError "NoneType" "id")
  | some artifact =>
      let _ ← SqliteArtifactRepositoryImpl.update iso artifact

/-- The table after a number of them. -/
def resaved (iso : IsoFormat) (artifactId : String) : Nat → ArtifactTable → ArtifactTable
  | 0, table => table
  | times + 1, table => resaved iso artifactId times (call (resave iso artifactId) table).2

variable {table : ArtifactTable} {artifact : Artifact}

/-- A resave writes the columns of what was restored. -/
theorem call_resave (found : table.find? artifact.id = some (rowOf iso artifact))
    (live : artifact.status ≠ .deleted) :
    call (resave iso artifact.id) table =
      (.ok (), table.put (rowOf iso artifact.restored)) := by
  have read := call_getById found live
  have same : overwrite iso (rowOf iso artifact) artifact.restored =
      rowOf iso artifact.restored := rfl
  have present : table.find? artifact.restored.id = some (rowOf iso artifact) := found
  simp [resave, read, SqliteArtifactRepositoryImpl.update, present, same]

/-- An artifact that no document is set on is written back as it was. -/
theorem resaved_unchanged (found : table.find? artifact.id = some (rowOf iso artifact))
    (live : artifact.status ≠ .deleted) (unset : artifact.documentId = none) (times : Nat) :
    resaved iso artifact.id times table = table := by
  have same : rowOf iso artifact.restored = rowOf iso artifact := by
    unfold rowOf Artifact.restored
    rw [unset]
  have once : (call (resave iso artifact.id) table).2 = table := by
    rw [call_resave found live, same]
    exact table.put_of_find? found
  induction times with
  | zero => rfl
  | succ times ih =>
      rw [resaved, once]
      exact ih

end Resaving

/-- Equal in every field; the attribute aside is none of them. -/
def SameFields (first second : Artifact) : Prop :=
  { first with documentId := none } = { second with documentId := none }

/-- What is read equals the artifact, and no number of resaves changes a field of it or an answer
by document. -/
structure Persisted (iso : IsoFormat) (scan : Arrangement ArtifactRow) (table : ArtifactTable)
    (artifact : Artifact) : Prop where
  read : ∃ found, (call (SqliteArtifactRepositoryImpl.getById iso artifact.id) table).1 =
    .ok (some found) ∧ SameFields found artifact
  kept : ∀ times, (call (SqliteArtifactRepositoryImpl.getById iso artifact.id)
      (resaved iso artifact.id times table)).1 =
    (call (SqliteArtifactRepositoryImpl.getById iso artifact.id) table).1
  listed : ∀ times documentId,
    (call (SqliteArtifactRepositoryImpl.listByDocument iso scan documentId)
        (resaved iso artifact.id times table)).1 =
      (call (SqliteArtifactRepositoryImpl.listByDocument iso scan documentId) table).1

theorem sameFields_restored_iff (artifact : Artifact) :
    SameFields artifact.restored artifact ↔
      artifact.investigationId = "" ∧ artifact.versionsKind = .list := by
  constructor
  · intro same
    exact ⟨(congrArg Artifact.investigationId same).symm,
      (congrArg Artifact.versionsKind same).symm⟩
  · rintro ⟨nowhere, kind⟩
    unfold SameFields Artifact.restored
    rw [← nowhere, ← kind]

/-- The first resave takes an artifact out of the answers for its document. -/
theorem listed_differs {table : ArtifactTable} (written : Written iso table)
    (scan : Arrangement ArtifactRow) {artifact : Artifact}
    (found : table.find? artifact.id = some (rowOf iso artifact))
    (live : artifact.status ≠ .deleted) {documentId : String}
    (set : artifact.documentId = some documentId) :
    (call (SqliteArtifactRepositoryImpl.listByDocument iso scan documentId)
        (resaved iso artifact.id 1 table)).1 ≠
      (call (SqliteArtifactRepositoryImpl.listByDocument iso scan documentId) table).1 := by
  have after : resaved iso artifact.id 1 table = table.put (rowOf iso artifact.restored) := by
    rw [resaved, resaved, call_resave found live]
  obtain ⟨listed, answer, holds⟩ := call_listByDocument written scan documentId
  obtain ⟨listed', answer', holds'⟩ :=
    call_listByDocument (written.put artifact.restored) scan documentId
  rw [after, answer, answer']
  intro same
  have present : ∃ other ∈ listed, other.id = artifact.id :=
    (holds artifact.id).mpr ⟨rowOf iso artifact, Keyed.mem_of_find? found, rfl, set,
      (shown_rowOf artifact).mpr live⟩
  rw [← Except.ok.inj same] at present
  obtain ⟨row, inside, sameId, named, _⟩ := (holds' artifact.id).mp present
  rcases (table.mem_put _ row).mp inside with rfl | ⟨_, other⟩
  · cases named
  · exact other sameId

/-- Over any table the repository has made, a stored artifact is persisted exactly where it has no
investigation, its versions are a list, and no document is set on it. -/
theorem persisted_iff (calls : List RepositoryCall) (scan : Arrangement ArtifactRow)
    {artifact : Artifact} (live : artifact.status ≠ .deleted)
    (accepted : (call (SqliteArtifactRepositoryImpl.create iso artifact)
      (run (repositoryStep iso) Keyed.empty calls).2).1 = .ok artifact) :
    Persisted iso scan (call (SqliteArtifactRepositoryImpl.create iso artifact)
        (run (repositoryStep iso) Keyed.empty calls).2).2 artifact ↔
      artifact.investigationId = "" ∧ artifact.versionsKind = .list ∧
        artifact.documentId = none := by
  have before : Written iso (run (repositoryStep iso) Keyed.empty calls).2 := written_run calls
  generalize (run (repositoryStep iso) Keyed.empty calls).2 = table at before accepted ⊢
  have fresh : table.find? artifact.id = none := by
    cases found : table.find? artifact.id with
    | none => rfl
    | some row =>
        rw [call_create_taken found] at accepted
        cases accepted
  rw [call_create_fresh fresh]
  have written := before.put artifact
  have found : (table.put (rowOf iso artifact)).find? artifact.id = some (rowOf iso artifact) :=
    table.find?_put_self (rowOf iso artifact)
  have read := call_getById found live
  constructor
  · intro persisted
    obtain ⟨other, answer, same⟩ := persisted.read
    rw [read] at answer
    have restored := Option.some.inj (Except.ok.inj answer)
    rw [← restored, sameFields_restored_iff] at same
    refine ⟨same.1, same.2, ?_⟩
    cases set : artifact.documentId with
    | none => rfl
    | some documentId =>
        exact absurd (persisted.listed 1 documentId) (listed_differs written scan found live set)
  · rintro ⟨nowhere, kind, unset⟩
    have unchanged := resaved_unchanged found live unset
    constructor
    · exact ⟨_, by rw [read], (sameFields_restored_iff artifact).mpr ⟨nowhere, kind⟩⟩
    · intro times
      rw [unchanged]
    · intro times documentId
      rw [unchanged]

/-- Times near the epoch: its own text, and the other times by marks. -/
def epochIso : IsoFormat where
  isoformat time :=
    if time = 0 then "1970-01-01T00:00:00+00:00" else String.ofList (List.replicate time 'x')
  fromisoformat text :=
    if text = "1970-01-01T00:00:00+00:00" then .ok 0 else .ok text.toList.length
  back time := by
    by_cases epoch : time = 0
    · rw [if_pos epoch, if_pos rfl, epoch]
    · have marks : String.ofList (List.replicate time 'x') ≠ "1970-01-01T00:00:00+00:00" := by
        intro same
        have chars := congrArg String.toList same
        obtain ⟨rest, rfl⟩ := Nat.exists_eq_succ_of_ne_zero epoch
        rw [String.toList_ofList, List.replicate_succ] at chars
        exact absurd (List.cons.inj chars).1 (by decide)
      rw [if_neg epoch, if_neg marks, String.toList_ofList, List.length_replicate]

theorem sampleId_ne_empty : "a1" ≠ "" := by
  decide

theorem sampleWorkspace_ne_empty : "alpha" ≠ "" := by
  decide

/-- A recognised text, as its producer registers it. -/
def recognised (documentId : Option String) : Artifact where
  id := "a1"
  workspaceId := "alpha"
  investigationId := ""
  artifactType := .ocrText
  subtype := ""
  status := .available
  currentVersion := 1
  producerModule := "ocr"
  producerVersion := ""
  checksum := "c1"
  mediaType := "text/plain"
  storageUri := "storage://alpha/text.txt"
  tags := ["scan"]
  extra := Keyed.empty.putAll [("language", "ro")]
  versions := [⟨"a1", 1, "c1", 0, "ocr", "", "storage://alpha/text.txt", "text/plain", ""⟩]
  versionsKind := .list
  createdAt := 0
  updatedAt := 0
  documentId := documentId
  identified := sampleId_ne_empty
  owned := sampleWorkspace_ne_empty

theorem persisted_unset :
    Persisted epochIso .asStored
      (call (SqliteArtifactRepositoryImpl.create epochIso (recognised none)) Keyed.empty).2
      (recognised none) :=
  (@persisted_iff epochIso [] .asStored (recognised none) (by decide) rfl).mpr ⟨rfl, rfl, rfl⟩

/-- An artifact with a document is no longer listed for it after one resave. -/
theorem persisted_unlisted :
    ¬ ∀ (calls : List RepositoryCall) (scan : Arrangement ArtifactRow) (artifact : Artifact),
      artifact.status ≠ .deleted →
      (call (SqliteArtifactRepositoryImpl.create epochIso artifact)
        (run (repositoryStep epochIso) Keyed.empty calls).2).1 = .ok artifact →
      Persisted epochIso scan (call (SqliteArtifactRepositoryImpl.create epochIso artifact)
        (run (repositoryStep epochIso) Keyed.empty calls).2).2 artifact := by
  intro persists
  have live : (recognised (some "d1")).status ≠ .deleted := by decide
  have persisted := persists [] .asStored (recognised (some "d1")) live rfl
  have written : Written epochIso (Keyed.empty.put (rowOf epochIso (recognised (some "d1")))) :=
    Written.empty.put _
  exact listed_differs written .asStored rfl live rfl (persisted.listed 1 "d1")

end LexMind.Artifacts
