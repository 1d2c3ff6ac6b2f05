import LexMind.Artifacts.Artifact
import LexMind.Json
import LexMind.Lib.Run

set_option autoImplicit false

namespace LexMind.Artifacts

open Lib Lib.Nested

/-- `isoformat` of a time, and `fromisoformat`, which reads it back or raises a `ValueError`. -/
structure IsoFormat where
  isoformat : Timestamp → String
  fromisoformat : String → Except String Timestamp
  back : ∀ time, fromisoformat (isoformat time) = .ok time

/-- A row of the `artifacts` table. The JSON columns hold what their texts denote, and nothing
where the text is empty. -/
structure ArtifactRow where
  id : String
  workspaceId : String
  documentId : Option String
  artifactType : String
  subtype : String
  status : String
  currentVersion : Int
  producerModule : String
  producerVersion : String
  checksum : String
  mediaType : String
  storageUri : String
  tags : Option Json
  extra : Option Json
  versions : Option Json
  createdAt : Timestamp
  updatedAt : Timestamp

abbrev ArtifactTable := Keyed ArtifactRow.id

variable (iso : IsoFormat)

section Columns

def serializeVersion (version : ArtifactVersion) : Json :=
  Json.ofObject [("artifact_id", .ofText version.artifactId),
    ("version_number", .ofInt version.versionNumber), ("checksum", .ofText version.checksum),
    ("created_at", .ofText (iso.isoformat version.createdAt)),
    ("producer_module", .ofText version.producerModule),
    ("producer_version", .ofText version.producerVersion),
    ("storage_uri", .ofText version.storageUri), ("media_type", .ofText version.mediaType),
    ("notes", .ofText version.notes)]

def serializeVersions (versions : List ArtifactVersion) : Json :=
  Json.ofList (versions.map (serializeVersion iso))

def rowOf (artifact : Artifact) : ArtifactRow where
  id := artifact.id
  workspaceId := artifact.workspaceId
  documentId := artifact.documentId
  artifactType := artifact.artifactType.value
  subtype := artifact.subtype
  status := artifact.status.value
  currentVersion := artifact.currentVersion
  producerModule := artifact.producerModule
  producerVersion := artifact.producerVersion
  checksum := artifact.checksum
  mediaType := artifact.mediaType
  storageUri := artifact.storageUri
  tags := some (Json.ofList (artifact.tags.map Json.ofText))
  extra := some (Json.ofObject (artifact.extra.rows.map (fun entry => (entry.1, .ofText entry.2))))
  versions := some (serializeVersions iso artifact.versions)
  createdAt := artifact.createdAt
  updatedAt := artifact.updatedAt

/-- The columns `update` assigns; the id and the creation time of the row stay. -/
def overwrite (row : ArtifactRow) (artifact : Artifact) : ArtifactRow :=
  { rowOf iso artifact with id := row.id, createdAt := row.createdAt }

def deserializeVersion (item : Json) : Except PyExc ArtifactVersion := do
  let item ← Json.asObject item
  let createdAt ← Json.asText (← Json.field item "created_at")
  let createdAt ← (iso.fromisoformat createdAt).mapError PyExc.valueError
  let artifactId ← Json.asText (← Json.field item "artifact_id")
  let versionNumber ← Json.asInt (← Json.field item "version_number")
  let checksum ← Json.asText (← Json.field item "checksum")
  let producerModule ← Json.textOr item "producer_module"
  let producerVersion ← Json.textOr item "producer_version"
  let storageUri ← Json.textOr item "storage_uri"
  let mediaType ← Json.textOr item "media_type"
  let notes ← Json.textOr item "notes"
  return ⟨artifactId, versionNumber, checksum, createdAt, producerModule, producerVersion,
    storageUri, mediaType, notes⟩

def deserializeVersions (raw : Json) : Except PyExc (List ArtifactVersion) := do
  (← Json.asList raw).mapM (deserializeVersion iso)

def tagsOf (raw : Json) : Except PyExc (List String) := do
  (← Json.asList raw).mapM Json.asText

def extraOf (raw : Json) : Except PyExc Extra := do
  let entries ← (← Json.asObject raw).toList.mapM (fun entry =>
    do return (entry.1, ← Json.asText entry.2))
  return Keyed.empty.putAll entries

/-- What an empty column stands for, and what else is decoded. -/
def columnOr {α : Type} (empty : α) (decode : Json → Except PyExc α) :
    Option Json → Except PyExc α
  | none => .ok empty
  | some raw => decode raw

/-- The constructor call at the end of the decoder, with its own checks. -/
def artifactOf (row : ArtifactRow) (artifactType : ArtifactType) (status : ArtifactStatus)
    (tags : List String) (extra : Extra) (versions : List ArtifactVersion) :
    Except PyExc Artifact :=
  if identified : row.id = "" then
    .error (.artifactValidation row.id "artifact_id is required")
  else if owned : row.workspaceId = "" then
    .error (.artifactValidation row.id "workspace_id is required")
  else
    .ok {
      id := row.id
      workspaceId := row.workspaceId
      investigationId := ""
      artifactType := artifactType
      subtype := row.subtype
      status := status
      currentVersion := row.currentVersion
      producerModule := row.producerModule
      producerVersion := row.producerVersion
      checksum := row.checksum
      mediaType := row.mediaType
      storageUri := row.storageUri
      tags := tags
      extra := extra
      versions := versions
      versionsKind := .list
      createdAt := row.createdAt
      updatedAt := row.updatedAt
      documentId := none
      identified := identified
      owned := owned }

def toDomain (row : ArtifactRow) : Except PyExc Artifact := do
  let artifactType ← ArtifactType.of row.artifactType
  let status ← ArtifactStatus.of row.status
  let tags ← columnOr [] tagsOf row.tags
  let extra ← columnOr Keyed.empty extraOf row.extra
  let versions ← columnOr [] (deserializeVersions iso) row.versions
  artifactOf row artifactType status tags extra versions

end Columns

namespace SqliteArtifactRepositoryImpl

def create (artifact : Artifact) : Py ArtifactTable Artifact := do
  if (← get).contains artifact.id then
    throw (.integrityError "artifacts" artifact.id)
  modify (fun table => table.put (rowOf iso artifact))
  return artifact

def update (artifact : Artifact) : Py ArtifactTable Artifact := do
  match (← get).find? artifact.id with
  | none => throw (.entityNotFound "Artifact" artifact.id)
  | some row =>
      modify (fun table => table.put (overwrite iso row artifact))
      return artifact

/-- Rows of deleted artifacts are hidden from every lookup. -/
def shown (row : ArtifactRow) : Bool := row.status ≠ ArtifactStatus.deleted.value

def getById (artifactId : String) : Py ArtifactTable (Option Artifact) := do
  match (← get).find? artifactId with
  | none => return none
  | some row => if shown row then return some (← check (toDomain iso row)) else return none

/-- The first row with the URI, in the order in which the database happens to scan them. -/
def getByUri (scan : Arrangement ArtifactRow) (storageUri : String) :
    Py ArtifactTable (Option Artifact) := do
  match (scan.arrange (← get).rows).find? (fun row => row.storageUri = storageUri && shown row) with
  | none => return none
  | some row => return some (← check (toDomain iso row))

def listByDocument (scan : Arrangement ArtifactRow) (documentId : String) :
    Py ArtifactTable (List Artifact) := do
  let rows := (scan.arrange (← get).rows).filter
    (fun row => row.documentId = some documentId && shown row)
  check (rows.mapM (toDomain iso))

def delete (artifactId : String) : Py ArtifactTable Unit := do
  if (← get).contains artifactId then
    modify (fun table => table.erase artifactId)
  else
    throw (.entityNotFound "Artifact" artifactId)

end SqliteArtifactRepositoryImpl

section Decoding

theorem deserializeVersion_serialize (version : ArtifactVersion) :
    deserializeVersion iso (serializeVersion iso version) = .ok version := by
  have time := iso.back version.createdAt
  change ((iso.fromisoformat (iso.isoformat version.createdAt)).mapError PyExc.valueError >>=
    fun createdAt => .ok { version with createdAt := createdAt }) = _
  rw [time]
  rfl

theorem deserializeVersions_serialize (versions : List ArtifactVersion) :
    deserializeVersions iso (serializeVersions iso versions) = .ok versions := by
  unfold deserializeVersions serializeVersions
  rw [Json.asList_ofList]
  show (versions.map (serializeVersion iso)).mapM (deserializeVersion iso) = _
  induction versions with
  | nil => rfl
  | cons version rest ih =>
      rw [List.map_cons, List.mapM_cons, deserializeVersion_serialize, ih]
      rfl

theorem tagsOf_ofText (tags : List String) :
    tagsOf (Json.ofList (tags.map Json.ofText)) = .ok tags := by
  unfold tagsOf
  rw [Json.asList_ofList]
  exact mapM_asText tags

theorem extraOf_ofText (extra : Extra) :
    extraOf (Json.ofObject (extra.rows.map (fun entry => (entry.1, .ofText entry.2)))) =
      .ok extra := by
  have entries : ∀ rows : List (String × String),
      (rows.map (fun entry => (entry.1, Json.ofText entry.2))).mapM
        (fun entry => do return (entry.1, ← Json.asText entry.2)) =
          (.ok rows : Except PyExc (List (String × String))) := by
    intro rows
    induction rows with
    | nil => rfl
    | cons entry rest ih =>
        rw [List.map_cons, List.mapM_cons, ih]
        rfl
  unfold extraOf Json.ofObject Json.asObject
  simp only [bind, Except.bind, pure, Except.pure] at entries ⊢
  rw [Entries.toList_ofList, entries]
  show Except.ok (Keyed.empty.putAll extra.rows) = _
  rw [Keyed.putAll_empty]

/-- An artifact as it comes back from its columns. -/
def Artifact.restored (artifact : Artifact) : Artifact :=
  { artifact with investigationId := "", versionsKind := .list, documentId := none }

theorem artifactOf_rowOf (artifact : Artifact) :
    artifactOf (rowOf iso artifact) artifact.artifactType artifact.status artifact.tags
      artifact.extra artifact.versions = .ok artifact.restored := by
  have identified : ¬ (rowOf iso artifact).id = "" := artifact.identified
  have owned : ¬ (rowOf iso artifact).workspaceId = "" := artifact.owned
  unfold artifactOf
  rw [dif_neg identified, dif_neg owned]
  rfl

theorem toDomain_rowOf (artifact : Artifact) :
    toDomain iso (rowOf iso artifact) = .ok artifact.restored := by
  have artifactType := ArtifactType.of_value artifact.artifactType
  have status := ArtifactStatus.of_value artifact.status
  have tags := tagsOf_ofText artifact.tags
  have extra := extraOf_ofText artifact.extra
  have versions := deserializeVersions_serialize iso artifact.versions
  unfold toDomain
  simp only [rowOf, artifactType, status, columnOr, tags, extra, versions, bind, Except.bind]
  exact artifactOf_rowOf iso artifact

/-- The columns tell apart what is restored from them. -/
theorem restored_of_rowOf {first second : Artifact} (same : rowOf iso first = rowOf iso second) :
    first.restored = second.restored := by
  have decoded : (Except.ok first.restored : Except PyExc Artifact) = .ok second.restored := by
    rw [← toDomain_rowOf iso first, ← toDomain_rowOf iso second, same]
  exact Except.ok.inj decoded

end Decoding

section Writes

variable {iso}

/-- Every row holds the columns of an artifact. -/
def Written (iso : IsoFormat) (table : ArtifactTable) : Prop :=
  ∀ row ∈ table.rows, ∃ artifact, row = rowOf iso artifact

theorem overwrite_eq {row : ArtifactRow} {artifact : Artifact} (same : row.id = artifact.id) :
    overwrite iso row artifact = rowOf iso { artifact with createdAt := row.createdAt } := by
  rw [overwrite, same]
  rfl

/-- The calls that change the table. -/
inductive RepositoryCall
  | create (artifact : Artifact)
  | update (artifact : Artifact)
  | delete (artifactId : String)

def RepositoryCall.program (iso : IsoFormat) : RepositoryCall → Py ArtifactTable Unit
  | create artifact => do
      let _ ← SqliteArtifactRepositoryImpl.create iso artifact
  | update artifact => do
      let _ ← SqliteArtifactRepositoryImpl.update iso artifact
  | delete artifactId => SqliteArtifactRepositoryImpl.delete artifactId

def repositoryStep (iso : IsoFormat) (table : ArtifactTable) (made : RepositoryCall) :
    Except PyExc Unit × ArtifactTable :=
  call (made.program iso) table

theorem Written.empty : Written iso Keyed.empty := by
  intro row inside
  cases inside

theorem Written.put {table : ArtifactTable} (written : Written iso table) (artifact : Artifact) :
    Written iso (table.put (rowOf iso artifact)) := by
  intro row inside
  rcases (table.mem_put _ row).mp inside with rfl | ⟨before, _⟩
  · exact ⟨artifact, rfl⟩
  · exact written row before

theorem call_create_fresh {table : ArtifactTable} {artifact : Artifact}
    (fresh : table.find? artifact.id = none) :
    call (SqliteArtifactRepositoryImpl.create iso artifact) table =
      (.ok artifact, table.put (rowOf iso artifact)) := by
  have free : table.contains artifact.id = false := by
    rw [Keyed.contains, fresh]
    rfl
  simp [SqliteArtifactRepositoryImpl.create, free]

theorem call_create_taken {table : ArtifactTable} {artifact : Artifact} {row : ArtifactRow}
    (taken : table.find? artifact.id = some row) :
    call (SqliteArtifactRepositoryImpl.create iso artifact) table =
      (.error (.integrityError "artifacts" artifact.id), table) := by
  have present : table.contains artifact.id = true := by
    rw [Keyed.contains, taken]
    rfl
  simp [SqliteArtifactRepositoryImpl.create, present]

theorem call_update {table : ArtifactTable} {artifact : Artifact} {row : ArtifactRow}
    (found : table.find? artifact.id = some row) :
    call (SqliteArtifactRepositoryImpl.update iso artifact) table =
      (.ok artifact, table.put (rowOf iso { artifact with createdAt := row.createdAt })) := by
  have same := Keyed.key_of_find? found
  rw [← overwrite_eq same]
  simp [SqliteArtifactRepositoryImpl.update, found]

theorem call_update_absent {table : ArtifactTable} {artifact : Artifact}
    (absent : table.find? artifact.id = none) :
    call (SqliteArtifactRepositoryImpl.update iso artifact) table =
      (.error (.entityNotFound "Artifact" artifact.id), table) := by
  simp [SqliteArtifactRepositoryImpl.update, absent]

theorem Written.step {table : ArtifactTable} (written : Written iso table)
    (made : RepositoryCall) : Written iso (repositoryStep iso table made).2 := by
  unfold repositoryStep
  cases made with
  | create artifact =>
      cases found : table.find? artifact.id with
      | none => simpa [RepositoryCall.program, call_create_fresh found] using written.put artifact
      | some row => simpa [RepositoryCall.program, call_create_taken found] using written
  | update artifact =>
      cases found : table.find? artifact.id with
      | none => simpa [RepositoryCall.program, call_update_absent found] using written
      | some row =>
          simpa [RepositoryCall.program, call_update found] using
            written.put { artifact with createdAt := row.createdAt }
  | delete artifactId =>
      by_cases present : table.contains artifactId = true
      · simp only [RepositoryCall.program, SqliteArtifactRepositoryImpl.delete, call_bind,
          call_get, andThen_ok, present, if_true, call_modify]
        intro row inside
        exact written row ((table.mem_erase artifactId row).mp inside).1
      · simpa [RepositoryCall.program, SqliteArtifactRepositoryImpl.delete, present] using written

/-- The tables the repository makes. -/
theorem written_run (calls : List RepositoryCall) :
    Written iso (run (repositoryStep iso) Keyed.empty calls).2 :=
  run_invariant (fun _ made kept => kept.step made) Written.empty calls

end Writes

end LexMind.Artifacts
