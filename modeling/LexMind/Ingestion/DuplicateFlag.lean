import LexMind.Ingestion.ImportService
import LexMind.Storage.Isolation

set_option autoImplicit false

/- What the duplicate flag of an import depends on. -/
namespace LexMind.Ingestion

open Lib Events Documents Storage

/-- The lookup by hash looks at every workspace. -/
theorem call_findByHash {text : TextMethods} {table : DocumentTable} (written : Written text table)
    (scan : Arrangement DocumentRow) (fileHash : String) :
    ∃ found, call (SqliteDocumentRepositoryImpl.findByHash text scan fileHash) table =
        (.ok found, table) ∧
      (found.isSome = true ↔ ∃ row ∈ table.rows, row.fileHash = some fileHash) := by
  cases hit : (scan.arrange table.rows).find? (fun row => row.fileHash = some fileHash) with
  | none =>
      refine ⟨none, by simp [SqliteDocumentRepositoryImpl.findByHash, hit], ?_⟩
      have absent := List.find?_eq_none.mp hit
      constructor
      · intro some
        cases some
      · rintro ⟨row, inside, same⟩
        have differs := absent row ((scan.mem_arrange table.rows row).mpr inside)
        exact absurd same (by simpa using differs)
  | some row =>
      have inside := (scan.mem_arrange table.rows row).mp (List.mem_of_find?_eq_some hit)
      have same : row.fileHash = some fileHash := by simpa using List.find?_some hit
      obtain ⟨document, rfl⟩ := written row inside
      obtain ⟨found, decoded⟩ :
          ∃ found, SqliteDocumentRepositoryImpl.toDomain text (rowOf document) = .ok found :=
        ⟨_, SqliteDocumentRepositoryImpl.toDomain_rowOf document⟩
      refine ⟨some found, by simp [SqliteDocumentRepositoryImpl.findByHash, hit, decoded], ?_⟩
      exact ⟨fun _ => ⟨_, inside, same⟩, fun _ => rfl⟩

namespace ImportService

variable {service : ImportService} {filePath : String}

/-- What an import needs besides the documents table: a supported format, a file name and a
workspace the entity takes, and a storage that takes the file. -/
structure Accepts (service : ImportService) (made : Made) (filePath : String) (fileData : Bytes)
    (tree : HostTree) : Prop where
  format : (formatMap.lookup (service.extOf filePath)).isSome = true
  name : ∃ path, FilePath.of (nameOf filePath) = .ok path
  workspace : service.workspaceId ≠ ""
  saved : (call (service.storage.save (service.buildUri made.id (nameOf filePath)) fileData)
    tree).1 = .ok ()

/-- Where the name and the workspace are taken, the entity holds the flag and the hash. -/
theorem newDocument_ok (made : Made) (title : String) (fileData : Bytes)
    (name : ∃ path, FilePath.of (nameOf filePath) = .ok path)
    (workspace : service.workspaceId ≠ "") (isDuplicate : Bool) :
    ∃ document,
      service.newDocument made filePath title (service.sha1 fileData) isDuplicate = .ok document ∧
      document.id = made.id ∧ document.isDuplicate = isDuplicate ∧
      document.mimeType =
        (mimeMap.lookup (service.extOf filePath)).getD "application/octet-stream" := by
  obtain ⟨path, taken⟩ := name
  have hash : FileHash.of (service.sha1 fileData) = .ok ⟨_, service.sha1_hex fileData⟩ :=
    dif_pos (service.sha1_hex fileData)
  unfold newDocument
  rw [taken, hash]
  simp only [bind, Except.bind]
  rw [dif_neg workspace]
  exact ⟨_, rfl, rfl, rfl, rfl⟩

/-- Otherwise it is refused. -/
theorem newDocument_refused (made : Made) (title : String) (fileData : Bytes)
    (refused : ¬ ((∃ path, FilePath.of (nameOf filePath) = .ok path) ∧ service.workspaceId ≠ ""))
    (isDuplicate : Bool) : ∃ exc,
      service.newDocument made filePath title (service.sha1 fileData) isDuplicate = .error exc := by
  have hash : FileHash.of (service.sha1 fileData) = .ok ⟨_, service.sha1_hex fileData⟩ :=
    dif_pos (service.sha1_hex fileData)
  unfold newDocument
  rw [hash]
  cases taken : FilePath.of (nameOf filePath) with
  | error exc => exact ⟨exc, rfl⟩
  | ok path =>
      have nowhere : service.workspaceId = "" := by
        by_contra workspace
        exact refused ⟨⟨path, taken⟩, workspace⟩
      simp only [bind, Except.bind]
      rw [dif_pos nowhere]
      exact ⟨_, rfl⟩

/-- The flag of the document that an import stores without an event bus, if it stores one. -/
def importedFlag (service : ImportService) (scan : Arrangement DocumentRow) (made : Made)
    (filePath : String) (fileData : Bytes) (title : String) (state : ImportState) : Option Bool :=
  let after := (call (service.importFile scan made filePath fileData title) ⟨state, none⟩).2
  (after.service.documents.find? made.id).map DocumentRow.isDuplicate

variable {made : Made} {fileData : Bytes} (scan : Arrangement DocumentRow) (title : String)
  (state : ImportState)

theorem importedFlag_accepted (written : Written service.text state.documents)
    (fresh : state.documents.find? made.id = none)
    (accepts : service.Accepts made filePath fileData state.tree) :
    ∃ flag, service.importedFlag scan made filePath fileData title state = some flag ∧
      (flag = true ↔
        ∃ row ∈ state.documents.rows, row.fileHash = some (service.sha1 fileData)) := by
  obtain ⟨found, lookup, hit⟩ := call_findByHash written scan (service.sha1 fileData)
  obtain ⟨document, built, sameId, sameFlag, -⟩ :=
    newDocument_ok made title fileData accepts.name
      accepts.workspace found.isSome
  have supported := accepts.format
  obtain ⟨tree, saved⟩ : ∃ tree, call (service.storage.save
      (service.buildUri document.id (nameOf filePath)) fileData) state.tree = (.ok (), tree) := by
    rw [sameId]
    exact ⟨_, Prod.ext accepts.saved rfl⟩
  have free : state.documents.contains document.id = false := by
    rw [Keyed.contains, sameId, fresh]
    rfl
  refine ⟨found.isSome, ?_, hit⟩
  unfold importedFlag importFile
  have stored : (state.documents.put (rowOf document)).find? made.id = some (rowOf document) := by
    rw [← sameId]
    exact state.documents.find?_put_self (rowOf document)
  simp [Option.isNone_eq_false_iff.mpr supported, lookup, built, saved,
    SqliteDocumentRepositoryImpl.create, free, stored]
  exact sameFlag

theorem importedFlag_refused (written : Written service.text state.documents)
    (fresh : state.documents.find? made.id = none)
    (refuses : ¬ service.Accepts made filePath fileData state.tree) :
    service.importedFlag scan made filePath fileData title state = none := by
  obtain ⟨found, lookup, _⟩ := call_findByHash written scan (service.sha1 fileData)
  unfold importedFlag importFile
  by_cases supported : (formatMap.lookup (service.extOf filePath)).isSome = true
  · by_cases named : (∃ path, FilePath.of (nameOf filePath) = .ok path) ∧ service.workspaceId ≠ ""
    · obtain ⟨document, built, sameId, -⟩ := newDocument_ok made title fileData named.1
        named.2 found.isSome
      obtain ⟨exc, tree, unsaved⟩ : ∃ exc tree, call (service.storage.save
          (service.buildUri document.id (nameOf filePath)) fileData) state.tree =
            (.error exc, tree) := by
        rw [sameId]
        cases answer : call (service.storage.save
            (service.buildUri made.id (nameOf filePath)) fileData) state.tree with
        | mk result tree =>
            cases result with
            | error exc => exact ⟨exc, tree, rfl⟩
            | ok done =>
                exact absurd ⟨supported, named.1, named.2, by rw [answer]⟩ refuses
      simp [Option.isNone_eq_false_iff.mpr supported, lookup, built, unsaved, fresh]
    · obtain ⟨exc, refused⟩ := newDocument_refused made title fileData named found.isSome
      simp [Option.isNone_eq_false_iff.mpr supported, lookup, refused, fresh]
  · have unsupported : (formatMap.lookup (service.extOf filePath)).isNone = true :=
      Option.isNone_iff_eq_none.mpr (Option.not_isSome_iff_eq_none.mp supported)
    simp [unsupported, fresh]

/-- A document of the workspace has the hash. -/
def StoredHash (workspaceId fileHash : String) (table : DocumentTable) : Prop :=
  ∃ row ∈ table.rows, row.fileHash = some fileHash ∧ row.workspaceId = workspaceId

/-- Two tables with the same documents of a workspace. -/
def SameWorkspace (workspaceId : String) (first second : DocumentTable) : Prop :=
  ∀ row : DocumentRow, row.workspaceId = workspaceId → (row ∈ first.rows ↔ row ∈ second.rows)

/-- Where another workspace has the hash, this one has it too. -/
def Unshadowed (workspaceId fileHash : String) (table : DocumentTable) : Prop :=
  (∃ row ∈ table.rows, row.fileHash = some fileHash ∧ row.workspaceId ≠ workspaceId) →
    StoredHash workspaceId fileHash table

theorem SameWorkspace.storedHash {workspaceId fileHash : String} {first second : DocumentTable}
    (same : SameWorkspace workspaceId first second) :
    StoredHash workspaceId fileHash first ↔ StoredHash workspaceId fileHash second := by
  constructor
  · rintro ⟨row, inside, hash, home⟩
    exact ⟨row, (same row home).mp inside, hash, home⟩
  · rintro ⟨row, inside, hash, home⟩
    exact ⟨row, (same row home).mpr inside, hash, home⟩

/-- What the lookup sees is what the workspace has exactly where no other one shadows it. -/
theorem unshadowed_iff (workspaceId fileHash : String) (table : DocumentTable) :
    Unshadowed workspaceId fileHash table ↔
      ((∃ row ∈ table.rows, row.fileHash = some fileHash) ↔
        StoredHash workspaceId fileHash table) := by
  constructor
  · intro unshadowed
    constructor
    · rintro ⟨row, inside, hash⟩
      by_cases home : row.workspaceId = workspaceId
      · exact ⟨row, inside, hash, home⟩
      · exact unshadowed ⟨row, inside, hash, home⟩
    · rintro ⟨row, inside, hash, _⟩
      exact ⟨row, inside, hash⟩
  · rintro same ⟨row, inside, hash, _⟩
    exact same.mp ⟨row, inside, hash⟩

/-- Over two tables that agree on the workspace, an import stores the same flag, and it says
whether the workspace has the hash. -/
structure Noninterfering (service : ImportService) (scan scan' : Arrangement DocumentRow)
    (made : Made) (filePath : String) (fileData : Bytes) (title : String)
    (first second : ImportState) : Prop where
  same : service.importedFlag scan made filePath fileData title first =
    service.importedFlag scan' made filePath fileData title second
  first : ∀ flag, service.importedFlag scan made filePath fileData title first = some flag →
    (flag = true ↔ StoredHash service.workspaceId (service.sha1 fileData) first.documents)
  second : ∀ flag, service.importedFlag scan' made filePath fileData title second = some flag →
    (flag = true ↔ StoredHash service.workspaceId (service.sha1 fileData) second.documents)

/-- The law holds exactly where the import stores nothing, or neither table has the hash in another
workspace only. -/
theorem noninterfering_iff (service : ImportService) (scan scan' : Arrangement DocumentRow)
    (made : Made) (filePath : String) (fileData : Bytes) (title : String) (tree : HostTree)
    (calls calls' : List (RepositoryCall service.text)) {first second : DocumentTable}
    (reached : first = (run repositoryStep Keyed.empty calls).2)
    (reached' : second = (run repositoryStep Keyed.empty calls').2)
    (agree : SameWorkspace service.workspaceId first second)
    (fresh : first.find? made.id = none) (fresh' : second.find? made.id = none) :
    service.Noninterfering scan scan' made filePath fileData title ⟨first, tree⟩ ⟨second, tree⟩ ↔
      (service.Accepts made filePath fileData tree →
        Unshadowed service.workspaceId (service.sha1 fileData) first ∧
          Unshadowed service.workspaceId (service.sha1 fileData) second) := by
  have written : Written service.text first := reached ▸ written_run calls
  have written' : Written service.text second := reached' ▸ written_run calls'
  by_cases accepts : service.Accepts made filePath fileData tree
  · obtain ⟨flag, imported, hit⟩ := importedFlag_accepted scan title ⟨first, tree⟩ written
      fresh accepts
    obtain ⟨flag', imported', hit'⟩ := importedFlag_accepted scan' title ⟨second, tree⟩
      written' fresh' accepts
    rw [unshadowed_iff, unshadowed_iff, ← hit, ← hit']
    constructor
    · intro law _
      exact ⟨law.first flag imported, law.second flag' imported'⟩
    · intro condition
      obtain ⟨holds, holds'⟩ := condition accepts
      constructor
      · have flags : flag = true ↔ flag' = true := holds.trans (agree.storedHash.trans holds'.symm)
        rw [imported, imported', Bool.eq_iff_iff.mpr flags]
      · intro other answer
        rw [← Option.some.inj (imported.symm.trans answer)]
        exact holds
      · intro other answer
        rw [← Option.some.inj (imported'.symm.trans answer)]
        exact holds'
  · have refused := importedFlag_refused scan title ⟨first, tree⟩ written fresh accepts
    have refused' := importedFlag_refused scan' title ⟨second, tree⟩ written' fresh' accepts
    constructor
    · intro _ taken
      exact absurd taken accepts
    · intro _
      constructor
      · rw [refused, refused']
      · intro flag answer
        rw [refused] at answer
        cases answer
      · intro flag answer
        rw [refused'] at answer
        cases answer

/-- A service of the workspace alpha, with the digest of the only file it imports, `b"\x01"`. -/
def desk : ImportService where
  workspaceId := "alpha"
  storage := StorageManager.plain
  text := asciiText
  sha1 _ := "bf8b4530d8d246dd74ac53a13471bba17941dff7"
  sha1_hex _ := by decide

/-- A document of the workspace beta with that digest. -/
def copyInBeta : Document asciiText :=
  { Document.fresh asciiText "d1" 0 "beta" "Copy" (by decide) with
    fileHash := some ⟨"bf8b4530d8d246dd74ac53a13471bba17941dff7", by decide⟩ }

/-- A document without a file in another workspace does not show in the flag. -/
theorem noninterfering_elsewhere :
    desk.Noninterfering .asStored .asStored ⟨"d2", 1, 1⟩ "in/notes.txt" [1] ""
      ⟨(run repositoryStep Keyed.empty [RepositoryCall.create
        (Document.fresh asciiText "d1" 0 "beta" "Lease" (by decide))]).2,
        FileTree.empty.makeDirs ["data".toList]⟩
      ⟨Keyed.empty, FileTree.empty.makeDirs ["data".toList]⟩ := by
  have agree : SameWorkspace desk.workspaceId (run repositoryStep Keyed.empty
      [RepositoryCall.create (Document.fresh asciiText "d1" 0 "beta" "Lease" (by decide))]).2
      Keyed.empty := by
    intro row home
    constructor
    · intro inside
      rw [List.mem_singleton.mp inside] at home
      exact absurd home (by decide)
    · intro inside
      cases inside
  apply (noninterfering_iff desk .asStored .asStored ⟨"d2", 1, 1⟩ "in/notes.txt" [1] ""
    (FileTree.empty.makeDirs ["data".toList])
    [.create (Document.fresh asciiText "d1" 0 "beta" "Lease" (by decide))] [] rfl rfl agree rfl
    rfl).mpr
  intro _
  constructor
  · rintro ⟨row, inside, hash, _⟩
    rw [List.mem_singleton.mp inside] at hash
    cases hash
  · rintro ⟨row, inside, _⟩
    cases inside

/-- A file that another workspace has is flagged in a workspace without documents. -/
theorem interferes :
    ¬ ∀ (scan scan' : Arrangement DocumentRow) (made : Made) (filePath : String)
        (fileData : Bytes) (title : String) (tree : HostTree)
        (calls calls' : List (RepositoryCall desk.text)) (first second : DocumentTable),
      first = (run repositoryStep Keyed.empty calls).2 →
      second = (run repositoryStep Keyed.empty calls').2 →
      SameWorkspace desk.workspaceId first second →
      first.find? made.id = none → second.find? made.id = none →
      desk.Noninterfering scan scan' made filePath fileData title ⟨first, tree⟩ ⟨second, tree⟩ := by
  intro law
  have agree : SameWorkspace desk.workspaceId Keyed.empty
      (run repositoryStep Keyed.empty [RepositoryCall.create copyInBeta]).2 := by
    intro row home
    constructor
    · intro inside
      cases inside
    · intro inside
      rw [List.mem_singleton.mp inside] at home
      exact absurd home (by decide)
  have holds := law .asStored .asStored ⟨"d2", 1, 1⟩ "in/notes.txt" [1] ""
    (FileTree.empty.makeDirs ["data".toList]) [] [.create copyInBeta] _ _ rfl rfl agree rfl rfl
  have accepts : desk.Accepts ⟨"d2", 1, 1⟩ "in/notes.txt" [1]
      (FileTree.empty.makeDirs ["data".toList]) :=
    ⟨by decide, ⟨_, rfl⟩, by decide, by decide +kernel⟩
  obtain ⟨flag, imported, hit⟩ := importedFlag_accepted .asStored ""
    ⟨(run repositoryStep Keyed.empty [RepositoryCall.create copyInBeta]).2,
      FileTree.empty.makeDirs ["data".toList]⟩ (written_run _) rfl accepts
  have flagged := hit.mpr ⟨_, List.mem_singleton_self _, rfl⟩
  obtain ⟨row, inside, _, home⟩ := (holds.second flag imported).mp flagged
  rw [List.mem_singleton.mp inside] at home
  exact absurd home (by decide)

end ImportService

end LexMind.Ingestion
