import LexMind.Documents.DocumentRepository
import LexMind.Events.EventBus
import LexMind.Storage.Manager

set_option autoImplicit false

namespace LexMind.Ingestion

open Lib Events Documents Storage

/-- Supported file extensions. -/
def formatMap : List (String × DocumentTypeEnum) :=
  [(".pdf", .other), (".docx", .other), (".odt", .other), (".txt", .other), (".jpg", .photograph),
    (".jpeg", .photograph), (".png", .photograph), (".tif", .photograph), (".tiff", .photograph)]

def mimeMap : List (String × String) :=
  [(".pdf", "application/pdf"),
    (".docx", "application/vnd.openxmlformats-officedocument.wordprocessingml.document"),
    (".odt", "application/vnd.oasis.opendocument.text"), (".txt", "text/plain"),
    (".jpg", "image/jpeg"), (".jpeg", "image/jpeg"), (".png", "image/png"), (".tif", "image/tiff"),
    (".tiff", "image/tiff")]

/-- The service with its storage, and what it uses of the standard library: the text methods and
the SHA-1 digest, which is forty hexadecimal digits. -/
structure ImportService where
  workspaceId : String
  storage : StorageManager
  text : TextMethods
  sha1 : Bytes → String
  sha1_hex : ∀ data, isHex40 (sha1 data).toList = true

/-- What the service works on: the documents table and the files of the host. -/
structure ImportState where
  documents : DocumentTable
  tree : HostTree

abbrev ImportPy (α : Type) := Py (Wired ImportState) α

def onRepo {α : Type} (program : Py DocumentTable α) : ImportPy α :=
  onPart (fun wired => wired.service.documents)
    (fun wired documents => { wired with service := { wired.service with documents := documents } })
    program

def onStorage {α : Type} (program : Py HostTree α) : ImportPy α :=
  onPart (fun wired => wired.service.tree)
    (fun wired tree => { wired with service := { wired.service with tree := tree } }) program

/-- What the defaults of a new entity make: an id and two readings of the clock. -/
structure Made where
  id : String
  createdAt : Timestamp
  updatedAt : Timestamp

namespace ImportService

variable (service : ImportService)

def nameOf (filePath : String) : String := String.ofList (PurePath.name filePath.toList)

def stemOf (filePath : String) : String :=
  String.ofList (PurePath.stem (PurePath.name filePath.toList))

/-- `PurePosixPath(file_path).suffix.lower()`. -/
def extOf (filePath : String) : String :=
  service.text.lower (String.ofList (PurePath.suffix (PurePath.name filePath.toList)))

def buildUri (docId filename : String) : String :=
  "storage://" ++ service.workspaceId ++ "/originals/" ++ docId ++ "/" ++ filename

def importStarted (filePath : String) : EventObject :=
  domainEvent "ImportStarted" service.workspaceId
    [("workspace_id", .str service.workspaceId), ("file_path", .str filePath),
      ("file_name", .str (nameOf filePath))]

def documentImported (docId filePath fileHash : String) : EventObject :=
  domainEvent "DocumentImported" docId
    [("workspace_id", .str service.workspaceId), ("file_path", .str filePath),
      ("file_hash", .str fileHash)]

def importCompleted (docId filePath fileHash mimeType : String) (isDuplicate : Bool) :
    EventObject :=
  domainEvent "ImportCompleted" docId
    [("workspace_id", .str service.workspaceId), ("document_id", .str docId),
      ("file_path", .str filePath), ("file_hash", .str fileHash), ("mime_type", .str mimeType),
      ("is_duplicate", .bool isDuplicate)]

/-- The entity of an import; its value objects and its own check may refuse. -/
def newDocument (made : Made) (filePath title fileHash : String) (isDuplicate : Bool) :
    Except PyExc (Document service.text) := do
  let path ← FilePath.of (nameOf filePath)
  let hash ← FileHash.of fileHash
  if belongs : service.workspaceId = "" then
    .error (.invariantViolation "Document must belong to a workspace")
  else
    return {
      id := made.id
      createdAt := made.createdAt
      updatedAt := made.updatedAt
      workspaceId := service.workspaceId
      title := if title = "" then stemOf filePath else title
      filePath := some path
      fileHash := some hash
      mimeType := (mimeMap.lookup (service.extOf filePath)).getD "application/octet-stream"
      documentType := (formatMap.lookup (service.extOf filePath)).getD .other
      status := .imported
      processingStatus := .pending
      language := none
      caseIds := []
      tagNames := []
      versionCount := 0
      isDuplicate := isDuplicate
      hasOcr := false
      hasEmbeddings := false
      belongs := belongs }

/-- One import, with what the defaults make of its document. -/
def importFile (scan : Arrangement DocumentRow) (made : Made) (filePath : String)
    (fileData : Bytes) (title : String) : ImportPy (Document service.text) := do
  emit (service.importStarted filePath)
  if (formatMap.lookup (service.extOf filePath)).isNone then
    throw (.valueError ("Unsupported file format: " ++ service.extOf filePath))
  let fileHash := service.sha1 fileData
  let existing ← onRepo (SqliteDocumentRepositoryImpl.findByHash service.text scan fileHash)
  let isDuplicate := existing.isSome
  let doc ← check (service.newDocument made filePath title fileHash isDuplicate)
  onStorage (service.storage.save (service.buildUri doc.id (nameOf filePath)) fileData)
  let _ ← onRepo (SqliteDocumentRepositoryImpl.create doc)
  emit (service.documentImported doc.id filePath fileHash)
  emit (service.importCompleted doc.id filePath fileHash doc.mimeType isDuplicate)
  return doc

/-- The files of a folder, one after another; the first that fails ends the import. -/
def importFolder (scan : Arrangement DocumentRow) (folderPath : String) :
    List (Made × String × Bytes) → ImportPy (List (Document service.text))
  | [] => return []
  | (made, relPath, data) :: rest => do
      let doc ← service.importFile scan made (folderPath ++ "/" ++ relPath) data ""
      let documents ← importFolder scan folderPath rest
      return doc :: documents

end ImportService

section Calls

variable {α : Type} (state : ImportState) (bus : Option EventBus)

@[simp] theorem call_onRepo (program : Py DocumentTable α) :
    call (onRepo program) ⟨state, bus⟩ =
      ((call program state.documents).1,
        ⟨{ state with documents := (call program state.documents).2 }, bus⟩) := by
  simp [onRepo]

@[simp] theorem call_onStorage (program : Py HostTree α) :
    call (onStorage program) ⟨state, bus⟩ =
      ((call program state.tree).1, ⟨{ state with tree := (call program state.tree).2 }, bus⟩) := by
  simp [onStorage]

end Calls

end LexMind.Ingestion
