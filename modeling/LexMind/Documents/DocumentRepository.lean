import LexMind.Documents.Document
import LexMind.Lib.Run

set_option autoImplicit false

namespace LexMind.Documents

open Lib

/-- A row of the `documents` table. -/
structure DocumentRow where
  id : String
  workspaceId : String
  title : String
  filePath : Option String
  fileHash : Option String
  mimeType : String
  documentType : String
  status : String
  processingStatus : String
  language : Option String
  caseIds : String
  tagNames : String
  versionCount : Nat
  isDuplicate : Bool
  hasOcr : Bool
  hasEmbeddings : Bool
  createdAt : Timestamp
  updatedAt : Timestamp
deriving Repr

abbrev DocumentTable := Keyed DocumentRow.id

variable {text : TextMethods}

section Columns

/-- The columns of a document: sequences are packed with commas. -/
def rowOf (document : Document text) : DocumentRow where
  id := document.id
  workspaceId := document.workspaceId
  title := document.title
  filePath := document.filePath.map FilePath.value
  fileHash := document.fileHash.map FileHash.value
  mimeType := document.mimeType
  documentType := document.documentType.value
  status := document.status.value
  processingStatus := document.processingStatus.value
  language := document.language.map Language.value
  caseIds := pyJoin ',' document.caseIds
  tagNames := pyJoin ',' document.tagNames
  versionCount := document.versionCount
  isDuplicate := document.isDuplicate
  hasOcr := document.hasOcr
  hasEmbeddings := document.hasEmbeddings
  createdAt := document.createdAt
  updatedAt := document.updatedAt

/-- The columns `update` assigns; the id and the creation time of the row stay. -/
def overwrite (row : DocumentRow) (document : Document text) : DocumentRow :=
  { rowOf document with id := row.id, createdAt := row.createdAt }

/-- `Of(value=column) if column else None`. -/
def whenGiven {α : Type} (column : Option String) (of : String → Except PyExc α) :
    Except PyExc (Option α) :=
  match column with
  | none => .ok none
  | some value => if value = "" then .ok none else (of value).map some

/-- What a decoder has built of the packed and the checked columns. -/
structure Decoded (text : TextMethods) where
  filePath : Option FilePath
  fileHash : Option FileHash
  language : Option (Language text)
  caseIds : List String
  tagNames : List String
  documentType : DocumentTypeEnum
  status : DocumentStatus
  processingStatus : ProcessingStatus

/-- The constructor call at the end of a decoder, with its own check. -/
def documentOf (row : DocumentRow) (decoded : Decoded text) : Except PyExc (Document text) :=
  if belongs : row.workspaceId = "" then
    .error (.invariantViolation "Document must belong to a workspace")
  else
    .ok {
      id := row.id
      createdAt := row.createdAt
      updatedAt := row.updatedAt
      workspaceId := row.workspaceId
      title := row.title
      filePath := decoded.filePath
      fileHash := decoded.fileHash
      mimeType := row.mimeType
      documentType := decoded.documentType
      status := decoded.status
      processingStatus := decoded.processingStatus
      language := decoded.language
      caseIds := decoded.caseIds
      tagNames := decoded.tagNames
      versionCount := row.versionCount
      isDuplicate := row.isDuplicate
      hasOcr := row.hasOcr
      hasEmbeddings := row.hasEmbeddings
      belongs := belongs }

end Columns

namespace SqliteDocumentRepositoryImpl

/-- `tuple(c for c in column.split(",") if c) if column else ()`. -/
def unpack (column : String) : List String :=
  if column = "" then [] else (pySplit ',' column).filter (· ≠ "")

def toDomain (text : TextMethods) (row : DocumentRow) : Except PyExc (Document text) := do
  let filePath ← whenGiven row.filePath FilePath.of
  let fileHash ← whenGiven row.fileHash FileHash.of
  let language ← whenGiven row.language (Language.of text)
  let caseIds := unpack row.caseIds
  let tagNames := unpack row.tagNames
  let documentType ← DocumentTypeEnum.of row.documentType
  let status ← DocumentStatus.of row.status
  let processingStatus ← ProcessingStatus.of row.processingStatus
  documentOf row
    ⟨filePath, fileHash, language, caseIds, tagNames, documentType, status, processingStatus⟩

def create (document : Document text) : Py DocumentTable (Document text) := do
  if (← get).contains document.id then
    throw (.integrityError "documents" document.id)
  modify (fun table => table.put (rowOf document))
  return document

def update (document : Document text) : Py DocumentTable (Document text) := do
  match (← get).find? document.id with
  | none => throw (.entityNotFound "Document" document.id)
  | some row =>
      modify (fun table => table.put (overwrite row document))
      return document

def getById (text : TextMethods) (documentId : String) :
    Py DocumentTable (Option (Document text)) := do
  match (← get).find? documentId with
  | none => return none
  | some row => return some (← check (toDomain text row))

/-- The first row with the hash, in the order in which the database happens to scan them. -/
def findByHash (text : TextMethods) (scan : Arrangement DocumentRow) (fileHash : String) :
    Py DocumentTable (Option (Document text)) := do
  match (scan.arrange (← get).rows).find? (fun row => row.fileHash = some fileHash) with
  | none => return none
  | some row => return some (← check (toDomain text row))

def delete (documentId : String) : Py DocumentTable Unit := do
  if (← get).contains documentId then
    modify (fun table => table.erase documentId)
  else
    throw (.entityNotFound "Document" documentId)

end SqliteDocumentRepositoryImpl

/- The document repository of the metadata package, over the same table. -/
namespace SqliteDocumentRepository

def parseIds (raw : String) : List String :=
  if raw = "" ∨ pyStrip raw = "" then []
  else ((pySplit ',' raw).filter (fun piece => pyStrip piece ≠ "")).map pyStrip

def toDomain (text : TextMethods) (row : DocumentRow) : Except PyExc (Document text) := do
  let filePath ← whenGiven row.filePath FilePath.of
  let fileHash ← whenGiven row.fileHash FileHash.of
  let documentType ← DocumentTypeEnum.of row.documentType
  let status ← DocumentStatus.of row.status
  let processingStatus ← ProcessingStatus.of row.processingStatus
  let language ← whenGiven row.language (Language.of text)
  let caseIds := parseIds row.caseIds
  let tagNames := parseIds row.tagNames
  documentOf row
    ⟨filePath, fileHash, language, caseIds, tagNames, documentType, status, processingStatus⟩

/-- It assigns the columns that the other repository's `update` assigns. -/
def update (document : Document text) : Py DocumentTable (Document text) := do
  match (← get).find? document.id with
  | none => throw (.entityNotFound "Document" document.id)
  | some row =>
      modify (fun table => table.put (overwrite row document))
      return document

def get (text : TextMethods) (entityId : String) :
    Py DocumentTable (Option (Document text)) := do
  match (← MonadState.get).find? entityId with
  | none => return none
  | some row => return some (← check (toDomain text row))

def findByCase (text : TextMethods) (scan : Arrangement DocumentRow) (caseId : String) :
    Py DocumentTable (List (Document text)) := do
  let rows := (scan.arrange (← MonadState.get).rows).filter
    (fun row => caseId ∈ parseIds row.caseIds)
  check (rows.mapM (toDomain text))

end SqliteDocumentRepository

section Decoding

theorem whenGiven_map {α : Type} {of : String → Except PyExc α} {value : α → String}
    (present : ∀ content, value content ≠ "") (back : ∀ content, of (value content) = .ok content)
    (content : Option α) : whenGiven (content.map value) of = .ok content := by
  cases content with
  | none => rfl
  | some content =>
      show (if value content = "" then _ else _) = _
      rw [if_neg (present content), back]
      rfl

/-- What the row of a document decodes to, whatever becomes of its packed columns. -/
theorem documentOf_rowOf (document : Document text) (caseIds tagNames : List String) :
    documentOf (rowOf document) ⟨document.filePath, document.fileHash, document.language, caseIds,
        tagNames, document.documentType, document.status, document.processingStatus⟩ =
      .ok { document with caseIds := caseIds, tagNames := tagNames } :=
  dif_neg document.belongs

/-- Every column with a check of its own is read back. -/
theorem columns_rowOf (document : Document text) :
    whenGiven (rowOf document).filePath FilePath.of = .ok document.filePath ∧
      whenGiven (rowOf document).fileHash FileHash.of = .ok document.fileHash ∧
      whenGiven (rowOf document).language (Language.of text) = .ok document.language ∧
      DocumentTypeEnum.of (rowOf document).documentType = .ok document.documentType ∧
      DocumentStatus.of (rowOf document).status = .ok document.status ∧
      ProcessingStatus.of (rowOf document).processingStatus = .ok document.processingStatus :=
  ⟨whenGiven_map FilePath.nonempty FilePath.of_value document.filePath,
    whenGiven_map FileHash.value_ne FileHash.of_value document.fileHash,
    whenGiven_map Language.value_ne Language.of_value document.language,
    DocumentTypeEnum.of_value _, DocumentStatus.of_value _, ProcessingStatus.of_value _⟩

theorem SqliteDocumentRepositoryImpl.toDomain_rowOf (document : Document text) :
    toDomain text (rowOf document) = .ok { document with
      caseIds := unpack (pyJoin ',' document.caseIds)
      tagNames := unpack (pyJoin ',' document.tagNames) } := by
  obtain ⟨filePath, fileHash, language, documentType, status, processing⟩ := columns_rowOf document
  unfold toDomain
  simp only [filePath, fileHash, language, documentType, status, processing, bind, Except.bind]
  exact documentOf_rowOf document _ _

theorem SqliteDocumentRepository.toDomain_rowOf (document : Document text) :
    toDomain text (rowOf document) = .ok { document with
      caseIds := parseIds (pyJoin ',' document.caseIds)
      tagNames := parseIds (pyJoin ',' document.tagNames) } := by
  obtain ⟨filePath, fileHash, language, documentType, status, processing⟩ := columns_rowOf document
  unfold toDomain
  simp only [filePath, fileHash, language, documentType, status, processing, bind, Except.bind]
  exact documentOf_rowOf document _ _

end Decoding

section Writes

/-- The calls that change the table. -/
inductive RepositoryCall (text : TextMethods)
  | create (document : Document text)
  | update (document : Document text)
  | delete (documentId : String)

def RepositoryCall.program : RepositoryCall text → Py DocumentTable Unit
  | create document => do
      let _ ← SqliteDocumentRepositoryImpl.create document
  | update document => do
      let _ ← SqliteDocumentRepositoryImpl.update document
  | delete documentId => SqliteDocumentRepositoryImpl.delete documentId

def repositoryStep (table : DocumentTable) (made : RepositoryCall text) :
    Except PyExc Unit × DocumentTable :=
  call made.program table

/-- Every row holds the columns of a document. -/
def Written (text : TextMethods) (table : DocumentTable) : Prop :=
  ∀ row ∈ table.rows, ∃ document : Document text, row = rowOf document

theorem overwrite_eq {row : DocumentRow} {document : Document text} (same : row.id = document.id) :
    overwrite row document = rowOf { document with createdAt := row.createdAt } := by
  rw [overwrite, same]
  rfl

theorem Written.empty : Written text Keyed.empty := by
  intro row inside
  cases inside

theorem Written.put {table : DocumentTable} (written : Written text table)
    (document : Document text) : Written text (table.put (rowOf document)) := by
  intro row inside
  rcases (table.mem_put _ row).mp inside with rfl | ⟨before, _⟩
  · exact ⟨document, rfl⟩
  · exact written row before

theorem Written.step {table : DocumentTable} (written : Written text table)
    (made : RepositoryCall text) : Written text (repositoryStep table made).2 := by
  unfold repositoryStep
  cases made with
  | create document =>
      by_cases taken : table.contains document.id = true
      · simpa [RepositoryCall.program, SqliteDocumentRepositoryImpl.create, taken] using written
      · simpa [RepositoryCall.program, SqliteDocumentRepositoryImpl.create, taken] using
          written.put document
  | update document =>
      cases found : table.find? document.id with
      | none =>
          simpa [RepositoryCall.program, SqliteDocumentRepositoryImpl.update, found] using written
      | some row =>
          have same : overwrite row document = rowOf { document with createdAt := row.createdAt } :=
            overwrite_eq (Keyed.key_of_find? found)
          simpa [RepositoryCall.program, SqliteDocumentRepositoryImpl.update, found, same] using
            written.put { document with createdAt := row.createdAt }
  | delete documentId =>
      by_cases present : table.contains documentId = true
      · simp only [RepositoryCall.program, SqliteDocumentRepositoryImpl.delete, call_bind,
          call_get, andThen_ok, present, if_true, call_modify]
        intro row inside
        exact written row ((table.mem_erase documentId row).mp inside).1
      · simpa [RepositoryCall.program, SqliteDocumentRepositoryImpl.delete, present] using written

/-- The tables the repository makes. -/
theorem written_run (calls : List (RepositoryCall text)) :
    Written text (run repositoryStep Keyed.empty calls).2 :=
  run_invariant (fun _ made kept => kept.step made) Written.empty calls

end Writes

end LexMind.Documents
