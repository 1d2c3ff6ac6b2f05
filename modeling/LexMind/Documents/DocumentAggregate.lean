import LexMind.Documents.Document
import LexMind.Lib.Run

set_option autoImplicit false

namespace LexMind.Documents

open Lib

/-- An immutable snapshot; it references a document, and its number is at least 1. -/
structure DocumentVersion where
  documentId : String
  versionNumber : Nat
  filePath : FilePath
  fileHash : FileHash
  comment : String
  createdBy : String
  references : documentId ≠ ""
  positive : 1 ≤ versionNumber

def DocumentVersion.of (documentId : String) (versionNumber : Nat) (filePath : FilePath)
    (fileHash : FileHash) (comment createdBy : String) : Except PyExc DocumentVersion :=
  if references : documentId = "" then
    .error (.invariantViolation "DocumentVersion must reference a document")
  else if positive : versionNumber < 1 then
    .error (.invariantViolation "DocumentVersion number must be >= 1")
  else
    .ok {
      documentId := documentId
      versionNumber := versionNumber
      filePath := filePath
      fileHash := fileHash
      comment := comment
      createdBy := createdBy
      references := references
      positive := Nat.not_lt.mp positive }

namespace Document

variable {text : TextMethods} (document : Document text) (now : Timestamp)

def markImported : Document text := { document with status := .imported }.touch now

def markProcessing : Document text := { document with status := .processing }.touch now

def markProcessed : Document text :=
  { document with status := .processed, processingStatus := .completed }.touch now

def markFailed : Document text := { document with status := .failed }.touch now

def incrementVersion : Document text :=
  { document with versionCount := document.versionCount + 1 }.touch now

/-- What an import records of the file. -/
def withFile (filePath : FilePath) (fileHash : FileHash) (mimeType : String)
    (language : Option (Language text)) : Document text :=
  { document with
    filePath := some filePath
    fileHash := some fileHash
    mimeType := mimeType
    language := language }

end Document

/-- A document with its versions, the first one first. -/
structure DocumentAggregate (text : TextMethods) where
  document : Document text
  versions : List DocumentVersion

namespace DocumentAggregate

variable {text : TextMethods}

abbrev AggregatePy (text : TextMethods) (α : Type) := Py (DocumentAggregate text) α

/-- Change the entity alone. -/
def onDocument (change : Document text → Document text) : AggregatePy text Unit :=
  modify (fun aggregate => { aggregate with document := change aggregate.document })

/-- The counter has moved when the version is refused. -/
def appendVersion (filePath : FilePath) (fileHash : FileHash) (comment createdBy : String)
    (now : Timestamp) : AggregatePy text DocumentVersion := do
  onDocument (fun document => document.incrementVersion now)
  let document := (← get).document
  let version ← check (DocumentVersion.of document.id document.versionCount filePath fileHash comment
    createdBy)
  modify (fun aggregate => { aggregate with versions := aggregate.versions ++ [version] })
  return version

def importDocument (filePath : FilePath) (fileHash : FileHash) (mimeType : String)
    (language : Option (Language text)) (now : Timestamp) : AggregatePy text Unit := do
  let status := (← get).document.status
  if status ≠ .draft ∧ status ≠ .pendingImport then
    throw (.invariantViolation ("Cannot import document in status '" ++ status.value ++ "'"))
  onDocument (fun document => document.withFile filePath fileHash mimeType language)
  onDocument (fun document => document.markImported now)
  let _ ← appendVersion filePath fileHash "Initial import" "" now

def addVersion (filePath : FilePath) (fileHash : FileHash) (comment createdBy : String)
    (now : Timestamp) : AggregatePy text DocumentVersion := do
  if (← get).document.status = .draft then
    throw (.invariantViolation "Cannot version a draft document")
  appendVersion filePath fileHash comment createdBy now

def markProcessing (now : Timestamp) : AggregatePy text Unit :=
  onDocument (fun document => document.markProcessing now)

def markProcessed (now : Timestamp) : AggregatePy text Unit :=
  onDocument (fun document => document.markProcessed now)

def markFailed (now : Timestamp) : AggregatePy text Unit :=
  onDocument (fun document => document.markFailed now)

end DocumentAggregate

inductive AggregateCall (text : TextMethods)
  | importDocument (filePath : FilePath) (fileHash : FileHash) (mimeType : String)
      (language : Option (Language text)) (now : Timestamp)
  | addVersion (filePath : FilePath) (fileHash : FileHash) (comment createdBy : String)
      (now : Timestamp)
  | markProcessing (now : Timestamp)
  | markProcessed (now : Timestamp)
  | markFailed (now : Timestamp)

namespace AggregateCall

variable {text : TextMethods}

/-- The version that a call returns. -/
def program : AggregateCall text → DocumentAggregate.AggregatePy text (Option DocumentVersion)
  | .importDocument filePath fileHash mimeType language now =>
      (fun _ => none) <$>
        DocumentAggregate.importDocument filePath fileHash mimeType language now
  | .addVersion filePath fileHash comment createdBy now =>
      some <$> DocumentAggregate.addVersion filePath fileHash comment createdBy now
  | .markProcessing now => (fun _ => none) <$> DocumentAggregate.markProcessing now
  | .markProcessed now => (fun _ => none) <$> DocumentAggregate.markProcessed now
  | .markFailed now => (fun _ => none) <$> DocumentAggregate.markFailed now

end AggregateCall

def aggregateStep {text : TextMethods} (aggregate : DocumentAggregate text)
    (aggregateCall : AggregateCall text) :
    Except PyExc (Option DocumentVersion) × DocumentAggregate text :=
  call aggregateCall.program aggregate

end LexMind.Documents
