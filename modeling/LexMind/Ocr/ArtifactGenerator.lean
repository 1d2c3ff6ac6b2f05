import LexMind.Artifacts.ArtifactRepository
import LexMind.Storage.Manager

set_option autoImplicit false

namespace LexMind.Ocr

open Lib Artifacts Storage

/-- Recognition result for a single page; a confidence is kept by its literal. -/
structure OCRPageResult where
  pageNumber : Nat
  text : String
  confidence : String

/-- Aggregate OCR output for a document. -/
structure OCRResult where
  text : String
  confidence : String
  language : String
  provider : String
  pages : List OCRPageResult
  metadata : Extra

namespace OCRResult

def pageCount (result : OCRResult) : Nat := result.pages.length

def isEmpty (result : OCRResult) : Bool := pyStrip result.text = ""

end OCRResult

/-- The serializer, with the JSON encoder and the ISO format of times. -/
structure OCRArtifactSerializer where
  dump : Json → String
  iso : IsoFormat

namespace OCRArtifactSerializer

variable (serializer : OCRArtifactSerializer)

def serializeText (result : OCRResult) : String := result.text

def serializePage (page : OCRPageResult) : Json :=
  Json.ofObject [("page_number", .ofInt page.pageNumber), ("text", .ofText page.text),
    ("confidence", .scalar (.number page.confidence))]

def serializeResult (result : OCRResult) : String :=
  serializer.dump (Json.ofObject [("text", .ofText result.text),
    ("confidence", .scalar (.number result.confidence)), ("language", .ofText result.language),
    ("provider", .ofText result.provider), ("page_count", .ofInt result.pageCount),
    ("pages", .ofList (result.pages.map serializePage)),
    ("metadata",
      .ofObject (result.metadata.rows.map (fun entry => (entry.1, .ofText entry.2))))])

def serializeMetadata (result : OCRResult) (documentId : String) (generatedAt : Timestamp) :
    String :=
  serializer.dump (Json.ofObject [("document_id", .ofText documentId),
    ("provider", .ofText result.provider), ("language", .ofText result.language),
    ("confidence", .scalar (.number result.confidence)), ("page_count", .ofInt result.pageCount),
    ("character_count", .ofInt result.text.length), ("is_empty", .scalar (.bool result.isEmpty)),
    ("generated_at", .ofText (serializer.iso.isoformat generatedAt))])

/-- The digest of the payload in UTF-8. -/
def checksum (codec : Codec) (payload : String) : Except PyExc String := do
  let data ← codec.encode "utf-8" payload
  codec.computeChecksum data "sha256"

end OCRArtifactSerializer

/-- What the defaults of a new artifact and a new version make: an id, and readings of the
clock. -/
structure Made where
  id : String
  createdAt : Timestamp
  versionedAt : Timestamp
  updatedAt : Timestamp

/-- The arguments of a registration. -/
structure Registration where
  workspaceId : String
  documentId : String
  storageUri : String
  checksum : String
  mediaType : String
  artifactType : ArtifactType
  subtype : String
  producerModule : String
  producerVersion : String
  extra : Extra

namespace OCRArtifactRepositoryAdapter

variable (iso : IsoFormat) (made : Made)

/-- The constructor call of a new artifact, with its own checks. -/
def newArtifact (registration : Registration) : Except PyExc Artifact :=
  if identified : made.id = "" then
    .error (.artifactValidation made.id "artifact_id is required")
  else if owned : registration.workspaceId = "" then
    .error (.artifactValidation made.id "workspace_id is required")
  else
    .ok {
      id := made.id
      workspaceId := registration.workspaceId
      investigationId := ""
      artifactType := registration.artifactType
      subtype := registration.subtype
      status := .registered
      currentVersion := 1
      producerModule := registration.producerModule
      producerVersion := registration.producerVersion
      checksum := registration.checksum
      mediaType := registration.mediaType
      storageUri := registration.storageUri
      tags := []
      extra := registration.extra
      versions := []
      versionsKind := .list
      createdAt := made.createdAt
      updatedAt := made.createdAt
      documentId := none
      identified := identified
      owned := owned }

def firstVersion (registration : Registration) : ArtifactVersion where
  artifactId := made.id
  versionNumber := 1
  checksum := registration.checksum
  createdAt := made.versionedAt
  producerModule := registration.producerModule
  producerVersion := registration.producerVersion
  storageUri := registration.storageUri
  mediaType := registration.mediaType
  notes := ""

def createNew (registration : Registration) : Py ArtifactTable Artifact := do
  let artifact ← check (newArtifact made registration)
  let artifact := { artifact with
    documentId := some registration.documentId
    versions := [firstVersion made registration] }
  let artifact ← check (artifact.markAvailable made.updatedAt)
  SqliteArtifactRepositoryImpl.create iso artifact

def versionExisting (artifact : Artifact) (registration : Registration) :
    Py ArtifactTable Artifact := do
  let artifact ← check (artifact.createNewVersion registration.checksum
    registration.producerModule registration.producerVersion artifact.storageUri
    registration.mediaType "" made.versionedAt made.updatedAt)
  SqliteArtifactRepositoryImpl.update iso
    { artifact with extra := artifact.extra.putAll registration.extra.rows }

/-- Registering a storage URI again makes a new version of the artifact there. -/
def register (scan : Arrangement ArtifactRow) (registration : Registration) :
    Py ArtifactTable Artifact := do
  match ← SqliteArtifactRepositoryImpl.getByUri iso scan registration.storageUri with
  | some existing => versionExisting iso made existing registration
  | none => createNew iso made registration

end OCRArtifactRepositoryAdapter

/-- What the generator works on: the artifacts table and the files of the host. -/
structure OcrState where
  artifacts : ArtifactTable
  tree : HostTree

def onRepo {α : Type} (program : Py ArtifactTable α) : Py OcrState α :=
  onPart OcrState.artifacts (fun state artifacts => { state with artifacts := artifacts }) program

def onStorage {α : Type} (program : Py HostTree α) : Py OcrState α :=
  onPart OcrState.tree (fun state tree => { state with tree := tree }) program

def textFilename : String := "ocr_text.txt"

def resultFilename : String := "ocr_result.json"

def metadataFilename : String := "ocr_metadata.json"

def textMediaType : String := "text/plain"

/-- Summary of the artifacts produced for a single OCR run. -/
structure OCRArtifactSet where
  artifactId : String
  version : Int
  textUri : String
  resultUri : String
  metadataUri : String
  textChecksum : String
  resultChecksum : String
  metadataChecksum : String

/-- The arguments of a `generate` call, with what it takes from the clock, the id factory and the
database. -/
structure GenerateCall where
  workspaceId : String
  documentId : String
  result : OCRResult
  producerModule : String
  producerVersion : String
  generatedAt : Timestamp
  made : Made
  scan : Arrangement ArtifactRow

structure OCRArtifactGenerator where
  storage : StorageManager
  serializer : OCRArtifactSerializer

namespace OCRArtifactGenerator

variable (generator : OCRArtifactGenerator)

def buildUri (workspaceId documentId filename : String) : String :=
  "storage://" ++ workspaceId ++ "/artifacts/ocr/" ++ documentId ++ "/" ++ filename

def save (uri payload : String) : Py OcrState Unit :=
  onStorage (generator.storage.saveText uri payload "utf-8")

/-- The registration of the primary text artifact, with the other files in its map. -/
def registrationOf (workspaceId documentId textUri resultUri metadataUri textChecksum
    resultChecksum metadataChecksum producerModule producerVersion : String) : Registration where
  workspaceId := workspaceId
  documentId := documentId
  storageUri := textUri
  checksum := textChecksum
  mediaType := textMediaType
  artifactType := .ocrText
  subtype := ""
  producerModule := producerModule
  producerVersion := producerVersion
  extra := Keyed.empty.putAll [("result_uri", resultUri), ("result_checksum", resultChecksum),
    ("metadata_uri", metadataUri), ("metadata_checksum", metadataChecksum)]

def generate (request : GenerateCall) : Py OcrState OCRArtifactSet := do
  let textUri := buildUri request.workspaceId request.documentId textFilename
  let resultUri := buildUri request.workspaceId request.documentId resultFilename
  let metadataUri := buildUri request.workspaceId request.documentId metadataFilename
  let textPayload := OCRArtifactSerializer.serializeText request.result
  let resultPayload := generator.serializer.serializeResult request.result
  let metadataPayload :=
    generator.serializer.serializeMetadata request.result request.documentId request.generatedAt
  let textChecksum ← check (OCRArtifactSerializer.checksum generator.storage.codec textPayload)
  let resultChecksum ← check (OCRArtifactSerializer.checksum generator.storage.codec resultPayload)
  let metadataChecksum ←
    check (OCRArtifactSerializer.checksum generator.storage.codec metadataPayload)
  generator.save textUri textPayload
  generator.save resultUri resultPayload
  generator.save metadataUri metadataPayload
  let artifact ← onRepo (OCRArtifactRepositoryAdapter.register generator.serializer.iso request.made
    request.scan (registrationOf request.workspaceId request.documentId textUri resultUri metadataUri
      textChecksum resultChecksum metadataChecksum request.producerModule request.producerVersion))
  return {
    artifactId := artifact.id
    version := artifact.currentVersion
    textUri := textUri
    resultUri := resultUri
    metadataUri := metadataUri
    textChecksum := textChecksum
    resultChecksum := resultChecksum
    metadataChecksum := metadataChecksum }

def generateStep (state : OcrState) (request : GenerateCall) :
    Except PyExc OCRArtifactSet × OcrState :=
  call (generator.generate request) state

end OCRArtifactGenerator

section Calls

variable {α : Type} (state : OcrState)

@[simp] theorem call_onRepo (program : Py ArtifactTable α) :
    call (onRepo program) state =
      ((call program state.artifacts).1,
        { state with artifacts := (call program state.artifacts).2 }) := by
  rw [onRepo, call_onPart]

@[simp] theorem call_onStorage (program : Py HostTree α) :
    call (onStorage program) state =
      ((call program state.tree).1, { state with tree := (call program state.tree).2 }) := by
  rw [onStorage, call_onPart]

end Calls

end LexMind.Ocr
