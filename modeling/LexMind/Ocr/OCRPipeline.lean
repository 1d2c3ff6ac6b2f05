import LexMind.Events.Recorder
import LexMind.Ocr.ArtifactGenerator

set_option autoImplicit false

namespace LexMind.Ocr

open Lib Events Storage

variable {γ : Type}

/-- An engine, which works on a `γ` and may raise, also when it is asked what it supports. -/
structure OCRProvider (γ : Type) where
  name : String
  supports : String → Except PyExc Bool
  recognize : Bytes → (language mimeType : String) → Py γ OCRResult

/-- The providers in the order of their registration. -/
structure OCRDispatcher (γ : Type) where
  providers : Keyed (@OCRProvider.name γ)
  default : Option String

namespace OCRDispatcher

variable (dispatcher : OCRDispatcher γ)

/-- The configured default, where it is registered and supports what is asked for. -/
def usableDefault (mimeType : String) : Except PyExc (Option (OCRProvider γ)) :=
  match dispatcher.default.bind dispatcher.providers.find? with
  | none => return none
  | some default => do
      if mimeType = "" then return some default
      return if ← default.supports mimeType then some default else none

def firstSupporting (mimeType : String) : List (OCRProvider γ) → Except PyExc (Option (OCRProvider γ))
  | [] => return none
  | provider :: rest => do
      if ← provider.supports mimeType then return some provider
      else firstSupporting mimeType rest

def select (name : Option String) (mimeType : String) : Except PyExc (OCRProvider γ) :=
  match name with
  | some name =>
      match dispatcher.providers.find? name with
      | some provider => return provider
      | none => .error (.ocrProviderNotFound ("No OCR provider registered under name=" ++ pyRepr name))
  | none => do
      match ← dispatcher.usableDefault mimeType with
      | some default => return default
      | none =>
          let capable ← if mimeType = "" then pure none
            else firstSupporting mimeType dispatcher.providers.rows
          match capable with
          | some provider => return provider
          | none =>
              .error (.ocrProviderNotFound
                ("No OCR provider available for mime_type=" ++ pyRepr mimeType))

end OCRDispatcher

/-- The writer, with what the storage does to a text and the JSON encoder. -/
structure OCRArtifactWriter (γ : Type) where
  saveText : (uri text : String) → Py γ Unit
  dump : Json → String

namespace OCRArtifactWriter

variable (writer : OCRArtifactWriter γ)

def buildTextUri (workspaceId documentId : String) : String :=
  "storage://" ++ workspaceId ++ "/ocr/" ++ documentId ++ "/text.txt"

def buildJsonUri (workspaceId documentId : String) : String :=
  "storage://" ++ workspaceId ++ "/ocr/" ++ documentId ++ "/result.json"

def serialize (result : OCRResult) : String :=
  writer.dump (Json.ofObject [("text", .ofText result.text),
    ("confidence", .scalar (.number result.confidence)), ("language", .ofText result.language),
    ("provider", .ofText result.provider), ("page_count", .ofInt result.pageCount),
    ("pages", .ofList (result.pages.map OCRArtifactSerializer.serializePage)),
    ("metadata",
      .ofObject (result.metadata.rows.map (fun entry => (entry.1, .ofText entry.2))))])

def write (workspaceId documentId : String) (result : OCRResult) : Py γ String := do
  writer.saveText (buildTextUri workspaceId documentId) result.text
  writer.saveText (buildJsonUri workspaceId documentId) (writer.serialize result)
  return buildTextUri workspaceId documentId

end OCRArtifactWriter

/-- A request to run OCR on a stored document. -/
structure OCRRequest where
  workspaceId : String
  documentId : String
  sourceUri : String
  language : String
  mimeType : String
  provider : Option String
  owned : workspaceId ≠ ""
  identified : documentId ≠ ""
  located : sourceUri ≠ ""

structure OCROutcome where
  result : OCRResult
  artifactUri : String
  provider : String

/-- The events of a run; the document is also their aggregate. -/
inductive OCREvent
  | started (workspaceId documentId provider : String)
  | completed (workspaceId documentId provider artifactUri : String) (pageCount : Nat)
      (confidence : String)
  | failed (workspaceId documentId provider errorMessage : String)

def OCREvent.phase : OCREvent → Option Phase
  | started .. => some .started
  | completed .. => some .completed
  | failed .. => some .failed

structure OCRPipeline (γ : Type) where
  dispatcher : OCRDispatcher γ
  writer : OCRArtifactWriter γ
  load : String → Py γ Bytes

namespace OCRPipeline

variable (pipeline : OCRPipeline γ)

/-- Loading, recognition and persistence. -/
def recognized (provider : OCRProvider γ) (request : OCRRequest) : Py γ (OCRResult × String) := do
  let imageData ← pipeline.load request.sourceUri
  let result ← provider.recognize imageData request.language request.mimeType
  let artifactUri ← pipeline.writer.write request.workspaceId request.documentId result
  return (result, artifactUri)

def executeWith (provider : OCRProvider γ) (request : OCRRequest) :
    Py (Recorder OCREvent γ) OCROutcome := do
  let answer ← within (pipeline.recognized provider request)
  record (.completed request.workspaceId request.documentId provider.name answer.2
    answer.1.pageCount answer.1.confidence)
  return ⟨answer.1, answer.2, provider.name⟩

/-- The selection stands in the `try` too, before the start is published. -/
def execute (request : OCRRequest) : Py (Recorder OCREvent γ) OCROutcome := do
  match pipeline.dispatcher.select request.provider request.mimeType with
  | .error exc =>
      record (.failed request.workspaceId request.documentId (request.provider.getD "") exc.text)
      throw exc
  | .ok provider =>
      record (.started request.workspaceId request.documentId provider.name)
      failing (pipeline.executeWith provider request)
        (fun exc => .failed request.workspaceId request.documentId provider.name exc.text)

end OCRPipeline

/-- With a provider, every run is bracketed. -/
theorem execute_bracketed (pipeline : OCRPipeline γ) (request : OCRRequest) {provider : OCRProvider γ}
    (selected : pipeline.dispatcher.select request.provider request.mimeType = .ok provider)
    (recorder : Recorder OCREvent γ) :
    Bracketed OCREvent.phase recorder (call (pipeline.execute request) recorder) := by
  have begun := published_record OCREvent.phase
    (.started request.workspaceId request.documentId provider.name) rfl recorder
  have runs : call (pipeline.execute request) recorder =
      call (failing (pipeline.executeWith provider request)
        (fun exc => .failed request.workspaceId request.documentId provider.name exc.text))
        { recorder with events := recorder.events ++
          [.started request.workspaceId request.documentId provider.name] } := by
    simp [OCRPipeline.execute, selected]
  rw [runs]
  exact bracketed_failing begun (completes_announced _ _ _ (fun _ => rfl)) (fun _ => rfl)

/-- Without one, a run raises and publishes its failure alone. -/
theorem execute_unselected (pipeline : OCRPipeline γ) (request : OCRRequest) {exc : PyExc}
    (unselected : pipeline.dispatcher.select request.provider request.mimeType = .error exc)
    (recorder : Recorder OCREvent γ) :
    (call (pipeline.execute request) recorder).1 = .error exc ∧
      Published OCREvent.phase [.failed] recorder (call (pipeline.execute request) recorder).2 := by
  have told := published_record OCREvent.phase
    (.failed request.workspaceId request.documentId (request.provider.getD "") exc.text) rfl recorder
  have fails : call (pipeline.execute request) recorder = (.error exc,
      { recorder with events := recorder.events ++ [.failed request.workspaceId request.documentId
        (request.provider.getD "") exc.text] }) := by
    simp [OCRPipeline.execute, unselected]
  rw [fails]
  exact ⟨rfl, told⟩

end LexMind.Ocr
