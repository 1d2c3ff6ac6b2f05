import LexMind.Python

set_option autoImplicit false

namespace LexMind.Documents

open Lib

section ValueObjects

def isHexDigit (char : Char) : Bool := char ∈ "abcdef0123456789".toList

/-- `^[a-f0-9]{40}$`, which also matches before a final line break. -/
def isHex40 (text : List Char) : Bool :=
  (text.take 40).length = 40 ∧ (text.take 40).all isHexDigit ∧
    (text.drop 40 = [] ∨ text.drop 40 = ['\n'])

/-- SHA-1 file hash stored as a lowercase hex string. -/
structure FileHash where
  value : String
  hex : isHex40 value.toList = true

def FileHash.of (value : String) : Except PyExc FileHash :=
  if hex : isHex40 value.toList = true then .ok ⟨value, hex⟩
  else .error (.invariantViolation "FileHash must be a 40-character lowercase hex string")

/-- `'..' in text`. -/
def hasDotDot : List Char → Bool
  | '.' :: '.' :: _ => true
  | _ :: rest => hasDotDot rest
  | [] => false

/-- Relative file path inside a workspace. -/
structure FilePath where
  value : String
  nonempty : value ≠ ""
  relative : value.toList.head? ≠ some '/'
  inside : hasDotDot value.toList = false

def FilePath.of (value : String) : Except PyExc FilePath :=
  if nonempty : value = "" then .error (.invariantViolation "FilePath must not be empty")
  else if relative : value.toList.head? = some '/' then
    .error (.invariantViolation "FilePath must be relative (no leading /)")
  else if inside : hasDotDot value.toList = true then
    .error (.invariantViolation "FilePath must not contain '..'")
  else .ok ⟨value, nonempty, relative, Bool.eq_false_iff.mpr inside⟩

/-- ISO 639-1 language code. -/
structure Language (text : TextMethods) where
  value : String
  letters : value.toList.length = 2 ∧ text.isAlpha value = true
  lowercase : value = text.lower value

def Language.of (text : TextMethods) (value : String) : Except PyExc (Language text) :=
  if letters : value.toList.length = 2 ∧ text.isAlpha value = true then
    if lowercase : value = text.lower value then .ok ⟨value, letters, lowercase⟩
    else .error (.invariantViolation "Language code must be lowercase")
  else .error (.invariantViolation "Language must be a 2-letter ISO 639-1 code")

/-- Every value object is accepted where it is built again from its own value. -/
theorem FileHash.of_value (fileHash : FileHash) : FileHash.of fileHash.value = .ok fileHash :=
  dif_pos fileHash.hex

theorem FilePath.of_value (filePath : FilePath) : FilePath.of filePath.value = .ok filePath := by
  have inside : ¬ hasDotDot filePath.value.toList = true := by
    rw [filePath.inside]
    exact Bool.false_ne_true
  rw [FilePath.of, dif_neg filePath.nonempty, dif_neg filePath.relative, dif_neg inside]

theorem Language.of_value {text : TextMethods} (language : Language text) :
    Language.of text language.value = .ok language := by
  rw [Language.of, dif_pos language.letters, dif_pos language.lowercase]

theorem FileHash.value_ne (fileHash : FileHash) : fileHash.value ≠ "" := by
  intro empty
  have hex := fileHash.hex
  rw [empty] at hex
  cases hex

theorem Language.value_ne {text : TextMethods} (language : Language text) :
    language.value ≠ "" := by
  intro empty
  have letters := language.letters.1
  rw [empty] at letters
  cases letters

end ValueObjects

section Enums

inductive DocumentTypeEnum
  | contract
  | correspondence
  | courtFiling
  | evidence
  | legalBrief
  | judgment
  | statute
  | regulation
  | memo
  | report
  | photograph
  | audio
  | video
  | other
deriving DecidableEq, Repr

namespace DocumentTypeEnum

def value : DocumentTypeEnum → String
  | contract => "contract"
  | correspondence => "correspondence"
  | courtFiling => "court_filing"
  | evidence => "evidence"
  | legalBrief => "legal_brief"
  | judgment => "judgment"
  | statute => "statute"
  | regulation => "regulation"
  | memo => "memo"
  | report => "report"
  | photograph => "photograph"
  | audio => "audio"
  | video => "video"
  | other => "other"

def all : List DocumentTypeEnum :=
  [contract, correspondence, courtFiling, evidence, legalBrief, judgment, statute, regulation,
    memo, report, photograph, audio, video, other]

def of (value : String) : Except PyExc DocumentTypeEnum :=
  enumOf "DocumentTypeEnum" all DocumentTypeEnum.value value

theorem of_value (member : DocumentTypeEnum) : of member.value = .ok member := by
  cases member <;> rfl

end DocumentTypeEnum

inductive DocumentStatus
  | draft
  | pendingImport
  | importing
  | imported
  | processing
  | processed
  | failed
  | archived
  | deleted
deriving DecidableEq, Repr

namespace DocumentStatus

def value : DocumentStatus → String
  | draft => "draft"
  | pendingImport => "pending_import"
  | importing => "importing"
  | imported => "imported"
  | processing => "processing"
  | processed => "processed"
  | failed => "failed"
  | archived => "archived"
  | deleted => "deleted"

def all : List DocumentStatus :=
  [draft, pendingImport, importing, imported, processing, processed, failed, archived, deleted]

def of (value : String) : Except PyExc DocumentStatus :=
  enumOf "DocumentStatus" all DocumentStatus.value value

theorem of_value (member : DocumentStatus) : of member.value = .ok member := by
  cases member <;> rfl

end DocumentStatus

inductive ProcessingStatus
  | pending
  | validating
  | extractingMetadata
  | ocr
  | languageDetection
  | classifying
  | parsing
  | entityExtraction
  | chunking
  | embedding
  | indexing
  | knowledgeGraph
  | timeline
  | contradictionCheck
  | searchRegistration
  | completed
  | failed
deriving DecidableEq, Repr

namespace ProcessingStatus

def value : ProcessingStatus → String
  | pending => "pending"
  | validating => "validating"
  | extractingMetadata => "extracting_metadata"
  | ocr => "ocr"
  | languageDetection => "language_detection"
  | classifying => "classifying"
  | parsing => "parsing"
  | entityExtraction => "entity_extraction"
  | chunking => "chunking"
  | embedding => "embedding"
  | indexing => "indexing"
  | knowledgeGraph => "knowledge_graph"
  | timeline => "timeline"
  | contradictionCheck => "contradiction_check"
  | searchRegistration => "search_registration"
  | completed => "completed"
  | failed => "failed"

def all : List ProcessingStatus :=
  [pending, validating, extractingMetadata, ocr, languageDetection, classifying, parsing,
    entityExtraction, chunking, embedding, indexing, knowledgeGraph, timeline, contradictionCheck,
    searchRegistration, completed, failed]

def of (value : String) : Except PyExc ProcessingStatus :=
  enumOf "ProcessingStatus" all ProcessingStatus.value value

theorem of_value (member : ProcessingStatus) : of member.value = .ok member := by
  cases member <;> rfl

end ProcessingStatus

end Enums

/-- A document belongs to one workspace and may appear in many cases. -/
structure Document (text : TextMethods) where
  id : String
  createdAt : Timestamp
  updatedAt : Timestamp
  workspaceId : String
  title : String
  filePath : Option FilePath
  fileHash : Option FileHash
  mimeType : String
  documentType : DocumentTypeEnum
  status : DocumentStatus
  processingStatus : ProcessingStatus
  language : Option (Language text)
  caseIds : List String
  tagNames : List String
  versionCount : Nat
  isDuplicate : Bool
  hasOcr : Bool
  hasEmbeddings : Bool
  belongs : workspaceId ≠ ""

namespace Document

variable {text : TextMethods} (document : Document text)

def touch (now : Timestamp) : Document text := { document with updatedAt := now }

def linkToCase (caseId : String) (now : Timestamp) : Document text :=
  if caseId ∈ document.caseIds then document
  else touch { document with caseIds := document.caseIds ++ [caseId] } now

def unlinkFromCase (caseId : String) (now : Timestamp) : Document text :=
  touch { document with caseIds := document.caseIds.filter (· ≠ caseId) } now

/-- `tag.strip().lower()`. -/
def normalized (text : TextMethods) (tag : String) : String := text.lower (pyStrip tag)

def addTag (tag : String) (now : Timestamp) : Document text :=
  if normalized text tag ≠ "" ∧ normalized text tag ∉ document.tagNames then
    touch { document with tagNames := document.tagNames ++ [normalized text tag] } now
  else document

def removeTag (tag : String) (now : Timestamp) : Document text :=
  touch { document with tagNames := document.tagNames.filter (· ≠ normalized text tag) } now

end Document

/-- `Document(workspace_id=..., title=...)`, with the id and the time the defaults make. -/
def Document.fresh (text : TextMethods) (id : String) (now : Timestamp) (workspaceId title : String)
    (belongs : workspaceId ≠ "") : Document text where
  id := id
  createdAt := now
  updatedAt := now
  workspaceId := workspaceId
  title := title
  filePath := none
  fileHash := none
  mimeType := ""
  documentType := .other
  status := .draft
  processingStatus := .pending
  language := none
  caseIds := []
  tagNames := []
  versionCount := 0
  isDuplicate := false
  hasOcr := false
  hasEmbeddings := false
  belongs := belongs

/-- The calls that change the packed sequences of a document. -/
inductive DocumentCall
  | linkToCase (caseId : String)
  | unlinkFromCase (caseId : String)
  | addTag (tag : String)
  | removeTag (tag : String)
deriving DecidableEq, Repr

namespace DocumentCall

/-- A call on a case names it. -/
def Named : DocumentCall → Prop
  | linkToCase caseId => caseId ≠ ""
  | unlinkFromCase caseId => caseId ≠ ""
  | _ => True

def perform {text : TextMethods} (document : Document text) (made : DocumentCall × Timestamp) :
    Document text :=
  match made with
  | (linkToCase caseId, now) => document.linkToCase caseId now
  | (unlinkFromCase caseId, now) => document.unlinkFromCase caseId now
  | (addTag tag, now) => document.addTag tag now
  | (removeTag tag, now) => document.removeTag tag now

end DocumentCall

variable {text : TextMethods}

/-- A document made of a fresh one by calls that name their cases. -/
def Reachable (document : Document text) : Prop :=
  ∃ (fresh : Document text) (calls : List (DocumentCall × Timestamp)),
    fresh.caseIds = [] ∧ fresh.tagNames = [] ∧ (∀ made ∈ calls, made.1.Named) ∧
      calls.foldl DocumentCall.perform fresh = document

/-- What the calls keep of the two sequences. -/
structure Sequences (document : Document text) : Prop where
  cases : ∀ caseId ∈ document.caseIds, caseId ≠ ""
  tags : ∀ tag ∈ document.tagNames, tag ≠ "" ∧ pyStrip tag = tag

theorem pyStrip_normalized (text : TextMethods) (tag : String) :
    pyStrip (Document.normalized text tag) = Document.normalized text tag := by
  rw [Document.normalized, text.lower_strip, pyStrip_pyStrip]

theorem Sequences.perform {document : Document text} (kept : Sequences document)
    {made : DocumentCall × Timestamp} (named : made.1.Named) :
    Sequences (DocumentCall.perform document made) := by
  obtain ⟨called, now⟩ := made
  cases called with
  | linkToCase caseId =>
      show Sequences (document.linkToCase caseId now)
      unfold Document.linkToCase
      split
      · exact kept
      · constructor
        · intro other inside
          rcases List.mem_append.mp inside with before | last
          · exact kept.cases other before
          · rw [List.mem_singleton.mp last]
            exact named
        · exact kept.tags
  | unlinkFromCase caseId =>
      constructor
      · intro other inside
        exact kept.cases other (List.mem_of_mem_filter inside)
      · exact kept.tags
  | addTag tag =>
      show Sequences (document.addTag tag now)
      unfold Document.addTag
      split
      · rename_i added
        constructor
        · exact kept.cases
        · intro other inside
          rcases List.mem_append.mp inside with before | last
          · exact kept.tags other before
          · rw [List.mem_singleton.mp last]
            exact ⟨added.1, pyStrip_normalized text tag⟩
      · exact kept
  | removeTag tag =>
      constructor
      · exact kept.cases
      · intro other inside
        exact kept.tags other (List.mem_of_mem_filter inside)

theorem Reachable.sequences {document : Document text} (reached : Reachable document) :
    Sequences document := by
  obtain ⟨fresh, calls, noCases, noTags, named, rfl⟩ := reached
  have start : Sequences fresh := by
    constructor
    · simp [noCases]
    · simp [noTags]
  clear noCases noTags
  induction calls generalizing fresh with
  | nil => exact start
  | cons made rest ih =>
      have first := named made List.mem_cons_self
      exact ih _ (fun other later => named other (List.mem_cons_of_mem made later))
        (start.perform first)

end LexMind.Documents
