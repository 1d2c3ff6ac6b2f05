import LexMind.Lib.Dataclass
import LexMind.Python

set_option autoImplicit false

namespace LexMind.Entities

open Lib

/-- An attribute's value; `other` is a float, a dictionary or a value object. -/
inductive Value (ω : Type)
  | none
  | text (chars : String)
  | instant (time : Timestamp)
  | number (value : Int)
  | flag (value : Bool)
  | texts (items : List String)
  | member (enumName memberName : String)
  | other (object : ω)

/-- The attributes of an entity: those of `BaseEntity` and those of its own class. -/
structure Entity (ω : Type) where
  id : String
  createdAt : Timestamp
  updatedAt : Timestamp
  own : String → Value ω

/-- What Python's built-in types answer where the model leaves it open. -/
structure Builtins (ω : Type) where
  float : (digits : String) → ω
  sameObject : ω → ω → Bool
  equalsNumber : ω → Int → Bool
  truthy : ω → Bool
  below : ω → Int → Except PyExc Bool
  typeName : ω → String
  /-- `hash` of a text, drawn anew in each process. -/
  hashText : String → Int
  hashTuple : List (Value ω) → Except PyExc Int
  /-- `==` and `hash` of `object`. -/
  objectEq : Entity ω → Entity ω → Bool
  objectHash : Entity ω → Int

variable {ω : Type} (py : Builtins ω)

namespace Value

/-- A flag is a number. -/
def number? : Value ω → Option Int
  | number value => some value
  | flag value => some (if value then 1 else 0)
  | _ => Option.none

/-- `first == second`. -/
def equals : Value ω → Value ω → Bool
  | none, none => true
  | text first, text second => first = second
  | instant first, instant second => first = second
  | texts first, texts second => first = second
  | member firstEnum first, member secondEnum second => firstEnum = secondEnum ∧ first = second
  | other first, other second => py.sameObject first second
  | other object, value => value.number?.any (py.equalsNumber object)
  | value, other object => value.number?.any (py.equalsNumber object)
  | first, second => first.number?.isSome ∧ first.number? = second.number?

def truthy : Value ω → Bool
  | none => false
  | text chars => chars ≠ ""
  | number value => value ≠ 0
  | flag value => value
  | texts items => items ≠ []
  | other object => py.truthy object
  | _ => true

def typeName : Value ω → String
  | none => "NoneType"
  | text _ => "str"
  | instant _ => "datetime.datetime"
  | number _ => "int"
  | flag _ => "bool"
  | texts _ => "tuple"
  | member enumName _ => enumName
  | other object => py.typeName object

/-- `value.strip()`. -/
def stripped : Value ω → Except PyExc String
  | text chars => .ok (pyStrip chars)
  | value => .error (.attributeError (value.typeName py) "strip")

/-- `value < bound`. -/
def below (bound : Int) : Value ω → Except PyExc Bool
  | number value => .ok (value < bound)
  | flag value => .ok ((if value then 1 else 0) < bound)
  | other object => py.below object bound
  | value => .error (.typeError
      ("'<' not supported between instances of '" ++ value.typeName py ++ "' and 'int'"))

end Value

/-- The default of a field; `factory` for the fields of `BaseEntity`, which are made anew. -/
inductive Default
  | factory
  | none
  | text (chars : String)
  | number (value : Int)
  | flag (value : Bool)
  | float (digits : String)
  | emptyTuple
  | member (enumName memberName : String)

def Default.value : Default → Value ω
  | factory => .none
  | none => .none
  | text chars => .text chars
  | number value => .number value
  | flag value => .flag value
  | float digits => .other (py.float digits)
  | emptyTuple => .texts []
  | member enumName memberName => .member enumName memberName

structure Field where
  name : String
  default : Default

/-- One check of a `__post_init__`, with the invariant it names when it raises. -/
inductive Requirement
  | present (field invariant : String)
  | notBlank (field invariant : String)
  | atLeast (field : String) (bound : Int) (invariant : String)
  | differ (first second invariant : String)
  | either (first second invariant : String)

namespace Entity

/-- `getattr(self, name)`. -/
def attr (entity : Entity ω) : String → Value ω
  | "id" => .text entity.id
  | "created_at" => .instant entity.createdAt
  | "updated_at" => .instant entity.updatedAt
  | name => entity.own name

def touch (now : Timestamp) (entity : Entity ω) : Entity ω := { entity with updatedAt := now }

/-- An assignment to an attribute of the entity's own class. -/
def assign (name : String) (value : Value ω) (entity : Entity ω) : Entity ω :=
  { entity with own := Function.update entity.own name value }

end Entity

namespace Requirement

/-- The condition under which the check raises. -/
def broken (entity : Entity ω) : Requirement → Except PyExc Bool
  | present field _ => .ok !(entity.attr field).truthy py
  | notBlank field _ =>
      if !(entity.attr field).truthy py then .ok true
      else do return (← (entity.attr field).stripped py) = ""
  | atLeast field bound _ => (entity.attr field).below py bound
  | differ first second _ => .ok ((entity.attr first).equals py (entity.attr second))
  | either first second _ =>
      .ok (!(entity.attr first).truthy py && !(entity.attr second).truthy py)

def invariant : Requirement → String
  | present _ invariant => invariant
  | notBlank _ invariant => invariant
  | atLeast _ _ invariant => invariant
  | differ _ _ invariant => invariant
  | either _ _ invariant => invariant

def check (entity : Entity ω) (requirement : Requirement) : Except PyExc Unit := do
  if ← requirement.broken py entity then
    throw (.invariantViolation requirement.invariant)

end Requirement

/-- What the statement of an entity class says. -/
structure EntityBody (ω : Type) extends ClassBody Field (Entity ω) Int where
  className : String
  requirements : List Requirement := []

/-- `BaseEntity`, the one class of them that writes its identity methods. -/
def baseEntity : EntityBody ω where
  className := "BaseEntity"
  fields := [⟨"id", .factory⟩, ⟨"created_at", .factory⟩, ⟨"updated_at", .factory⟩]
  eq := some (fun self other => self.id = other.id)
  hash := some (fun self => py.hashText self.id)

def annotation : EntityBody ω where
  className := "Annotation"
  fields :=
    [⟨"document_id", .text ""⟩, ⟨"page_number", .none⟩, ⟨"content", .text ""⟩,
     ⟨"author_id", .text ""⟩, ⟨"is_locked", .flag false⟩]
  requirements :=
    [.present "document_id" "Annotation must reference a document",
     .notBlank "content" "Annotation content must not be empty"]

def bookmark : EntityBody ω where
  className := "Bookmark"
  fields :=
    [⟨"document_id", .text ""⟩, ⟨"user_id", .text ""⟩, ⟨"page_number", .none⟩, ⟨"note", .text ""⟩]
  requirements := [.present "document_id" "Bookmark must reference a document"]

def case : EntityBody ω where
  className := "Case"
  fields :=
    [⟨"workspace_id", .text ""⟩, ⟨"title", .text ""⟩, ⟨"description", .text ""⟩,
     ⟨"status", .member "CaseStatus" "OPEN"⟩, ⟨"document_ids", .emptyTuple⟩,
     ⟨"evidence_ids", .emptyTuple⟩, ⟨"person_ids", .emptyTuple⟩]
  requirements :=
    [.notBlank "title" "Case title must not be empty",
     .present "workspace_id" "Case must belong to a workspace"]

def courtDecision : EntityBody ω where
  className := "CourtDecision"
  fields :=
    [⟨"case_id", .text ""⟩, ⟨"court_name", .text ""⟩,
     ⟨"court_level", .member "CourtLevel" "FIRST_INSTANCE"⟩, ⟨"decision_date", .text ""⟩,
     ⟨"decision_text", .text ""⟩, ⟨"judge_names", .emptyTuple⟩, ⟨"is_final", .flag false⟩]
  requirements :=
    [.present "court_name" "CourtDecision must have a court name",
     .present "decision_date" "CourtDecision must have a decision date"]

def document : EntityBody ω where
  className := "Document"
  fields :=
    [⟨"workspace_id", .text ""⟩, ⟨"title", .text ""⟩, ⟨"file_path", .none⟩, ⟨"file_hash", .none⟩,
     ⟨"mime_type", .text ""⟩, ⟨"document_type", .member "DocumentTypeEnum" "OTHER"⟩,
     ⟨"status", .member "DocumentStatus" "DRAFT"⟩,
     ⟨"processing_status", .member "ProcessingStatus" "PENDING"⟩, ⟨"language", .none⟩,
     ⟨"case_ids", .emptyTuple⟩, ⟨"tag_names", .emptyTuple⟩, ⟨"version_count", .number 0⟩,
     ⟨"is_duplicate", .flag false⟩, ⟨"has_ocr", .flag false⟩, ⟨"has_embeddings", .flag false⟩]
  requirements := [.present "workspace_id" "Document must belong to a workspace"]

def documentVersion : EntityBody ω where
  className := "DocumentVersion"
  fields :=
    [⟨"document_id", .text ""⟩, ⟨"version_number", .number 0⟩, ⟨"file_path", .none⟩,
     ⟨"file_hash", .none⟩, ⟨"comment", .text ""⟩, ⟨"created_by", .text ""⟩]
  requirements :=
    [.present "document_id" "DocumentVersion must reference a document",
     .atLeast "version_number" 1 "DocumentVersion number must be >= 1"]

def evidence : EntityBody ω where
  className := "Evidence"
  fields :=
    [⟨"case_ids", .emptyTuple⟩, ⟨"document_ids", .emptyTuple⟩,
     ⟨"evidence_type", .member "EvidenceType" "DOCUMENTARY"⟩, ⟨"description", .text ""⟩,
     ⟨"source", .text ""⟩, ⟨"is_authentic", .none⟩]
  requirements := [.present "document_ids" "Evidence must reference at least one document"]

def finding : EntityBody ω where
  className := "Finding"
  fields :=
    [⟨"investigation_id", .text ""⟩, ⟨"title", .text ""⟩, ⟨"description", .text ""⟩,
     ⟨"confidence", .member "ConfidenceLevel" "MEDIUM"⟩, ⟨"supporting_document_ids", .emptyTuple⟩,
     ⟨"supporting_evidence_ids", .emptyTuple⟩]
  requirements := [.present "investigation_id" "Finding must belong to an investigation"]

def folder : EntityBody ω where
  className := "Folder"
  fields :=
    [⟨"workspace_id", .text ""⟩, ⟨"name", .text ""⟩, ⟨"parent_folder_id", .none⟩,
     ⟨"document_ids", .emptyTuple⟩]
  requirements :=
    [.notBlank "name" "Folder name must not be empty",
     .present "workspace_id" "Folder must belong to a workspace"]

def investigation : EntityBody ω where
  className := "Investigation"
  fields :=
    [⟨"case_id", .text ""⟩, ⟨"title", .text ""⟩, ⟨"description", .text ""⟩,
     ⟨"lead_investigator_id", .none⟩, ⟨"document_ids", .emptyTuple⟩,
     ⟨"evidence_ids", .emptyTuple⟩, ⟨"finding_ids", .emptyTuple⟩, ⟨"is_completed", .flag false⟩]
  requirements := [.present "case_id" "Investigation must belong to a case"]

def lawReference : EntityBody ω where
  className := "LawReference"
  fields :=
    [⟨"title", .text ""⟩, ⟨"official_number", .text ""⟩, ⟨"year", .none⟩, ⟨"country", .text ""⟩,
     ⟨"effective_date", .none⟩, ⟨"is_amended", .flag false⟩, ⟨"citation_ids", .emptyTuple⟩]
  requirements := [.notBlank "title" "LawReference title must not be empty"]

def legalCitation : EntityBody ω where
  className := "LegalCitation"
  fields :=
    [⟨"document_id", .text ""⟩, ⟨"law_reference_id", .none⟩, ⟨"citation_text", .text ""⟩,
     ⟨"article", .none⟩, ⟨"paragraph", .none⟩, ⟨"page_number", .none⟩]
  requirements := [.notBlank "citation_text" "Citation text must not be empty"]

def meeting : EntityBody ω where
  className := "Meeting"
  fields :=
    [⟨"case_id", .text ""⟩, ⟨"meeting_type", .member "MeetingType" "CONSULTATION"⟩,
     ⟨"title", .text ""⟩, ⟨"date", .none⟩, ⟨"location", .text ""⟩, ⟨"attendee_ids", .emptyTuple⟩,
     ⟨"summary", .text ""⟩, ⟨"statement_ids", .emptyTuple⟩]
  requirements := [.present "case_id" "Meeting must belong to a case"]

def organization : EntityBody ω where
  className := "Organization"
  fields :=
    [⟨"name", .text ""⟩, ⟨"registration_number", .none⟩, ⟨"email", .none⟩, ⟨"phone", .none⟩,
     ⟨"parent_organization_id", .none⟩, ⟨"person_ids", .emptyTuple⟩]
  requirements := [.notBlank "name" "Organization name must not be empty"]

def person : EntityBody ω where
  className := "Person"
  fields :=
    [⟨"first_name", .text ""⟩, ⟨"last_name", .text ""⟩,
     ⟨"role", .member "PersonRole" "THIRD_PARTY"⟩, ⟨"email", .none⟩, ⟨"phone", .none⟩,
     ⟨"organization_id", .none⟩, ⟨"case_ids", .emptyTuple⟩]

def relationship : EntityBody ω where
  className := "Relationship"
  fields :=
    [⟨"source_entity_id", .text ""⟩, ⟨"target_entity_id", .text ""⟩,
     ⟨"relationship_type", .member "RelationshipType" "REFERENCE"⟩, ⟨"description", .text ""⟩,
     ⟨"weight", .float "1.0"⟩]
  requirements :=
    [.present "source_entity_id" "Relationship must have a source entity",
     .present "target_entity_id" "Relationship must have a target entity",
     .differ "source_entity_id" "target_entity_id"
      "Relationship source and target must be different"]

def report : EntityBody ω where
  className := "Report"
  fields :=
    [⟨"case_id", .text ""⟩, ⟨"investigation_id", .none⟩, ⟨"title", .text ""⟩,
     ⟨"content", .text ""⟩, ⟨"format", .text "markdown"⟩, ⟨"generated_by", .text ""⟩,
     ⟨"document_ids", .emptyTuple⟩]
  requirements :=
    [.present "case_id" "Report must belong to a case",
     .notBlank "title" "Report title must not be empty"]

def searchQuery : EntityBody ω where
  className := "SearchQuery"
  fields :=
    [⟨"workspace_id", .text ""⟩, ⟨"case_id", .none⟩, ⟨"query_text", .text ""⟩, ⟨"filters", .none⟩,
     ⟨"result_count", .number 0⟩]
  requirements := [.notBlank "query_text" "SearchQuery text must not be empty"]

def searchResult : EntityBody ω where
  className := "SearchResult"
  fields :=
    [⟨"query_id", .text ""⟩, ⟨"document_id", .text ""⟩, ⟨"score", .float "0.0"⟩,
     ⟨"snippet", .text ""⟩, ⟨"page_number", .none⟩]
  requirements :=
    [.present "query_id" "SearchResult must reference a query",
     .present "document_id" "SearchResult must reference a document"]

def statement : EntityBody ω where
  className := "Statement"
  fields :=
    [⟨"source_person_id", .none⟩, ⟨"source_document_id", .none⟩, ⟨"case_id", .text ""⟩,
     ⟨"statement_type", .member "StatementType" "TESTIMONY"⟩, ⟨"content", .text ""⟩,
     ⟨"date_made", .none⟩, ⟨"context", .text ""⟩]
  requirements :=
    [.either "source_person_id" "source_document_id"
      "Statement must have a source (person or document)"]

def tag : EntityBody ω where
  className := "Tag"
  fields := [⟨"name", .text ""⟩, ⟨"color", .none⟩]
  requirements := [.notBlank "name" "Tag name must not be empty"]

def timelineEvent : EntityBody ω where
  className := "TimelineEvent"
  fields :=
    [⟨"case_id", .text ""⟩, ⟨"title", .text ""⟩, ⟨"description", .text ""⟩, ⟨"date", .none⟩,
     ⟨"date_range_start", .none⟩, ⟨"date_range_end", .none⟩, ⟨"event_order", .number 0⟩,
     ⟨"source_document_ids", .emptyTuple⟩, ⟨"source_statement_ids", .emptyTuple⟩,
     ⟨"related_entity_ids", .emptyTuple⟩]
  requirements :=
    [.either "date" "date_range_start" "TimelineEvent requires a date or date range"]

def witness : EntityBody ω where
  className := "Witness"
  fields :=
    [⟨"person_id", .text ""⟩, ⟨"case_id", .text ""⟩, ⟨"role", .member "PersonRole" "WITNESS"⟩,
     ⟨"is_credible", .none⟩, ⟨"statement_ids", .emptyTuple⟩]

def workspace : EntityBody ω where
  className := "Workspace"
  fields :=
    [⟨"name", .text ""⟩, ⟨"description", .text ""⟩, ⟨"owner_id", .text ""⟩,
     ⟨"is_active", .flag true⟩, ⟨"document_count", .number 0⟩, ⟨"case_count", .number 0⟩]
  requirements := [.notBlank "name" "Workspace name must not be empty"]

/-- The classes derived from `BaseEntity`. -/
inductive EntityClass
  | annotation
  | bookmark
  | case
  | courtDecision
  | document
  | documentVersion
  | evidence
  | finding
  | folder
  | investigation
  | lawReference
  | legalCitation
  | meeting
  | organization
  | person
  | relationship
  | report
  | searchQuery
  | searchResult
  | statement
  | tag
  | timelineEvent
  | witness
  | workspace
deriving DecidableEq, Repr

def EntityClass.body (ω : Type) : EntityClass → EntityBody ω
  | annotation => Entities.annotation
  | bookmark => Entities.bookmark
  | case => Entities.case
  | courtDecision => Entities.courtDecision
  | document => Entities.document
  | documentVersion => Entities.documentVersion
  | evidence => Entities.evidence
  | finding => Entities.finding
  | folder => Entities.folder
  | investigation => Entities.investigation
  | lawReference => Entities.lawReference
  | legalCitation => Entities.legalCitation
  | meeting => Entities.meeting
  | organization => Entities.organization
  | person => Entities.person
  | relationship => Entities.relationship
  | report => Entities.report
  | searchQuery => Entities.searchQuery
  | searchResult => Entities.searchResult
  | statement => Entities.statement
  | tag => Entities.tag
  | timelineEvent => Entities.timelineEvent
  | witness => Entities.witness
  | workspace => Entities.workspace

/-- `BaseEntity` after its decorator. -/
def baseClass : DataClass Field.name (Entity ω) Int :=
  .decorate {} ⟨.empty, .written py.objectEq, .written py.objectHash⟩ (baseEntity py).toClassBody

/-- `first == second` in one field. -/
def equalIn (field : Field) (first second : Entity ω) : Bool :=
  (first.attr field.name).equals py (second.attr field.name)

/-- The hash of a tuple of attributes. -/
def hashFields (fields : List Field) (self : Entity ω) : Except PyExc Int :=
  py.hashTuple (fields.map (fun field => self.attr field.name))

/-- `__init__`'s keyword arguments. -/
structure Arguments (ω : Type) where
  id : Option String := none
  createdAt : Option Timestamp := none
  updatedAt : Option Timestamp := none
  own : List (String × Value ω) := []

namespace EntityClass

/-- The class after its decorator. -/
def dataClass (cls : EntityClass) : DataClass Field.name (Entity ω) Int :=
  .decorate {} (baseClass py) (cls.body ω).toClassBody

/-- `first == second`, of two instances of the class. -/
def equals (cls : EntityClass) : Entity ω → Entity ω → Bool :=
  (cls.dataClass py).equals (equalIn py)

def unhashable (className : String) : PyExc :=
  .typeError ("unhashable type: '" ++ className ++ "'")

/-- `hash(self)`, of an instance of the class. -/
def hash (cls : EntityClass) : Entity ω → Except PyExc Int :=
  (cls.dataClass py).hashOf (hashFields py) (unhashable (cls.body ω).className)

/-- `__post_init__`. -/
def postInit (cls : EntityClass) (self : Entity ω) : Except PyExc Unit :=
  (cls.body ω).requirements.forM (Requirement.check py self)

/-- A keyword argument names a field of the class. -/
def checkArgument (cls : EntityClass) (argument : String × Value ω) : Except PyExc Unit := do
  if (cls.body ω).fields.all (fun field => field.name ≠ argument.1) then
    throw (.typeError ((cls.body ω).className ++ ".__init__() got an unexpected keyword argument " ++
      pyRepr argument.1))

/-- What `__init__` binds a field to. -/
def given (own : List (String × Value ω)) (field : Field) : Value ω :=
  (own.lookup field.name).getD (field.default.value py)

/-- The call of the class; a fresh id and two readings of the clock stand for what the default
factories give. -/
def construct (cls : EntityClass) (arguments : Arguments ω) (uuid : String)
    (now later : Timestamp) : Except PyExc (Entity ω) := do
  arguments.own.forM cls.checkArgument
  let self : Entity ω :=
    { id := arguments.id.getD uuid
      createdAt := arguments.createdAt.getD now
      updatedAt := arguments.updatedAt.getD later
      own := fun name =>
        (((cls.body ω).fields.find? (fun field => field.name = name)).map
          (given py arguments.own)).getD .none }
  cls.postInit py self
  return self

/-- What a run can have of the class: entities as they are constructed, touched since or
with attributes assigned. -/
inductive Instance (cls : EntityClass) : Entity ω → Prop
  | built {arguments : Arguments ω} {uuid : String} {now later : Timestamp} {self : Entity ω}
      (made : cls.construct py arguments uuid now later = .ok self) : Instance cls self
  | touched (now : Timestamp) {self : Entity ω} (before : Instance cls self) :
      Instance cls (self.touch now)
  | assigned (name : String) (value : Value ω) {self : Entity ω} (before : Instance cls self) :
      Instance cls (self.assign name value)

end EntityClass

end LexMind.Entities
