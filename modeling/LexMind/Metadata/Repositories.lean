import LexMind.Documents.PackedColumns
import LexMind.Domain.CaseAggregate
import LexMind.Lib.EntityTable
import LexMind.Workspace.Pagination

set_option autoImplicit false

/- The case and document repositories of the metadata store, against maps of what was written. -/
namespace LexMind.Metadata

open Lib Domain Documents WorkspaceServices
open Documents.SqliteDocumentRepository (parseIds)

/-- A row of the `cases` table. -/
structure CaseRow where
  id : String
  workspaceId : String
  title : String
  description : String
  status : String
  documentIds : String
  evidenceIds : String
  personIds : String
  createdAt : Timestamp
  updatedAt : Timestamp
deriving Repr

/-- `list_page` of a repository: a count and a window of one scan. -/
def listPage {η ν : Type} (mapper : RowMapper PyExc String η ν) (scan : Arrangement ν)
    (request : PageRequest) : Py mapper.Rows (PageResult η) := do
  let total ← mapper.count
  let items ← mapper.window scan request.offset request.limit
  return ⟨items, total, request.page, request.pageSize⟩

/-- What a repository answers of the entities that are stored: each is read back by its id, and
listed once. -/
structure Serves {η ν : Type} (mapper : RowMapper PyExc String η ν) (normal : η → η)
    (scan : Arrangement ν) (table : mapper.Rows) (stored : EntityMap String η)
    (listing : List η) : Prop where
  lists : Lists mapper.key stored listing
  got : ∀ id, call (mapper.lookup id) table = (.ok ((stored id).map normal), table)
  held : ∀ id, call (mapper.holds id) table = (.ok (stored id).isSome, table)
  listed : call (mapper.all scan) table = (.ok (listing.map normal), table)
  counted : call mapper.count table = (.ok listing.length, table)
  paged : ∀ request, call (listPage mapper scan request) table =
    (.ok ⟨pageSlice request.pageSize (listing.map normal) (request.page - 1), listing.length,
      request.page, request.pageSize⟩, table)

section Serving

variable {η ν : Type} {mapper : RowMapper PyExc String η ν} {normal : η → η} {merge : η → η → η}
  (lawful : mapper.Lawful normal merge) {table : mapper.Rows} {stored : EntityMap String η}

include lawful

theorem call_listPage {scan : Arrangement ν} {listing : List η}
    (rows : scan.arrange table.rows = listing.map mapper.encode) (request : PageRequest) :
    call (listPage mapper scan request) table =
      (.ok ⟨pageSlice request.pageSize (listing.map normal) (request.page - 1), listing.length,
        request.page, request.pageSize⟩, table) := by
  have items := call_window lawful rows request.offset request.limit
  simp only [listPage, call_bind, call_count rows, andThen_ok, items, call_pure, pageSlice,
    List.map_take, List.map_drop]
  rfl

theorem serves (encodes : Encodes mapper table stored) (scan : Arrangement ν) :
    ∃ listing, Serves mapper normal scan table stored listing ∧
      scan.arrange table.rows = listing.map mapper.encode := by
  obtain ⟨listing, lists, rows⟩ := encodes.listed lawful scan
  exact ⟨listing, ⟨lists, encodes.call_lookup lawful, encodes.call_holds, call_all lawful rows,
    call_count rows, call_listPage lawful rows⟩, rows⟩

end Serving

section Cases

def caseRowOf (entity : Case) : CaseRow where
  id := entity.id
  workspaceId := entity.workspaceId
  title := entity.title
  description := entity.description
  status := entity.status.value
  documentIds := pyJoin ',' entity.documentIds
  evidenceIds := pyJoin ',' entity.evidenceIds
  personIds := pyJoin ',' entity.personIds
  createdAt := entity.createdAt
  updatedAt := entity.updatedAt

/-- The columns `update` assigns; the id and the creation time of the row stay. -/
def overwriteCase (row : CaseRow) (entity : Case) : CaseRow :=
  { caseRowOf entity with id := row.id, createdAt := row.createdAt }

def caseOf (row : CaseRow) : Except PyExc Case := do
  let status ← CaseStatus.of row.status
  Case.of row.id row.createdAt row.updatedAt row.workspaceId row.title row.description status
    (parseIds row.documentIds) (parseIds row.evidenceIds) (parseIds row.personIds)

abbrev caseMapper : RowMapper PyExc String Case CaseRow where
  key := Case.id
  rowKey := CaseRow.id
  encode := caseRowOf
  overwrite := overwriteCase
  decode := caseOf
  taken := .integrityError "cases"
  missing := .entityNotFound "Case"

abbrev CaseTable := caseMapper.Rows

namespace SqliteCaseRepository

variable (scan : Arrangement CaseRow)

def create : Case → Py CaseTable Case := caseMapper.create

def update : Case → Py CaseTable Case := caseMapper.update

def delete : String → Py CaseTable Unit := caseMapper.delete

def get : String → Py CaseTable (Option Case) := caseMapper.lookup

def listAll : Py CaseTable (List Case) := caseMapper.all scan

def listPage : PageRequest → Py CaseTable (PageResult Case) := Metadata.listPage caseMapper scan

def count : Py CaseTable Nat := caseMapper.count

def «exists» : String → Py CaseTable Bool := caseMapper.holds

def findByWorkspace (workspaceId : String) : Py CaseTable (List Case) :=
  caseMapper.select scan (fun row => row.workspaceId = workspaceId)

def findByStatus (status : CaseStatus) : Py CaseTable (List Case) :=
  caseMapper.select scan (fun row => row.status = status.value)

def findByTitle (workspaceId title : String) : Py CaseTable (Option Case) :=
  caseMapper.first scan (fun row => row.workspaceId = workspaceId ∧ row.title = title)

def write : TableWrite String Case → Py CaseTable Unit
  | .create entity => (fun _ => ()) <$> create entity
  | .update entity => (fun _ => ()) <$> update entity
  | .delete id => delete id

end SqliteCaseRepository

def caseTableStep (table : CaseTable) (write : TableWrite String Case) :
    Except PyExc Unit × CaseTable := call (SqliteCaseRepository.write write) table

theorem caseTableStep_eq : caseTableStep = writeRow caseMapper := by
  funext table write
  cases write <;> rfl

/-- What an update keeps of the case that is there. -/
def keepCreation (old new : Case) : Case := { new with createdAt := old.createdAt }

/-- A case after its ids have been packed into columns and taken out again. -/
def readBack (entity : Case) : Case :=
  { entity with
    documentIds := parseIds (pyJoin ',' entity.documentIds)
    evidenceIds := parseIds (pyJoin ',' entity.evidenceIds)
    personIds := parseIds (pyJoin ',' entity.personIds) }

theorem caseOf_caseRowOf (entity : Case) : caseOf (caseRowOf entity) = .ok (readBack entity) := by
  simp only [caseOf, caseRowOf, CaseStatus.of_value, bind, Except.bind]
  exact Case.of_accepted entity.titled entity.belongs

theorem caseMapper_lawful : caseMapper.Lawful readBack keepCreation where
  rowKey_encode _ := rfl
  key_normal _ := rfl
  key_merge _ _ := rfl
  decode_encode := caseOf_caseRowOf
  overwrite_encode old new same := by
    show overwriteCase (caseRowOf old) new = caseRowOf (keepCreation old new)
    rw [overwriteCase]
    have same : (caseRowOf old).id = new.id := same
    rw [same]
    rfl

/-- Texts that a packed column gives back as they are. -/
def Packable (ids : List String) : Prop :=
  ∀ id ∈ ids, ',' ∉ id.toList ∧ pyStrip id = id ∧ id ≠ ""

theorem parseIds_pyJoin_iff (ids : List String) :
    parseIds (pyJoin ',' ids) = ids ↔ Packable ids := by
  constructor
  · intro back id inside
    rw [← back] at inside
    exact Documents.SqliteDocumentRepository.mem_parseIds inside
  · exact Documents.SqliteDocumentRepository.parseIds_pyJoin

theorem readBack_eq_iff (entity : Case) :
    readBack entity = entity ↔
      Packable entity.documentIds ∧ Packable entity.evidenceIds ∧ Packable entity.personIds := by
  simp only [readBack, ← parseIds_pyJoin_iff]
  constructor
  · intro same
    exact ⟨congrArg Case.documentIds same, congrArg Case.evidenceIds same,
      congrArg Case.personIds same⟩
  · rintro ⟨documents, evidence, persons⟩
    rw [documents, evidence, persons]

/-- The cases that stay after writes to an empty table, as they were written last. -/
def storedCases (writes : List (TableWrite String Case)) : EntityMap String Case :=
  (run (writeEntity caseMapper keepCreation) (fun _ => none) writes).2

/-- The case repository answers writes as a map of cases does, and serves each case that is stored
as its columns give it back, which is the case itself exactly where its ids can be packed. -/
theorem case_repository_refines (writes : List (TableWrite String Case))
    (scan : Arrangement CaseRow) :
    let table := (run caseTableStep Keyed.empty writes).2
    (run caseTableStep Keyed.empty writes).1 =
        (run (writeEntity caseMapper keepCreation) (fun _ => none) writes).1 ∧
      (∀ entity, readBack entity = entity ↔
        Packable entity.documentIds ∧ Packable entity.evidenceIds ∧ Packable entity.personIds) ∧
      ∃ listing, Serves caseMapper readBack scan table (storedCases writes) listing ∧
        (∀ workspaceId, call (SqliteCaseRepository.findByWorkspace scan workspaceId) table =
          (.ok ((listing.filter (fun entity => entity.workspaceId = workspaceId)).map readBack),
            table)) ∧
        (∀ status, call (SqliteCaseRepository.findByStatus scan status) table =
          (.ok ((listing.filter (fun entity => entity.status = status)).map readBack), table)) ∧
        ∀ workspaceId title, call (SqliteCaseRepository.findByTitle scan workspaceId title) table =
          (.ok ((listing.find? (fun entity =>
            entity.workspaceId = workspaceId ∧ entity.title = title)).map readBack), table) := by
  intro table
  obtain ⟨answers, encodes⟩ := caseTableStep_eq ▸ run_encodes caseMapper_lawful writes
  obtain ⟨listing, serving, rows⟩ := serves caseMapper_lawful encodes scan
  refine ⟨answers, readBack_eq_iff, listing, serving, fun workspaceId => ?_, fun status => ?_,
    fun workspaceId title => ?_⟩
  · exact call_select caseMapper_lawful rows fun _ => rfl
  · refine call_select caseMapper_lawful rows fun entity => ?_
    exact decide_eq_decide.mpr (decoded_injective CaseStatus.of_value).eq_iff
  · exact call_first caseMapper_lawful rows fun _ => rfl

end Cases

section Documents

variable {text : TextMethods}

abbrev documentMapper (text : TextMethods) :
    RowMapper PyExc String (Document text) DocumentRow where
  key := Document.id
  rowKey := DocumentRow.id
  encode := rowOf
  overwrite := overwrite
  decode := Documents.SqliteDocumentRepository.toDomain text
  taken := .integrityError "documents"
  missing := .entityNotFound "Document"

/- The other methods of `SqliteDocumentRepository`: `get`, `update` and `find_by_case` are there
already. -/
namespace SqliteDocumentRepository

variable (text) (scan : Arrangement DocumentRow)

def create : Document text → Py DocumentTable (Document text) := (documentMapper text).create

def delete : String → Py DocumentTable Unit := (documentMapper text).delete

def listAll : Py DocumentTable (List (Document text)) := (documentMapper text).all scan

def listPage : PageRequest → Py DocumentTable (PageResult (Document text)) :=
  Metadata.listPage (documentMapper text) scan

def count : Py DocumentTable Nat := (documentMapper text).count

def «exists» : String → Py DocumentTable Bool := (documentMapper text).holds

def findByWorkspace (workspaceId : String) : Py DocumentTable (List (Document text)) :=
  (documentMapper text).select scan (fun row => row.workspaceId = workspaceId)

def findByHash (fileHash : String) : Py DocumentTable (Option (Document text)) :=
  (documentMapper text).first scan (fun row => row.fileHash = some fileHash)

def findByStatus (workspaceId : String) (status : DocumentStatus) :
    Py DocumentTable (List (Document text)) :=
  (documentMapper text).select scan
    (fun row => row.workspaceId = workspaceId ∧ row.status = status.value)

def findDuplicates (workspaceId : String) : Py DocumentTable (List (Document text)) :=
  (documentMapper text).select scan
    (fun row => row.workspaceId = workspaceId ∧ row.isDuplicate = true)

end SqliteDocumentRepository

def SqliteDocumentRepository.write : TableWrite String (Document text) → Py DocumentTable Unit
  | .create document => (fun _ => ()) <$> create text document
  | .update document => (fun _ => ()) <$> Documents.SqliteDocumentRepository.update document
  | .delete id => delete text id

def documentTableStep (table : DocumentTable) (write : TableWrite String (Document text)) :
    Except PyExc Unit × DocumentTable := call (SqliteDocumentRepository.write write) table

section Same

variable (table : DocumentTable)

theorem call_get_eq (entityId : String) :
    call (Documents.SqliteDocumentRepository.get text entityId) table =
      call ((documentMapper text).lookup entityId) table := by
  simp only [RowMapper.lookup, Documents.SqliteDocumentRepository.get, call_bind, call_get,
    andThen_ok]
  cases table.find? entityId <;> rfl

theorem call_update_eq (document : Document text) :
    call (Documents.SqliteDocumentRepository.update document) table =
      call ((documentMapper text).update document) table := by
  simp only [RowMapper.update, Documents.SqliteDocumentRepository.update, call_bind, call_get,
    andThen_ok]
  cases table.find? document.id <;> rfl

theorem documentTableStep_eq :
    @documentTableStep text = writeRow (documentMapper text) := by
  funext table write
  cases write with
  | create document => rfl
  | update document =>
      show call ((fun _ => ()) <$> _) table = call ((fun _ => ()) <$> _) table
      rw [call_map, call_map, call_update_eq]
  | delete id => rfl

theorem call_findByCase_eq (scan : Arrangement DocumentRow) (caseId : String) :
    call (Documents.SqliteDocumentRepository.findByCase text scan caseId) table =
      call ((documentMapper text).select scan (fun row => caseId ∈ parseIds row.caseIds)) table :=
  rfl

end Same

def keepDocumentCreation (old new : Document text) : Document text :=
  { new with createdAt := old.createdAt }

def readBackDocument (document : Document text) : Document text :=
  { document with
    caseIds := parseIds (pyJoin ',' document.caseIds)
    tagNames := parseIds (pyJoin ',' document.tagNames) }

theorem documentMapper_lawful :
    (documentMapper text).Lawful readBackDocument keepDocumentCreation where
  rowKey_encode _ := rfl
  key_normal _ := rfl
  key_merge _ _ := rfl
  decode_encode document := Documents.SqliteDocumentRepository.toDomain_rowOf document
  overwrite_encode _ _ same := overwrite_eq same

theorem readBackDocument_eq_iff (document : Document text) :
    readBackDocument document = document ↔
      Packable document.caseIds ∧ Packable document.tagNames := by
  simp only [readBackDocument, ← parseIds_pyJoin_iff]
  constructor
  · intro same
    exact ⟨congrArg Document.caseIds same, congrArg Document.tagNames same⟩
  · rintro ⟨cases, tags⟩
    rw [cases, tags]

/-- The same for the document repository; by case it finds the documents whose packed column has
the case. -/
theorem document_repository_refines (writes : List (TableWrite String (Document text)))
    (scan : Arrangement DocumentRow) :
    let table := (run documentTableStep Keyed.empty writes).2
    let stored := (run (writeEntity (documentMapper text) keepDocumentCreation)
      (fun _ => none) writes).2
    (run documentTableStep Keyed.empty writes).1 =
        (run (writeEntity (documentMapper text) keepDocumentCreation) (fun _ => none) writes).1 ∧
      (∀ document : Document text, readBackDocument document = document ↔
        Packable document.caseIds ∧ Packable document.tagNames) ∧
      (∀ id, call (Documents.SqliteDocumentRepository.get text id) table =
        (.ok ((stored id).map readBackDocument), table)) ∧
      ∃ listing, Serves (documentMapper text) readBackDocument scan table stored listing ∧
        (∀ workspaceId,
          call (SqliteDocumentRepository.findByWorkspace text scan workspaceId) table =
            (.ok ((listing.filter (fun document =>
              document.workspaceId = workspaceId)).map readBackDocument), table)) ∧
        (∀ caseId, call (Documents.SqliteDocumentRepository.findByCase text scan caseId) table =
          (.ok ((listing.filter (fun document =>
            caseId ∈ (readBackDocument document).caseIds)).map readBackDocument), table)) ∧
        (∀ fileHash, call (SqliteDocumentRepository.findByHash text scan fileHash) table =
          (.ok ((listing.find? (fun document =>
            document.fileHash.map FileHash.value = some fileHash)).map readBackDocument), table)) ∧
        (∀ workspaceId status,
          call (SqliteDocumentRepository.findByStatus text scan workspaceId status) table =
            (.ok ((listing.filter (fun document => document.workspaceId = workspaceId ∧
              document.status = status)).map readBackDocument), table)) ∧
        ∀ workspaceId, call (SqliteDocumentRepository.findDuplicates text scan workspaceId) table =
          (.ok ((listing.filter (fun document => document.workspaceId = workspaceId ∧
            document.isDuplicate = true)).map readBackDocument), table) := by
  intro table stored
  obtain ⟨answers, encodes⟩ :=
    @documentTableStep_eq text ▸ run_encodes documentMapper_lawful writes
  obtain ⟨listing, serving, rows⟩ := serves documentMapper_lawful encodes scan
  refine ⟨answers, readBackDocument_eq_iff, fun id => ?_, listing, serving, fun workspaceId => ?_,
    fun caseId => ?_, fun fileHash => ?_, fun workspaceId status => ?_, fun workspaceId => ?_⟩
  · exact (call_get_eq table id).trans (serving.got id)
  · exact call_select documentMapper_lawful rows fun _ => rfl
  · exact (call_findByCase_eq table scan caseId).trans
      (call_select documentMapper_lawful rows fun _ => rfl)
  · exact call_first documentMapper_lawful rows fun _ => rfl
  · refine call_select documentMapper_lawful rows fun document => ?_
    exact decide_eq_decide.mpr
      (and_congr_right fun _ => (decoded_injective DocumentStatus.of_value).eq_iff)
  · exact call_select documentMapper_lawful rows fun _ => rfl

end Documents

end LexMind.Metadata
