import LexMind.Documents.StoredSequences

set_option autoImplicit false

/- The two readers of the documents table against each other. -/
namespace LexMind.Documents

open Lib

variable {text : TextMethods}

section Stored

/-- The documents a table stands for: those written last, with the creation time of their row. -/
abbrev DocumentStore (text : TextMethods) := Keyed (@Document.id text)

/-- What a repository call does to the documents stored. -/
def storedStep (documents : DocumentStore text) : RepositoryCall text → DocumentStore text
  | .create document =>
      if documents.contains document.id then documents else documents.put document
  | .update document =>
      match documents.find? document.id with
      | none => documents
      | some old => documents.put { document with createdAt := old.createdAt }
  | .delete documentId =>
      if documents.contains documentId then documents.erase documentId else documents

def stored (calls : List (RepositoryCall text)) : DocumentStore text :=
  calls.foldl storedStep Keyed.empty

/-- The rows are the columns of the documents. -/
def Stores (table : DocumentTable) (documents : DocumentStore text) : Prop :=
  ∀ id, table.find? id = (documents.find? id).map rowOf

theorem Stores.contains {table : DocumentTable} {documents : DocumentStore text}
    (stores : Stores table documents) (id : String) :
    table.contains id = documents.contains id := by
  rw [Keyed.contains, Keyed.contains, stores id, Option.isSome_map]

theorem Stores.put {table : DocumentTable} {documents : DocumentStore text}
    (stores : Stores table documents) (document : Document text) :
    Stores (table.put (rowOf document)) (documents.put document) := by
  intro id
  rw [Keyed.find?_put, Keyed.find?_put, stores id]
  show (if document.id = id then _ else _) = _
  split <;> rfl

theorem Stores.erase {table : DocumentTable} {documents : DocumentStore text}
    (stores : Stores table documents) (documentId : String) :
    Stores (table.erase documentId) (documents.erase documentId) := by
  intro id
  rw [Keyed.find?_erase, Keyed.find?_erase, stores id]
  split <;> rfl

theorem Stores.step {table : DocumentTable} {documents : DocumentStore text}
    (stores : Stores table documents) (made : RepositoryCall text) :
    Stores (repositoryStep table made).2 (storedStep documents made) := by
  unfold repositoryStep
  cases made with
  | create document =>
      rw [storedStep]
      have taken := stores.contains document.id
      by_cases present : documents.contains document.id = true
      · simpa [RepositoryCall.program, SqliteDocumentRepositoryImpl.create, taken, present]
          using stores
      · simpa [RepositoryCall.program, SqliteDocumentRepositoryImpl.create, taken, present]
          using stores.put document
  | update document =>
      rw [storedStep]
      have row := stores document.id
      cases found : documents.find? document.id with
      | none =>
          rw [found] at row
          simpa [RepositoryCall.program, SqliteDocumentRepositoryImpl.update, row] using stores
      | some old =>
          rw [found] at row
          have written : overwrite (rowOf old) document =
              rowOf { document with createdAt := old.createdAt } :=
            overwrite_eq (Keyed.key_of_find? row)
          simpa [RepositoryCall.program, SqliteDocumentRepositoryImpl.update, row, written]
            using stores.put { document with createdAt := old.createdAt }
  | delete documentId =>
      rw [storedStep]
      have taken := stores.contains documentId
      by_cases present : documents.contains documentId = true
      · simpa [RepositoryCall.program, SqliteDocumentRepositoryImpl.delete, taken, present]
          using stores.erase documentId
      · simpa [RepositoryCall.program, SqliteDocumentRepositoryImpl.delete, taken, present]
          using stores

theorem stores_run (calls : List (RepositoryCall text)) :
    Stores (run repositoryStep Keyed.empty calls).2 (stored calls) := by
  have start : Stores Keyed.empty (Keyed.empty : DocumentStore text) := fun _ => rfl
  unfold stored
  generalize (Keyed.empty : DocumentTable) = table at start ⊢
  generalize (Keyed.empty : DocumentStore text) = documents at start ⊢
  induction calls generalizing table documents with
  | nil => exact start
  | cons made rest ih => exact ih _ _ (start.step made)

end Stored

section Admitted

/-- A reachable document whose case ids and tags have no comma. -/
structure Admitted (document : Document text) : Prop where
  reachable : Reachable document
  cases : ∀ caseId ∈ document.caseIds, ',' ∉ caseId.toList
  tags : ∀ tag ∈ document.tagNames, ',' ∉ tag.toList

def RepositoryCall.Admits : RepositoryCall text → Prop
  | create document => Admitted document
  | update document => Admitted document
  | delete _ => True

/-- Another creation time leaves a document reachable. -/
theorem Reachable.createdAt {document : Document text} (reachable : Reachable document)
    (createdAt : Timestamp) : Reachable { document with createdAt := createdAt } := by
  obtain ⟨fresh, calls, noCases, noTags, named, rfl⟩ := reachable
  refine ⟨{ fresh with createdAt := createdAt }, calls, noCases, noTags, named, ?_⟩
  clear noCases noTags named
  induction calls generalizing fresh with
  | nil => rfl
  | cons made rest ih =>
      rw [List.foldl_cons, List.foldl_cons, ← ih]
      congr 1
      obtain ⟨called, now⟩ := made
      cases called with
      | linkToCase caseId =>
          simp only [DocumentCall.perform, Document.linkToCase, Document.touch]
          split <;> rfl
      | unlinkFromCase caseId => rfl
      | addTag tag =>
          simp only [DocumentCall.perform, Document.addTag, Document.touch]
          split <;> rfl
      | removeTag tag => rfl

theorem Admitted.createdAt {document : Document text} (admitted : Admitted document)
    (createdAt : Timestamp) : Admitted { document with createdAt := createdAt } :=
  ⟨admitted.reachable.createdAt createdAt, admitted.cases, admitted.tags⟩

theorem admitted_step {documents : DocumentStore text} {made : RepositoryCall text}
    (kept : ∀ document ∈ documents.rows, Admitted document) (admits : made.Admits) :
    ∀ document ∈ (storedStep documents made).rows, Admitted document := by
  have put : ∀ written : Document text, Admitted written →
      ∀ document ∈ (documents.put written).rows, Admitted document := by
    intro written admitted document inside
    rcases (documents.mem_put written document).mp inside with rfl | ⟨before, _⟩
    · exact admitted
    · exact kept document before
  cases made with
  | create document =>
      rw [storedStep]
      split
      · exact kept
      · exact put document admits
  | update document =>
      rw [storedStep]
      split
      · exact kept
      · exact put _ (Admitted.createdAt admits _)
  | delete documentId =>
      rw [storedStep]
      split
      · intro document inside
        exact kept document ((documents.mem_erase documentId document).mp inside).1
      · exact kept

theorem admitted_stored {calls : List (RepositoryCall text)} (admits : ∀ made ∈ calls, made.Admits) :
    ∀ document ∈ (stored calls).rows, Admitted document := by
  have start : ∀ document ∈ (Keyed.empty : DocumentStore text).rows, Admitted document := by
    intro document inside
    cases inside
  unfold stored
  generalize (Keyed.empty : DocumentStore text) = documents at start ⊢
  induction calls generalizing documents with
  | nil => exact start
  | cons made rest ih =>
      exact ih (fun other inside => admits other (List.mem_cons_of_mem made inside)) _
        (admitted_step start (admits made List.mem_cons_self))

end Admitted

/-- Both readers give the same for an id, and writing through either of them what the other has
read changes nothing. -/
structure Agree (text : TextMethods) (table : DocumentTable) (id : String) : Prop where
  read : (call (SqliteDocumentRepositoryImpl.getById text id) table).1 =
    (call (SqliteDocumentRepository.get text id) table).1
  first : ∀ document, (call (SqliteDocumentRepositoryImpl.getById text id) table).1 =
      .ok (some document) →
    (call (SqliteDocumentRepository.update document) table).2 = table
  second : ∀ document, (call (SqliteDocumentRepository.get text id) table).1 =
      .ok (some document) →
    (call (SqliteDocumentRepositoryImpl.update document) table).2 = table

section Rows

variable {table : DocumentTable} {document : Document text}

theorem getById_admitted (admitted : Admitted document)
    (found : table.find? document.id = some (rowOf document)) :
    (call (SqliteDocumentRepositoryImpl.getById text document.id) table).1 =
      .ok (some document) := by
  have kept := admitted.reachable.sequences
  have cases := (SqliteDocumentRepositoryImpl.unpack_pyJoin_iff kept.cases).mpr admitted.cases
  have tags := (SqliteDocumentRepositoryImpl.unpack_pyJoin_iff
    (fun tag inside => (kept.tags tag inside).1)).mpr admitted.tags
  simp [SqliteDocumentRepositoryImpl.getById, found,
    SqliteDocumentRepositoryImpl.toDomain_rowOf, cases, tags]

/-- The other reader strips the case ids. -/
theorem get_admitted (admitted : Admitted document)
    (found : table.find? document.id = some (rowOf document)) :
    (call (SqliteDocumentRepository.get text document.id) table).1 = .ok (some { document with
      caseIds := SqliteDocumentRepository.parseIds (pyJoin ',' document.caseIds) }) := by
  have kept := admitted.reachable.sequences
  have tags := SqliteDocumentRepository.parseIds_pyJoin (fun tag inside =>
    ⟨admitted.tags tag inside, (kept.tags tag inside).2, (kept.tags tag inside).1⟩)
  simp [SqliteDocumentRepository.get, found, SqliteDocumentRepository.toDomain_rowOf, tags]

/-- Writing back the document of a row changes nothing, through either repository. -/
theorem update_unchanged (found : table.find? document.id = some (rowOf document)) :
    (call (SqliteDocumentRepository.update document) table).2 = table ∧
      (call (SqliteDocumentRepositoryImpl.update document) table).2 = table := by
  have written : overwrite (rowOf document) document = rowOf document := rfl
  have kept : table.put (rowOf document) = table := table.put_of_find? found
  constructor
  · simp [SqliteDocumentRepository.update, found, written, kept]
  · simp [SqliteDocumentRepositoryImpl.update, found, written, kept]

theorem agree_iff (admitted : Admitted document)
    (found : table.find? document.id = some (rowOf document)) :
    Agree text table document.id ↔ ∀ caseId ∈ document.caseIds, pyStrip caseId = caseId := by
  have kept := admitted.reachable.sequences
  have first := getById_admitted admitted found
  have second := get_admitted admitted found
  constructor
  · intro agree caseId inside
    have same := Option.some.inj (Except.ok.inj (first.symm.trans (agree.read.trans second)))
    have parsed : document.caseIds =
        SqliteDocumentRepository.parseIds (pyJoin ',' document.caseIds) :=
      congrArg Document.caseIds same
    rw [parsed] at inside
    exact (SqliteDocumentRepository.mem_parseIds inside).2.1
  · intro stripped
    have parsed := SqliteDocumentRepository.parseIds_pyJoin (fun caseId inside =>
      ⟨admitted.cases caseId inside, stripped caseId inside, kept.cases caseId inside⟩)
    rw [parsed] at second
    constructor
    · rw [first, second]
    · intro other answer
      have same := Option.some.inj (Except.ok.inj (first.symm.trans answer))
      subst same
      exact (update_unchanged found).1
    · intro other answer
      have same := Option.some.inj (Except.ok.inj (second.symm.trans answer))
      subst same
      exact (update_unchanged found).2

theorem agree_absent {id : String} (absent : table.find? id = none) : Agree text table id := by
  have first : (call (SqliteDocumentRepositoryImpl.getById text id) table).1 = .ok none := by
    simp [SqliteDocumentRepositoryImpl.getById, absent]
  have second : (call (SqliteDocumentRepository.get text id) table).1 = .ok none := by
    simp [SqliteDocumentRepository.get, absent]
  constructor
  · rw [first, second]
  · intro document answer
    rw [first] at answer
    cases answer
  · intro document answer
    rw [second] at answer
    cases answer

end Rows

/-- After calls with reachable documents and ids and tags without commas, the readers agree on
every id exactly where no document stored has a case id with blanks around it. -/
theorem readers_agree_iff {calls : List (RepositoryCall text)}
    (admits : ∀ made ∈ calls, made.Admits) :
    (∀ id, Agree text (run repositoryStep Keyed.empty calls).2 id) ↔
      ∀ document ∈ (stored calls).rows, ∀ caseId ∈ document.caseIds, pyStrip caseId = caseId := by
  have stores := stores_run calls
  have admitted := admitted_stored admits
  constructor
  · intro agree document inside
    have found := stores document.id
    rw [(stored calls).find?_of_mem inside] at found
    exact (agree_iff (admitted document inside) found).mp (agree document.id)
  · intro stripped id
    have found := stores id
    cases held : (stored calls).find? id with
    | none =>
        rw [held] at found
        exact agree_absent found
    | some document =>
        rw [held] at found
        have inside := Keyed.mem_of_find? held
        have same : document.id = id := Keyed.key_of_find? held
        subst same
        exact (agree_iff (admitted document inside) found).mpr (stripped document inside)

theorem lease_admitted {caseId : String} (named : caseId ≠ "") (clean : ',' ∉ caseId.toList) :
    Admitted (lease caseId) := by
  have only : (lease caseId).caseIds = [caseId] := rfl
  constructor
  · exact lease_reachable named
  · intro other inside
    rw [only] at inside
    rw [List.mem_singleton.mp inside]
    exact clean
  · intro tag inside
    cases inside

theorem readers_agree_oneCase :
    Agree asciiText (run repositoryStep Keyed.empty
      [RepositoryCall.create (lease "case-7")]).2 "d1" := by
  have admits : ∀ made ∈ [RepositoryCall.create (lease "case-7")], made.Admits := by
    intro made inside
    rw [List.mem_singleton.mp inside]
    exact lease_admitted (by decide) (by decide)
  exact (readers_agree_iff admits).mpr (by decide) "d1"

/-- The two readers differ on a case id with blanks around it. -/
theorem readers_differ :
    ¬ ∀ calls : List (RepositoryCall asciiText), (∀ made ∈ calls, made.Admits) →
      ∀ id, Agree asciiText (run repositoryStep Keyed.empty calls).2 id := by
  intro agrees
  have admitted : Admitted (lease " case-7 ") := lease_admitted (by decide) (by decide)
  have agree := agrees [.create (lease " case-7 ")] (by
    intro made inside
    rw [List.mem_singleton.mp inside]
    exact admitted) "d1"
  have stripped := (agree_iff admitted rfl).mp agree " case-7 " List.mem_cons_self
  exact absurd stripped (by decide)

end LexMind.Documents
