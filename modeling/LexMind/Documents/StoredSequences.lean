import LexMind.Documents.PackedColumns

set_option autoImplicit false

/- What a document's case ids and tags are after they have been stored. -/
namespace LexMind.Documents

open Lib

variable {text : TextMethods}

/-- The table after a write that was accepted. -/
theorem accepted_write {table : DocumentTable} {made : RepositoryCall text}
    {document : Document text} (writes : made = .create document ∨ made = .update document)
    (accepted : (repositoryStep table made).1 = .ok ()) :
    ∃ createdAt, (repositoryStep table made).2 =
      table.put (rowOf { document with createdAt := createdAt }) := by
  unfold repositoryStep at *
  rcases writes with rfl | rfl
  · refine ⟨document.createdAt, ?_⟩
    by_cases taken : table.contains document.id = true
    · simp [RepositoryCall.program, SqliteDocumentRepositoryImpl.create, taken] at accepted
    · simp [RepositoryCall.program, SqliteDocumentRepositoryImpl.create, taken]
  · cases found : table.find? document.id with
    | none => simp [RepositoryCall.program, SqliteDocumentRepositoryImpl.update, found] at accepted
    | some row =>
        refine ⟨row.createdAt, ?_⟩
        rw [← overwrite_eq (Keyed.key_of_find? found)]
        simp [RepositoryCall.program, SqliteDocumentRepositoryImpl.update, found]

theorem call_getById_put (table : DocumentTable) (stored : Document text) :
    (call (SqliteDocumentRepositoryImpl.getById text stored.id) (table.put (rowOf stored))).1 =
      .ok (some { stored with
        caseIds := SqliteDocumentRepositoryImpl.unpack (pyJoin ',' stored.caseIds)
        tagNames := SqliteDocumentRepositoryImpl.unpack (pyJoin ',' stored.tagNames) }) := by
  have found : (table.put (rowOf stored)).find? stored.id = some (rowOf stored) :=
    table.find?_put_self (rowOf stored)
  simp [SqliteDocumentRepositoryImpl.getById, found,
    SqliteDocumentRepositoryImpl.toDomain_rowOf]

/-- The documents found by case are those of the rows that list the case. -/
theorem call_findByCase {table : DocumentTable} (written : Written text table)
    (scan : Arrangement DocumentRow) (caseId : String) :
    ∃ found, (call (SqliteDocumentRepository.findByCase text scan caseId) table).1 = .ok found ∧
      ∀ id, (∃ other ∈ found, other.id = id) ↔
        ∃ row ∈ table.rows, row.id = id ∧
          caseId ∈ SqliteDocumentRepository.parseIds row.caseIds := by
  have decodes : ∀ row ∈ table.rows, ∃ document,
      SqliteDocumentRepository.toDomain text row = .ok document ∧ document.id = row.id := by
    intro row stored
    obtain ⟨document, rfl⟩ := written row stored
    exact ⟨_, SqliteDocumentRepository.toDomain_rowOf document, rfl⟩
  obtain ⟨found, returned, ids⟩ := mapM_filter_returns
    (fun row => caseId ∈ SqliteDocumentRepository.parseIds row.caseIds)
    (scan.mem_arrange table.rows) decodes
  refine ⟨found, ?_, fun id => ?_⟩
  · simp [SqliteDocumentRepository.findByCase, returned]
  · simp only [decide_eq_true_eq] at ids
    exact ids id

/-- The document itself is found by case exactly where its packed column lists the case. -/
theorem call_findByCase_put {table : DocumentTable} (written : Written text table)
    (scan : Arrangement DocumentRow) (stored : Document text) (caseId : String) :
    ∃ found, (call (SqliteDocumentRepository.findByCase text scan caseId)
        (table.put (rowOf stored))).1 = .ok found ∧
      ((∃ other ∈ found, other.id = stored.id) ↔
        caseId ∈ SqliteDocumentRepository.parseIds (pyJoin ',' stored.caseIds)) := by
  obtain ⟨found, returned, listed⟩ := call_findByCase (written.put stored) scan caseId
  refine ⟨found, returned, (listed stored.id).trans ?_⟩
  constructor
  · rintro ⟨row, inside, same, lists⟩
    rcases (table.mem_put _ row).mp inside with rfl | ⟨_, other⟩
    · exact lists
    · exact absurd same other
  · intro lists
    exact ⟨rowOf stored, (table.mem_put _ _).mpr (.inl rfl), rfl, lists⟩

/-- Reading by id gives the two sequences back, and the document is found by exactly the cases
it lists. -/
def Restored (scan : Arrangement DocumentRow) (table : DocumentTable) (document : Document text) :
    Prop :=
  (∃ found, (call (SqliteDocumentRepositoryImpl.getById text document.id) table).1 =
      .ok (some found) ∧ found.caseIds = document.caseIds ∧ found.tagNames = document.tagNames) ∧
  ∀ caseId, ∃ found,
    (call (SqliteDocumentRepository.findByCase text scan caseId) table).1 = .ok found ∧
      ((∃ other ∈ found, other.id = document.id) ↔ caseId ∈ document.caseIds)

/-- Over any table the repository has made, a stored document is restored exactly where no case
id and no tag has a comma and no case id has blanks around it. -/
theorem restored_iff (calls : List (RepositoryCall text)) (scan : Arrangement DocumentRow)
    {document : Document text} (reachable : Reachable document) {made : RepositoryCall text}
    (writes : made = .create document ∨ made = .update document)
    (accepted : (repositoryStep (run repositoryStep Keyed.empty calls).2 made).1 = .ok ()) :
    Restored scan (repositoryStep (run repositoryStep Keyed.empty calls).2 made).2 document ↔
      (∀ caseId ∈ document.caseIds, ',' ∉ caseId.toList ∧ pyStrip caseId = caseId) ∧
        ∀ tag ∈ document.tagNames, ',' ∉ tag.toList := by
  obtain ⟨createdAt, after⟩ := accepted_write writes accepted
  have kept := reachable.sequences
  have cases := SqliteDocumentRepositoryImpl.unpack_pyJoin_iff kept.cases
  have tags := SqliteDocumentRepositoryImpl.unpack_pyJoin_iff
    (fun tag inside => (kept.tags tag inside).1)
  have read := call_getById_put (run repositoryStep Keyed.empty calls).2
    { document with createdAt := createdAt }
  have found := call_findByCase_put (written_run calls) scan { document with createdAt := createdAt }
  rw [after]
  constructor
  · rintro ⟨⟨other, answer, sameCases, sameTags⟩, listed⟩
    have back : SqliteDocumentRepositoryImpl.unpack (pyJoin ',' document.caseIds) =
        document.caseIds ∧
        SqliteDocumentRepositoryImpl.unpack (pyJoin ',' document.tagNames) =
          document.tagNames := by
      have same := Option.some.inj (Except.ok.inj (read.symm.trans answer))
      subst same
      exact ⟨sameCases, sameTags⟩
    refine ⟨fun caseId inside => ⟨cases.mp back.1 caseId inside, ?_⟩, tags.mp back.2⟩
    obtain ⟨list, returned, lists⟩ := listed caseId
    obtain ⟨list', returned', lists'⟩ := found caseId
    have same := Except.ok.inj (returned.symm.trans returned')
    subst same
    exact (SqliteDocumentRepository.mem_parseIds (lists'.mp (lists.mpr inside))).2.1
  · rintro ⟨cleanCases, cleanTags⟩
    constructor
    · exact ⟨_, read, cases.mpr (fun caseId inside => (cleanCases caseId inside).1),
        tags.mpr cleanTags⟩
    · intro caseId
      obtain ⟨list, returned, lists⟩ := found caseId
      have parsed : SqliteDocumentRepository.parseIds (pyJoin ',' document.caseIds) =
          document.caseIds :=
        SqliteDocumentRepository.parseIds_pyJoin (fun other inside =>
          ⟨(cleanCases other inside).1, (cleanCases other inside).2, kept.cases other inside⟩)
      refine ⟨list, returned, ?_⟩
      rw [← parsed]
      exact lists

/-- A document linked to one case, under the case's id. -/
def lease (caseId : String) : Document asciiText :=
  (Document.fresh asciiText "d1" 0 "alpha" "Lease" (by decide)).linkToCase caseId 1

theorem lease_reachable {caseId : String} (named : caseId ≠ "") : Reachable (lease caseId) := by
  refine ⟨Document.fresh asciiText "d1" 0 "alpha" "Lease" (by decide),
    [(.linkToCase caseId, 1)], rfl, rfl, ?_, rfl⟩
  intro made inside
  rw [List.mem_singleton.mp inside]
  exact named

theorem restored_oneCase :
    Restored .asStored (repositoryStep Keyed.empty (.create (lease "case-7"))).2 (lease "case-7") :=
  (restored_iff [] .asStored (lease_reachable (by decide)) (.inl rfl) rfl).mpr
    ⟨by decide, by decide⟩

/-- A case id with a comma comes back as two. -/
theorem restored_comma :
    ¬ ∀ (calls : List (RepositoryCall asciiText)) (scan : Arrangement DocumentRow)
        (document : Document asciiText) (made : RepositoryCall asciiText), Reachable document →
      made = .create document ∨ made = .update document →
      (repositoryStep (run repositoryStep Keyed.empty calls).2 made).1 = .ok () →
      Restored scan (repositoryStep (run repositoryStep Keyed.empty calls).2 made).2 document := by
  intro restores
  obtain ⟨⟨found, answer, same, _⟩, _⟩ :=
    restores [] .asStored (lease "A,1") _ (lease_reachable (by decide)) (.inl rfl) rfl
  have read := call_getById_put Keyed.empty (lease "A,1")
  have split := Option.some.inj (Except.ok.inj (answer.symm.trans read))
  rw [split] at same
  have apart : SqliteDocumentRepositoryImpl.unpack (pyJoin ',' ["A,1"]) ≠ ["A,1"] := by decide
  exact apart same

end LexMind.Documents
