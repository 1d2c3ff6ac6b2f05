import LexMind.Failures
import LexMind.Ingestion.DuplicateFlag
import LexMind.Storage.Saving

set_option autoImplicit false

/- What an import that raises leaves of the files and of the documents, wherever it raises. -/
namespace LexMind.Ingestion

open Lib Events Documents Storage

/-- What surrounds one import: a bus of any kind, and what fails of the database, in the lookup
and in the insertion, and of the host. -/
structure Surroundings (β : Type) where
  publish : EventObject → Py β Unit
  lookup : Option PyExc
  host : Option Breakdown
  insertion : Option PyExc

/-- What the service works on, with the state of its bus. -/
structure Served (β : Type) where
  service : ImportState
  bus : β

section Parts

variable {β α : Type}

def onBus (program : Py β α) : Py (Served β) α :=
  onPart Served.bus (fun served bus => { served with bus := bus }) program

def onDocuments (program : Py DocumentTable α) : Py (Served β) α :=
  onPart (fun served => served.service.documents)
    (fun served documents => { served with service := { served.service with documents := documents } })
    program

def onFiles (program : Py HostTree α) : Py (Served β) α :=
  onPart (fun served => served.service.tree)
    (fun served tree => { served with service := { served.service with tree := tree } }) program

variable (state : ImportState) (bus : β)

@[simp] theorem call_onBus (program : Py β α) :
    call (onBus program) ⟨state, bus⟩ = ((call program bus).1, ⟨state, (call program bus).2⟩) := by
  rw [onBus, call_onPart]

@[simp] theorem call_onDocuments (program : Py DocumentTable α) :
    call (onDocuments program) (⟨state, bus⟩ : Served β) =
      ((call program state.documents).1,
        ⟨{ state with documents := (call program state.documents).2 }, bus⟩) := by
  rw [onDocuments, call_onPart]

@[simp] theorem call_onFiles (program : Py HostTree α) :
    call (onFiles program) (⟨state, bus⟩ : Served β) =
      ((call program state.tree).1, ⟨{ state with tree := (call program state.tree).2 }, bus⟩) := by
  rw [onFiles, call_onPart]

end Parts

namespace ImportService

variable {β : Type} (service : ImportService)

/-- One import in its surroundings. -/
def importFileAmid (around : Surroundings β) (scan : Arrangement DocumentRow) (made : Made)
    (filePath : String) (fileData : Bytes) (title : String) :
    Py (Served β) (Document service.text) := do
  onBus (around.publish (service.importStarted filePath))
  if (formatMap.lookup (service.extOf filePath)).isNone then
    throw (.valueError ("Unsupported file format: " ++ service.extOf filePath))
  let fileHash := service.sha1 fileData
  let existing ← onDocuments (inSession around.lookup
    (SqliteDocumentRepositoryImpl.findByHash service.text scan fileHash))
  let isDuplicate := existing.isSome
  let doc ← check (service.newDocument made filePath title fileHash isDuplicate)
  onFiles (onHost around.host
    (service.storage.save (service.buildUri doc.id (nameOf filePath)) fileData))
  let _ ← onDocuments (inSession around.insertion (SqliteDocumentRepositoryImpl.create doc))
  onBus (around.publish (service.documentImported doc.id filePath fileHash))
  onBus (around.publish
    (service.importCompleted doc.id filePath fileHash doc.mimeType isDuplicate))
  return doc

section Undisturbed

/-- The bus of a service, if it has one. -/
def publishIfAny (event : EventObject) : Py (Option EventBus) Unit := do
  match ← get with
  | none => pure ()
  | some bus =>
      let _ ← onPart (fun _ => bus) (fun _ after => some after) (EventBus.publish event)

/-- Nothing fails. -/
def undisturbed : Surroundings (Option EventBus) := ⟨publishIfAny, none, none, none⟩

def served (wired : Wired ImportState) : Served (Option EventBus) := ⟨wired.service, wired.bus⟩

theorem emit_mirrors (event : EventObject) :
    Mirrors served (emit event) (onBus (publishIfAny event)) := by
  rintro ⟨state, bus⟩
  cases bus with
  | none => rfl
  | some bus =>
      simp only [served, call_onBus, publishIfAny, emit, call_bind, call_get, andThen_ok,
        call_onPart, andThen_pure]

theorem onRepo_mirrors {α : Type} (program : Py DocumentTable α) :
    Mirrors served (onRepo program) (onDocuments program) := by
  rintro ⟨state, bus⟩
  simp only [served, call_onDocuments, call_onRepo]

theorem onStorage_mirrors {α : Type} (program : Py HostTree α) :
    Mirrors served (onStorage program) (onFiles program) := by
  rintro ⟨state, bus⟩
  simp only [served, call_onFiles, call_onStorage]

/-- Where nothing fails, the import is the service's own. -/
theorem importFile_mirrors (scan : Arrangement DocumentRow) (made : Made) (filePath : String)
    (fileData : Bytes) (title : String) :
    Mirrors served (service.importFile scan made filePath fileData title)
      (service.importFileAmid undisturbed scan made filePath fileData title) := by
  unfold importFile importFileAmid undisturbed
  refine (emit_mirrors _).bind fun _ => ?_
  dsimp only
  refine .ite _ (.throw_bind _) ?_
  refine (onRepo_mirrors _).bind fun existing => ?_
  refine (Mirrors.check _).bind fun doc => ?_
  refine (onStorage_mirrors _).bind fun _ => ?_
  refine (onRepo_mirrors _).bind fun _ => ?_
  refine (emit_mirrors _).bind fun _ => ?_
  exact (emit_mirrors _).bind fun _ => .pure doc

/-- A service with an event bus imports nothing: the bus looks for a name of the first event. -/
theorem importFile_with_bus (scan : Arrangement DocumentRow) (made : Made) (filePath : String)
    (fileData : Bytes) (title : String) (state : ImportState) (bus : EventBus) :
    call (service.importFile scan made filePath fileData title) ⟨state, some bus⟩ =
      (.error (.attributeError "ImportStarted" "name"), ⟨state, some bus⟩) := by
  have unnamed : (service.importStarted filePath).attributes.lookup "name" = none :=
    domainEvent_unnamed _ _ _ rfl
  rw [importFile, call_bind, emit_unnamed _ unnamed, andThen_error]
  rfl

end Undisturbed

section Lookup

variable {text : TextMethods} (scan : Arrangement DocumentRow) (fileHash : String)
  (table : DocumentTable)

/-- What a lookup by hash finds in the order of the scan. -/
def hit : Option DocumentRow :=
  (scan.arrange table.rows).find? (fun row => row.fileHash = some fileHash)

theorem findByHash_reads :
    (call (SqliteDocumentRepositoryImpl.findByHash text scan fileHash) table).2 = table := by
  simp only [SqliteDocumentRepositoryImpl.findByHash, call_bind, call_get, andThen_ok]
  split
  · rfl
  · rw [call_bind, call_check]
    cases SqliteDocumentRepositoryImpl.toDomain text _ <;> rfl

variable {scan fileHash table}

/-- A lookup that returns says whether there is a hit. -/
theorem findByHash_isSome {found : Option (Document text)}
    (returned : (call (SqliteDocumentRepositoryImpl.findByHash text scan fileHash) table).1 =
      .ok found) : found.isSome = (hit scan fileHash table).isSome := by
  simp only [SqliteDocumentRepositoryImpl.findByHash, call_bind, call_get, andThen_ok] at returned
  unfold hit
  split at returned
  · rename_i none
    cases returned
    rw [none]
    rfl
  · rename_i row some
    rw [call_bind, call_check] at returned
    cases decoded : SqliteDocumentRepositoryImpl.toDomain text row with
    | error exc =>
        rw [decoded] at returned
        cases returned
    | ok document =>
        rw [decoded] at returned
        cases returned
        rw [some]
        rfl

end Lookup

section Atomicity

variable (around : Surroundings β) (scan : Arrangement DocumentRow) (made : Made)
  (filePath : String) (fileData : Bytes) (title : String) (state : ImportState) (bus : β)

/-- The state of the bus once it has been told of the start. -/
def afterStart : β := (call (around.publish (service.importStarted filePath)) bus).2

/-- The import gets as far as storing its file. -/
structure Proceeds : Prop where
  started : (call (around.publish (service.importStarted filePath)) bus).1 = .ok ()
  format : (formatMap.lookup (service.extOf filePath)).isSome = true
  looked : ∃ found, (call (inSession around.lookup (SqliteDocumentRepositoryImpl.findByHash
    service.text scan (service.sha1 fileData))) state.documents).1 = .ok found
  name : ∃ path, FilePath.of (nameOf filePath) = .ok path
  workspace : service.workspaceId ≠ ""

/-- Where the file goes. -/
def originalUri : String := service.buildUri made.id (nameOf filePath)

/-- The file is stored. -/
def Saves : Prop :=
  around.host = none ∧ service.storage.Takes (service.originalUri made filePath) state.tree

/-- The document is stored. -/
def Inserts : Prop := around.insertion = none ∧ state.documents.contains made.id = false

/-- The two events of an import that is stored. -/
def announce : Py β Unit := do
  around.publish (service.documentImported made.id filePath (service.sha1 fileData))
  around.publish (service.importCompleted made.id filePath (service.sha1 fileData)
    ((mimeMap.lookup (service.extOf filePath)).getD "application/octet-stream")
    (hit scan (service.sha1 fileData) state.documents).isSome)

/-- Nothing goes wrong once something has been stored: a save that breaks off has left the files
as they were, a document is refused only where its file stood there before, and the bus takes both
events of an import that is stored. -/
structure Harmless : Prop where
  broken : ∀ broken, around.host = some broken → broken.left = state.tree
  refused : service.Saves around made filePath state → ¬ Inserts around made state →
    service.storage.Holds (service.originalUri made filePath) fileData state.tree
  announced : service.Saves around made filePath state → Inserts around made state →
    (call (service.announce around scan made filePath fileData state)
      (service.afterStart around filePath bus)).1 = .ok ()

/-- What follows the making of the document. -/
def store (doc : Document service.text) (isDuplicate : Bool) :
    Py (Served β) (Document service.text) := do
  onFiles (onHost around.host
    (service.storage.save (service.buildUri doc.id (nameOf filePath)) fileData))
  let _ ← onDocuments (inSession around.insertion (SqliteDocumentRepositoryImpl.create doc))
  onBus (around.publish (service.documentImported doc.id filePath (service.sha1 fileData)))
  onBus (around.publish (service.importCompleted doc.id filePath (service.sha1 fileData)
    doc.mimeType isDuplicate))
  return doc

variable {service around scan made filePath fileData state bus}

/-- Whatever comes before the save changes neither files nor documents. -/
theorem importFileAmid_proceeds (made : Made)
    (proceeds : service.Proceeds around scan filePath fileData state bus) :
    ∃ doc, doc.id = made.id ∧
      doc.mimeType = (mimeMap.lookup (service.extOf filePath)).getD "application/octet-stream" ∧
      call (service.importFileAmid around scan made filePath fileData title) ⟨state, bus⟩ =
        call (service.store around filePath fileData doc
          (hit scan (service.sha1 fileData) state.documents).isSome)
          ⟨state, service.afterStart around filePath bus⟩ := by
  obtain ⟨found, looked⟩ := proceeds.looked
  have reads : (call (inSession around.lookup (SqliteDocumentRepositoryImpl.findByHash
      service.text scan (service.sha1 fileData))) state.documents).2 = state.documents :=
    call_inSession_reads (findByHash_reads scan _ _)
  have flag : found.isSome = (hit scan (service.sha1 fileData) state.documents).isSome := by
    cases failure : around.lookup with
    | none =>
        rw [failure] at looked
        exact findByHash_isSome looked
    | some exc =>
        rw [failure] at looked
        cases looked
  obtain ⟨doc, built, sameId, -, sameType⟩ := newDocument_ok made title fileData proceeds.name
    proceeds.workspace found.isSome
  refine ⟨doc, sameId, sameType, ?_⟩
  have supported : (formatMap.lookup (service.extOf filePath)).isNone = false :=
    Option.isNone_eq_false_iff.mpr proceeds.format
  unfold importFileAmid
  rw [call_bind, call_onBus, proceeds.started, andThen_ok, ← afterStart]
  dsimp only
  rw [supported, if_neg Bool.false_ne_true, call_bind, call_onDocuments, looked, reads, andThen_ok,
    call_bind, call_check, built, andThen_ok, flag]
  rfl

theorem importFileAmid_stops (made : Made)
    (stops : ¬ service.Proceeds around scan filePath fileData state bus) :
    ∃ exc after, call (service.importFileAmid around scan made filePath fileData title)
      ⟨state, bus⟩ = (.error exc, ⟨state, after⟩) := by
  unfold importFileAmid
  rw [call_bind, call_onBus]
  rcases started : (call (around.publish (service.importStarted filePath)) bus).1 with exc | _
  · exact ⟨exc, _, rfl⟩
  rw [andThen_ok]
  dsimp only
  rw [call_ite]
  split
  · exact ⟨_, _, rfl⟩
  rename_i supported
  have reads : (call (inSession around.lookup (SqliteDocumentRepositoryImpl.findByHash
      service.text scan (service.sha1 fileData))) state.documents).2 = state.documents :=
    call_inSession_reads (findByHash_reads scan _ _)
  rw [call_bind, call_onDocuments, reads]
  rcases looked : (call (inSession around.lookup (SqliteDocumentRepositoryImpl.findByHash
    service.text scan (service.sha1 fileData))) state.documents).1 with exc | found
  · exact ⟨exc, _, rfl⟩
  have refused : ¬ ((∃ path, FilePath.of (nameOf filePath) = .ok path) ∧
      service.workspaceId ≠ "") := by
    rintro ⟨name, workspace⟩
    have format := Option.isNone_eq_false_iff.mp (Bool.eq_false_iff.mpr supported)
    exact stops ⟨started, format, ⟨found, looked⟩, name, workspace⟩
  obtain ⟨exc, raised⟩ := newDocument_refused made title fileData refused found.isSome
  rw [andThen_ok, call_bind, call_check, raised]
  exact ⟨exc, _, rfl⟩

section Store

variable {doc : Document service.text} {isDuplicate : Bool} {told : β}

theorem call_store_broken {broken : Breakdown} (fails : around.host = some broken) :
    call (service.store around filePath fileData doc isDuplicate) ⟨state, told⟩ =
      (.error broken.raised, ⟨{ state with tree := broken.left }, told⟩) := by
  unfold store
  rw [call_bind, call_onFiles, fails]
  rfl

theorem call_store_refused (same : doc.id = made.id) (runs : around.host = none)
    (refused : ¬ service.storage.Takes (service.originalUri made filePath) state.tree) :
    ∃ exc, call (service.store around filePath fileData doc isDuplicate) ⟨state, told⟩ =
      (.error exc, ⟨state, told⟩) := by
  obtain ⟨exc, ended⟩ := StorageManager.call_save_refused refused fileData
  refine ⟨exc, ?_⟩
  unfold store
  rw [call_bind, call_onFiles, runs, same, onHost_none, ← originalUri, ended]
  rfl

/-- The file is stored before the document is refused. -/
theorem call_store_unfiled (same : doc.id = made.id) {path : HostPath}
    (denoted : service.storage.Denotes (service.originalUri made filePath) path)
    (writable : Writable state.tree path) (runs : around.host = none)
    (refused : ¬ Inserts around made state) :
    ∃ exc, call (service.store around filePath fileData doc isDuplicate) ⟨state, told⟩ =
      (.error exc, ⟨{ state with tree := wrote state.tree path fileData }, told⟩) := by
  have saved := StorageManager.call_save_takes denoted writable fileData
  unfold store
  rw [call_bind, call_onFiles, runs, same, onHost_none, ← originalUri, saved, andThen_ok,
    call_bind, call_onDocuments]
  cases failure : around.insertion with
  | some exc => exact ⟨exc, rfl⟩
  | none =>
      have taken : state.documents.contains doc.id = true := by
        rw [same]
        by_contra free
        exact refused ⟨failure, Bool.eq_false_iff.mpr free⟩
      simp only [inSession_none, SqliteDocumentRepositoryImpl.create, call_bind, call_get,
        andThen_ok, taken, if_true]
      exact ⟨_, rfl⟩

/-- Once both are stored, the events decide. -/
theorem call_store_filed (told : β) (same : doc.id = made.id) {path : HostPath}
    (denoted : service.storage.Denotes (service.originalUri made filePath) path)
    (writable : Writable state.tree path) (runs : around.host = none)
    (inserts : Inserts around made state)
    (sameType : doc.mimeType =
      (mimeMap.lookup (service.extOf filePath)).getD "application/octet-stream") :
    ∃ after, call (service.store around filePath fileData doc
        (hit scan (service.sha1 fileData) state.documents).isSome) ⟨state, told⟩ =
      (((call (service.announce around scan made filePath fileData state) told).1.map
          (fun _ => doc)),
        ⟨⟨state.documents.put (rowOf doc), wrote state.tree path fileData⟩, after⟩) := by
  have saved := StorageManager.call_save_takes denoted writable fileData
  have free : state.documents.contains doc.id = false := by
    rw [same]
    exact inserts.2
  have created : call (inSession around.insertion (SqliteDocumentRepositoryImpl.create doc))
      state.documents = (.ok doc, state.documents.put (rowOf doc)) := by
    rw [inserts.1]
    simp [SqliteDocumentRepositoryImpl.create, free]
  unfold store announce
  rw [call_bind, call_onFiles, runs, same, onHost_none, ← originalUri, saved, andThen_ok,
    call_bind, call_onDocuments, created, andThen_ok, call_bind, call_onBus, sameType, call_bind]
  rcases first : call (around.publish (service.documentImported made.id filePath
    (service.sha1 fileData))) told with ⟨exc | _, next⟩
  · exact ⟨_, rfl⟩
  · rw [andThen_ok, andThen_ok, call_bind, call_onBus]
    rcases call (around.publish _) next with ⟨exc | _, last⟩
    · exact ⟨_, rfl⟩
    · exact ⟨_, rfl⟩

end Store

variable (service around scan made filePath fileData state bus)

/-- An import that raises leaves the files and the documents as they were. -/
def Atomic : Prop :=
  ∀ exc, (call (service.importFileAmid around scan made filePath fileData title)
      ⟨state, bus⟩).1 = .error exc →
    (call (service.importFileAmid around scan made filePath fileData title)
      ⟨state, bus⟩).2.service = state

variable {service around scan made filePath fileData state bus}

/-- Where the import ends with a raise, it is atomic exactly if nothing is changed. -/
theorem atomic_iff_of_raised {exc : PyExc} {last : Served β}
    (ended : call (service.importFileAmid around scan made filePath fileData title) ⟨state, bus⟩ =
      (.error exc, last)) :
    service.Atomic around scan made filePath fileData title state bus ↔ last.service = state := by
  unfold Atomic
  rw [ended]
  exact ⟨fun atomic => atomic exc rfl, fun same _ _ => same⟩

/-- With nothing failing, this is about the service's own import. -/
theorem importFile_kept_iff (wired : Wired ImportState) :
    (∀ exc, (call (service.importFile scan made filePath fileData title) wired).1 = .error exc →
      (call (service.importFile scan made filePath fileData title) wired).2.service =
        wired.service) ↔
      service.Atomic undisturbed scan made filePath fileData title wired.service wired.bus := by
  have seen := service.importFile_mirrors scan made filePath fileData title wired
  rw [served] at seen
  unfold Atomic
  rw [seen]
  rfl

/-- A document that is stored changes the table. -/
theorem put_rowOf_ne {text : TextMethods} {table : DocumentTable} {doc : Document text}
    (free : table.contains doc.id = false) : table.put (rowOf doc) ≠ table := by
  intro same
  have stored : (table.put (rowOf doc)).find? doc.id = some (rowOf doc) :=
    table.find?_put_self (rowOf doc)
  rw [same] at stored
  rw [Keyed.contains, stored] at free
  cases free

theorem changed_tree_iff (state : ImportState) (tree : HostTree) :
    ({ state with tree := tree } : ImportState) = state ↔ tree = state.tree := by
  constructor
  · exact congrArg ImportState.tree
  · intro kept
    rw [kept]

section Conditions

theorem unbroken (runs : around.host = none) (broken : Breakdown)
    (fails : around.host = some broken) : broken.left = state.tree := by
  rw [runs] at fails
  cases fails

theorem harmless_broken_iff {broken : Breakdown} (fails : around.host = some broken) :
    service.Harmless around scan made filePath fileData state bus ↔ broken.left = state.tree := by
  have unsaved : ¬ service.Saves around made filePath state := by
    rintro ⟨runs, -⟩
    rw [fails] at runs
    cases runs
  constructor
  · intro harmless
    exact harmless.broken broken fails
  · intro left
    refine ⟨fun other found => ?_, fun saves => absurd saves unsaved,
      fun saves => absurd saves unsaved⟩
    rw [← Option.some.inj (fails.symm.trans found)]
    exact left

theorem harmless_refused (runs : around.host = none)
    (unsaved : ¬ service.Saves around made filePath state) :
    service.Harmless around scan made filePath fileData state bus :=
  ⟨unbroken runs, fun saves => absurd saves unsaved, fun saves => absurd saves unsaved⟩

theorem harmless_unfiled_iff (saves : service.Saves around made filePath state)
    (refused : ¬ Inserts around made state) :
    service.Harmless around scan made filePath fileData state bus ↔
      service.storage.Holds (service.originalUri made filePath) fileData state.tree := by
  constructor
  · intro harmless
    exact harmless.refused saves refused
  · intro holds
    exact ⟨unbroken saves.1, fun _ _ => holds, fun _ inserts => absurd inserts refused⟩

theorem harmless_filed_iff (saves : service.Saves around made filePath state)
    (inserts : Inserts around made state) :
    service.Harmless around scan made filePath fileData state bus ↔
      (call (service.announce around scan made filePath fileData state)
        (service.afterStart around filePath bus)).1 = .ok () := by
  constructor
  · intro harmless
    exact harmless.announced saves inserts
  · intro announced
    exact ⟨unbroken saves.1, fun _ refused => absurd inserts refused, fun _ _ => announced⟩

end Conditions

section Cases

variable (proceeds : service.Proceeds around scan filePath fileData state bus)

include proceeds

theorem atomic_broken_iff {broken : Breakdown} (fails : around.host = some broken) :
    service.Atomic around scan made filePath fileData title state bus ↔
      broken.left = state.tree := by
  obtain ⟨doc, -, -, reaches⟩ := importFileAmid_proceeds title made proceeds
  refine (atomic_iff_of_raised title (reaches.trans (call_store_broken fails))).trans ?_
  exact changed_tree_iff state broken.left

theorem atomic_refused (runs : around.host = none)
    (refused : ¬ service.storage.Takes (service.originalUri made filePath) state.tree) :
    service.Atomic around scan made filePath fileData title state bus := by
  obtain ⟨doc, same, -, reaches⟩ := importFileAmid_proceeds title made proceeds
  obtain ⟨exc, ended⟩ := call_store_refused same runs refused
  exact (atomic_iff_of_raised title (reaches.trans ended)).mpr rfl

theorem atomic_unfiled_iff (saves : service.Saves around made filePath state)
    (refused : ¬ Inserts around made state) :
    service.Atomic around scan made filePath fileData title state bus ↔
      service.storage.Holds (service.originalUri made filePath) fileData state.tree := by
  obtain ⟨doc, same, -, reaches⟩ := importFileAmid_proceeds title made proceeds
  obtain ⟨runs, path, denoted, writable⟩ := saves
  obtain ⟨exc, ended⟩ := call_store_unfiled same denoted writable runs refused
  refine (atomic_iff_of_raised title (reaches.trans ended)).trans ?_
  exact (changed_tree_iff state _).trans
    ((wrote_eq_iff writable).trans (StorageManager.holds_iff denoted).symm)

theorem atomic_filed_iff (saves : service.Saves around made filePath state)
    (inserts : Inserts around made state) :
    service.Atomic around scan made filePath fileData title state bus ↔
      (call (service.announce around scan made filePath fileData state)
        (service.afterStart around filePath bus)).1 = .ok () := by
  obtain ⟨doc, same, sameType, reaches⟩ := importFileAmid_proceeds title made proceeds
  obtain ⟨runs, path, denoted, writable⟩ := saves
  obtain ⟨after, ended⟩ := call_store_filed (service.afterStart around filePath bus) same
    denoted writable runs inserts sameType
  rw [ended] at reaches
  rcases told : (call (service.announce around scan made filePath fileData state)
    (service.afterStart around filePath bus)).1 with exc | _
  · rw [told] at reaches
    refine (atomic_iff_of_raised title reaches).trans ?_
    refine iff_of_false (fun kept => ?_) nofun
    exact put_rowOf_ne (same ▸ inserts.2) (congrArg ImportState.documents kept)
  · rw [told] at reaches
    refine iff_of_true (fun exc raised => ?_) rfl
    rw [reaches] at raised
    cases raised

theorem atomic_iff_harmless :
    service.Atomic around scan made filePath fileData title state bus ↔
      service.Harmless around scan made filePath fileData state bus := by
  rcases Option.eq_none_or_eq_some around.host with runs | ⟨broken, fails⟩
  · by_cases takes : service.storage.Takes (service.originalUri made filePath) state.tree
    · have saves : service.Saves around made filePath state := ⟨runs, takes⟩
      by_cases inserts : Inserts around made state
      · rw [atomic_filed_iff title proceeds saves inserts, harmless_filed_iff saves inserts]
      · rw [atomic_unfiled_iff title proceeds saves inserts, harmless_unfiled_iff saves inserts]
    · have unsaved : ¬ service.Saves around made filePath state := fun saves => takes saves.2
      exact iff_of_true (atomic_refused title proceeds runs takes) (harmless_refused runs unsaved)
  · rw [atomic_broken_iff title proceeds fails, harmless_broken_iff fails]

end Cases

/-- An import is atomic exactly where nothing goes wrong once something has been stored. -/
theorem import_atomic_iff (service : ImportService) (around : Surroundings β)
    (scan : Arrangement DocumentRow) (made : Made) (filePath : String) (fileData : Bytes)
    (title : String) (state : ImportState) (bus : β) :
    service.Atomic around scan made filePath fileData title state bus ↔
      (service.Proceeds around scan filePath fileData state bus →
        service.Harmless around scan made filePath fileData state bus) := by
  by_cases proceeds : service.Proceeds around scan filePath fileData state bus
  · refine (atomic_iff_harmless title proceeds).trans ?_
    exact ⟨fun harmless _ => harmless, fun harmless => harmless proceeds⟩
  · obtain ⟨exc, after, ended⟩ := importFileAmid_stops title made proceeds
    refine (atomic_iff_of_raised title ended).trans ?_
    exact iff_of_true rfl (fun reached => absurd reached proceeds)

/-- A database that is locked when the document is inserted, and no bus. -/
def lockedAtInsertion : Surroundings Unit where
  publish _ := pure ()
  lookup := none
  host := none
  insertion := some (.callable "database is locked")

/-- The file of a document that is refused stays. -/
theorem orphan_left :
    ¬ ∀ (service : ImportService) (around : Surroundings Unit) (scan : Arrangement DocumentRow)
        (made : Made) (filePath : String) (fileData : Bytes) (title : String)
        (state : ImportState) (bus : Unit),
      service.Atomic around scan made filePath fileData title state bus := by
  intro law
  have proceeds : desk.Proceeds lockedAtInsertion .asStored "in/notes.txt" [1]
      ⟨Keyed.empty, FileTree.empty.makeDirs ["data".toList]⟩ () :=
    ⟨rfl, by decide, ⟨none, rfl⟩, ⟨_, rfl⟩, by decide⟩
  have denoted : desk.storage.Denotes (desk.originalUri ⟨"d2", 1, 1⟩ "in/notes.txt")
      ["data".toList, "originals".toList, "d2".toList, "notes.txt".toList] :=
    ⟨"originals/d2/notes.txt".toList, by decide, by decide⟩
  have writable : Writable (FileTree.empty.makeDirs ["data".toList] : HostTree)
      ["data".toList, "originals".toList, "d2".toList, "notes.txt".toList] :=
    ⟨by decide, by decide⟩
  have kept := law desk lockedAtInsertion .asStored ⟨"d2", 1, 1⟩ "in/notes.txt" [1] ""
    ⟨Keyed.empty, FileTree.empty.makeDirs ["data".toList]⟩ ()
  have held := (atomic_unfiled_iff "" proceeds ⟨rfl, _, denoted, writable⟩
    (fun inserts => nomatch inserts.1)).mp kept
  rw [StorageManager.holds_iff denoted] at held
  exact absurd held (by decide)

end Atomicity

end ImportService

end LexMind.Ingestion
