import LexMind.Documents.DocumentAggregate

set_option autoImplicit false

/- The versions of a document aggregate, against its counter and the imports that have returned. -/
namespace LexMind.Documents

open Lib DocumentAggregate

section Contracts

variable {text : TextMethods}

/-- An aggregate with what the imports that returned were given. -/
structure Traced (text : TextMethods) where
  aggregate : DocumentAggregate text
  imports : List (FilePath × FileHash)

/-- What an import that returned was given. -/
def AggregateCall.imported {α : Type} : AggregateCall text → Except PyExc α → List (FilePath × FileHash)
  | .importDocument filePath fileHash _ _ _, .ok _ => [(filePath, fileHash)]
  | _, _ => []

def tracedStep (traced : Traced text) (aggregateCall : AggregateCall text) :
    Except PyExc (Option DocumentVersion) × Traced text :=
  let after := aggregateStep traced.aggregate aggregateCall
  (after.1, ⟨after.2, traced.imports ++ aggregateCall.imported after.1⟩)

/-- The numbers are 1 to n, the counter is n, and the first version is that of the only import. -/
structure Recorded (traced : Traced text) : Prop where
  numbers : traced.aggregate.versions.map DocumentVersion.versionNumber =
    List.range' 1 traced.aggregate.versions.length
  counted : traced.aggregate.document.versionCount = traced.aggregate.versions.length
  first : traced.imports =
    (traced.aggregate.versions.take 1).map fun version => (version.filePath, version.fileHash)

/-- Before an import has returned, a version is refused and nothing changes. -/
def RefusesUnimported (traced : Traced text) : AggregateCall text → Prop
  | .addVersion filePath fileHash comment createdBy now =>
      traced.imports = [] → ∃ exc,
        tracedStep traced (.addVersion filePath fileHash comment createdBy now) = (.error exc, traced)
  | _ => True

/-- A version is added to a draft, which refuses it, or after an import; and a document that takes
an import has an id. -/
def Fits (traced : Traced text) : AggregateCall text → Prop
  | .importDocument _ _ _ _ _ =>
      (traced.aggregate.document.status ≠ .draft ∧
        traced.aggregate.document.status ≠ .pendingImport) ∨ traced.aggregate.document.id ≠ ""
  | .addVersion _ _ _ _ _ => traced.aggregate.document.status = .draft ∨ traced.imports ≠ []
  | _ => True

end Contracts

section Steps

variable {text : TextMethods} {filePath : FilePath} {fileHash : FileHash}
  {comment createdBy mimeType : String} {language : Option (Language text)} {now : Timestamp}
  {aggregate : DocumentAggregate text}

theorem versionOf_ok {documentId : String} (named : documentId ≠ "") (count : Nat) :
    ∃ version, DocumentVersion.of documentId (count + 1) filePath fileHash comment createdBy =
        .ok version ∧ version.versionNumber = count + 1 ∧ version.filePath = filePath ∧
      version.fileHash = fileHash := by
  rw [DocumentVersion.of, dif_neg named, dif_neg (Nat.not_lt.mpr (Nat.succ_pos count))]
  exact ⟨_, rfl, rfl, rfl, rfl⟩

theorem versionOf_unnamed (count : Nat) :
    DocumentVersion.of "" count filePath fileHash comment createdBy =
      .error (.invariantViolation "DocumentVersion must reference a document") :=
  dif_pos rfl

/-- A document with an id gets its next version. -/
theorem call_appendVersion (named : aggregate.document.id ≠ "") :
    ∃ version, call (appendVersion filePath fileHash comment createdBy now) aggregate =
        (.ok version, ⟨aggregate.document.incrementVersion now, aggregate.versions ++ [version]⟩) ∧
      version.versionNumber = aggregate.document.versionCount + 1 ∧ version.filePath = filePath ∧
      version.fileHash = fileHash := by
  obtain ⟨version, made, facts⟩ := @versionOf_ok filePath fileHash comment createdBy _ named
    aggregate.document.versionCount
  refine ⟨version, ?_, facts⟩
  have made' : DocumentVersion.of (aggregate.document.incrementVersion now).id
      (aggregate.document.incrementVersion now).versionCount filePath fileHash comment createdBy =
        .ok version := made
  simp [appendVersion, onDocument, made']

/-- One without an id does not, though its counter has moved. -/
theorem call_appendVersion_unnamed (unnamed : aggregate.document.id = "") :
    ∃ exc, call (appendVersion filePath fileHash comment createdBy now) aggregate =
      (.error exc, ⟨aggregate.document.incrementVersion now, aggregate.versions⟩) := by
  have refused : DocumentVersion.of (aggregate.document.incrementVersion now).id
      (aggregate.document.incrementVersion now).versionCount filePath fileHash comment createdBy =
        .error (.invariantViolation "DocumentVersion must reference a document") := by
    have same : (aggregate.document.incrementVersion now).id = "" := unnamed
    rw [same]
    exact versionOf_unnamed _
  simp [appendVersion, onDocument, refused]

theorem call_importDocument_refused (status : aggregate.document.status ≠ .draft ∧
      aggregate.document.status ≠ .pendingImport) :
    ∃ exc, call (importDocument filePath fileHash mimeType language now) aggregate =
      (.error exc, aggregate) := by
  simp [importDocument, status]

/-- What an import does before it adds the first version. -/
def withImport (aggregate : DocumentAggregate text) (filePath : FilePath) (fileHash : FileHash)
    (mimeType : String) (language : Option (Language text)) (now : Timestamp) :
    DocumentAggregate text :=
  ⟨(aggregate.document.withFile filePath fileHash mimeType language).markImported now,
    aggregate.versions⟩

theorem call_importDocument (status : ¬ (aggregate.document.status ≠ .draft ∧
      aggregate.document.status ≠ .pendingImport)) :
    call (importDocument filePath fileHash mimeType language now) aggregate =
      andThen (call (appendVersion filePath fileHash "Initial import" "" now)
        (withImport aggregate filePath fileHash mimeType language now)) (fun _ => pure ()) := by
  simp only [importDocument, call_bind, call_get, andThen_ok, if_neg status, onDocument, call_modify]
  rfl

theorem call_addVersion_draft (draft : aggregate.document.status = .draft) :
    ∃ exc, call (addVersion filePath fileHash comment createdBy now) aggregate =
      (.error exc, aggregate) := by
  simp [addVersion, draft]

theorem call_addVersion (undrafted : aggregate.document.status ≠ .draft) :
    call (addVersion filePath fileHash comment createdBy now) aggregate =
      call (appendVersion filePath fileHash comment createdBy now) aggregate := by
  simp [addVersion, undrafted]

end Steps

section Histories

variable {text : TextMethods} {traced : Traced text}

/-- A document that has been imported has an id, and takes no further import. -/
def Sound (traced : Traced text) : Prop :=
  traced.imports ≠ [] → traced.aggregate.document.id ≠ "" ∧
    traced.aggregate.document.status ≠ .draft ∧ traced.aggregate.document.status ≠ .pendingImport

/-- A step that changes the status alone. -/
theorem Recorded.restatus (recorded : Recorded traced) {document : Document text}
    (same : document.versionCount = traced.aggregate.document.versionCount) :
    Recorded ⟨⟨document, traced.aggregate.versions⟩, traced.imports ++ []⟩ := by
  refine ⟨recorded.numbers, same.trans recorded.counted, ?_⟩
  rw [List.append_nil]
  exact recorded.first

/-- The counter of a history that has none of its versions says that something is missing. -/
theorem not_recorded_ahead {document : Document text} {imports : List (FilePath × FileHash)}
    (recorded : Recorded traced) (now : Timestamp)
    (same : document.versionCount = traced.aggregate.document.versionCount) :
    ¬ Recorded ⟨⟨document.incrementVersion now, traced.aggregate.versions⟩, imports⟩ := by
  intro ahead
  have counted : document.versionCount + 1 = traced.aggregate.versions.length := ahead.counted
  have before := recorded.counted
  omega

/-- One more version. -/
theorem Recorded.append (recorded : Recorded traced) {document : Document text}
    {version : DocumentVersion} {imports : List (FilePath × FileHash)} (now : Timestamp)
    (same : document.versionCount = traced.aggregate.document.versionCount)
    (number : version.versionNumber = traced.aggregate.document.versionCount + 1)
    (first : imports = ((traced.aggregate.versions ++ [version]).take 1).map
      fun version => (version.filePath, version.fileHash)) :
    Recorded ⟨⟨document.incrementVersion now, traced.aggregate.versions ++ [version]⟩, imports⟩ := by
  have counted := recorded.counted
  refine ⟨?_, ?_, first⟩
  · rw [List.map_append, recorded.numbers, List.length_append, List.length_singleton,
      List.range'_concat, List.map_singleton, number, counted]
    simp [Nat.add_comm]
  · change document.versionCount + 1 = (traced.aggregate.versions ++ [version]).length
    rw [same, counted, List.length_append, List.length_singleton]

theorem Recorded.unimported (recorded : Recorded traced) (none : traced.imports = []) :
    traced.aggregate.versions = [] := by
  have first := recorded.first
  rw [none] at first
  cases versions : traced.aggregate.versions with
  | nil => rfl
  | cons version rest =>
      rw [versions] at first
      cases first

theorem Recorded.imported (recorded : Recorded traced) (some : traced.imports ≠ []) :
    traced.aggregate.versions ≠ [] := by
  intro none
  apply some
  rw [recorded.first, none]
  rfl

theorem imported_error {α : Type} (aggregateCall : AggregateCall text) (exc : PyExc) :
    aggregateCall.imported (.error exc : Except PyExc α) = [] := by
  cases aggregateCall <;> rfl

/-- What an import can do: refuse the document as it is, stop after the counter has moved, or add
the first version. -/
theorem import_cases (traced : Traced text) (filePath : FilePath) (fileHash : FileHash)
    (mimeType : String) (language : Option (Language text)) (now : Timestamp) :
    let before := traced.aggregate.document
    let after := tracedStep traced (.importDocument filePath fileHash mimeType language now)
    let document := (withImport traced.aggregate filePath fileHash mimeType language now).document
    (before.status ≠ .draft ∧ before.status ≠ .pendingImport) ∧ after.2 = traced ∨
    ¬ (before.status ≠ .draft ∧ before.status ≠ .pendingImport) ∧ before.id = "" ∧
      after.2 = ⟨⟨document.incrementVersion now, traced.aggregate.versions⟩, traced.imports⟩ ∨
    ¬ (before.status ≠ .draft ∧ before.status ≠ .pendingImport) ∧ before.id ≠ "" ∧
      ∃ version, after.2 = ⟨⟨document.incrementVersion now, traced.aggregate.versions ++ [version]⟩,
          traced.imports ++ [(filePath, fileHash)]⟩ ∧
        version.versionNumber = before.versionCount + 1 ∧ version.filePath = filePath ∧
        version.fileHash = fileHash := by
  intro before after document
  have step : after = tracedStep traced (.importDocument filePath fileHash mimeType language now) := rfl
  simp only [tracedStep, aggregateStep, AggregateCall.program, call_map] at step
  by_cases status : before.status ≠ .draft ∧ before.status ≠ .pendingImport
  · obtain ⟨exc, refused⟩ := @call_importDocument_refused _ filePath fileHash mimeType language now
      traced.aggregate status
    refine .inl ⟨status, ?_⟩
    rw [step, refused, map_error, imported_error, List.append_nil]
  · right
    rw [@call_importDocument _ filePath fileHash mimeType language now _ status] at step
    by_cases unnamed : before.id = ""
    · obtain ⟨exc, refused⟩ := @call_appendVersion_unnamed _ filePath fileHash "Initial import" "" now
        (withImport traced.aggregate filePath fileHash mimeType language now) unnamed
      refine .inl ⟨status, unnamed, ?_⟩
      rw [step, refused, andThen_error, map_error, imported_error, List.append_nil]
      rfl
    · obtain ⟨version, added, facts⟩ := @call_appendVersion _ filePath fileHash "Initial import" ""
        now (withImport traced.aggregate filePath fileHash mimeType language now) unnamed
      refine .inr ⟨status, unnamed, version, ?_, facts⟩
      rw [step, added, andThen_ok, call_pure, map_ok, AggregateCall.imported]
      rfl

theorem Sound.unimported (sound : Sound traced)
    (status : ¬ (traced.aggregate.document.status ≠ .draft ∧
      traced.aggregate.document.status ≠ .pendingImport)) : traced.imports = [] := by
  by_contra some
  exact status (sound some).2

/-- An import that takes place is the first, and needs an id. -/
theorem import_decides (sound : Sound traced) (recorded : Recorded traced) (filePath : FilePath)
    (fileHash : FileHash) (mimeType : String) (language : Option (Language text)) (now : Timestamp) :
    Recorded (tracedStep traced (.importDocument filePath fileHash mimeType language now)).2 ↔
      Fits traced (.importDocument filePath fileHash mimeType language now) := by
  rcases import_cases traced filePath fileHash mimeType language now with
    ⟨status, same⟩ | ⟨status, unnamed, moved⟩ | ⟨status, named, version, added, number, file, hash⟩
  · rw [same]
    exact iff_of_true recorded (.inl status)
  · rw [moved]
    exact iff_of_false (not_recorded_ahead recorded now rfl) fun fits =>
      fits.elim status fun named => named unnamed
  · have none := sound.unimported status
    rw [added]
    refine iff_of_true (recorded.append now rfl number ?_) (.inr named)
    rw [none, recorded.unimported none, List.nil_append, List.nil_append, List.take_succ_cons,
      List.take_zero, List.map_singleton, file, hash]

theorem tracedStep_addVersion (filePath : FilePath) (fileHash : FileHash) (comment createdBy : String)
    (now : Timestamp) :
    tracedStep traced (.addVersion filePath fileHash comment createdBy now) =
      ((call (addVersion filePath fileHash comment createdBy now) traced.aggregate).1.map some,
        ⟨(call (addVersion filePath fileHash comment createdBy now) traced.aggregate).2,
          traced.imports⟩) := by
  simp [tracedStep, aggregateStep, AggregateCall.program, AggregateCall.imported]

/-- A version is added where an import has returned, or is refused for a draft. -/
theorem version_decides (sound : Sound traced) (recorded : Recorded traced) (filePath : FilePath)
    (fileHash : FileHash) (comment createdBy : String) (now : Timestamp) :
    Recorded (tracedStep traced (.addVersion filePath fileHash comment createdBy now)).2 ∧
        RefusesUnimported traced (.addVersion filePath fileHash comment createdBy now) ↔
      Fits traced (.addVersion filePath fileHash comment createdBy now) := by
  rw [RefusesUnimported, tracedStep_addVersion]
  by_cases draft : traced.aggregate.document.status = .draft
  · obtain ⟨exc, refused⟩ := @call_addVersion_draft _ filePath fileHash comment createdBy now
      traced.aggregate draft
    rw [refused]
    exact iff_of_true ⟨recorded, fun _ => ⟨exc, rfl⟩⟩ (.inl draft)
  · rw [call_addVersion draft]
    by_cases none : traced.imports = []
    · refine iff_of_false ?_ fun fits => fits.elim draft fun some => some none
      rintro ⟨_, refuses⟩
      obtain ⟨exc, unchanged⟩ := refuses none
      by_cases unnamed : traced.aggregate.document.id = ""
      · obtain ⟨exc', refused⟩ := @call_appendVersion_unnamed _ filePath fileHash comment createdBy
          now traced.aggregate unnamed
        rw [refused] at unchanged
        have count := congrArg (fun after : _ × Traced text =>
          after.2.aggregate.document.versionCount) unchanged
        exact Nat.succ_ne_self _ count
      · obtain ⟨version, added, _⟩ := @call_appendVersion _ filePath fileHash comment createdBy now
          traced.aggregate unnamed
        rw [added] at unchanged
        cases congrArg Prod.fst unchanged
    · obtain ⟨version, added, number, file, hash⟩ := @call_appendVersion _ filePath fileHash comment
        createdBy now traced.aggregate (sound none).1
      rw [added]
      refine iff_of_true ⟨recorded.append now rfl number ?_, fun absent => absurd absent none⟩
        (.inr none)
      rw [List.take_append_of_le_length (List.length_pos_iff.mpr (recorded.imported none))]
      exact recorded.first

theorem step_decides (sound : Sound traced) (recorded : Recorded traced)
    (aggregateCall : AggregateCall text) :
    Recorded (tracedStep traced aggregateCall).2 ∧ RefusesUnimported traced aggregateCall ↔
      Fits traced aggregateCall := by
  cases aggregateCall with
  | importDocument filePath fileHash mimeType language now =>
      rw [← import_decides sound recorded]
      exact and_iff_left trivial
  | addVersion filePath fileHash comment createdBy now =>
      exact version_decides sound recorded filePath fileHash comment createdBy now
  | markProcessing now => exact iff_of_true ⟨recorded.restatus rfl, trivial⟩ trivial
  | markProcessed now => exact iff_of_true ⟨recorded.restatus rfl, trivial⟩ trivial
  | markFailed now => exact iff_of_true ⟨recorded.restatus rfl, trivial⟩ trivial

/-- No status that the other steps set takes an import. -/
theorem Sound.restatus (sound : Sound traced) {document : Document text} (status : DocumentStatus)
    (same : document.id = traced.aggregate.document.id ∧ document.status = status)
    (moved : status ≠ .draft ∧ status ≠ .pendingImport) :
    Sound ⟨⟨document, traced.aggregate.versions⟩, traced.imports ++ []⟩ := by
  intro some
  rw [List.append_nil] at some
  obtain ⟨id, rfl⟩ := same
  exact ⟨id ▸ (sound some).1, moved⟩

theorem sound_step (sound : Sound traced) (aggregateCall : AggregateCall text) :
    Sound (tracedStep traced aggregateCall).2 := by
  cases aggregateCall with
  | importDocument filePath fileHash mimeType language now =>
      rcases import_cases traced filePath fileHash mimeType language now with
        ⟨_, same⟩ | ⟨status, _, moved⟩ | ⟨_, named, version, added, _⟩
      · rw [same]
        exact sound
      · rw [moved]
        exact fun some => absurd (sound.unimported status) some
      · rw [added]
        have moved : DocumentStatus.imported ≠ .draft ∧ DocumentStatus.imported ≠ .pendingImport := by
          decide
        exact fun _ => ⟨named, moved⟩
  | addVersion filePath fileHash comment createdBy now =>
      rw [tracedStep_addVersion]
      intro some
      obtain ⟨named, undrafted, last⟩ := sound some
      obtain ⟨version, added, _⟩ := @call_appendVersion _ filePath fileHash comment createdBy now
        traced.aggregate named
      rw [call_addVersion undrafted, added]
      exact ⟨named, undrafted, last⟩
  | markProcessing now => exact sound.restatus .processing ⟨rfl, rfl⟩ (by decide)
  | markProcessed now => exact sound.restatus .processed ⟨rfl, rfl⟩ (by decide)
  | markFailed now => exact sound.restatus .failed ⟨rfl, rfl⟩ (by decide)

end Histories

/-- An aggregate around a document, nothing recorded. -/
def freshAggregate {text : TextMethods} (document : Document text) : Traced text :=
  ⟨⟨document, []⟩, []⟩

/-- In every run on a fresh aggregate, around a draft or any other document, the history is that of
the one import, and versions are refused before it, exactly when the document's counter is 0, it has
an id where an import is taken, and no version is added before an import to what is not a draft. -/
theorem version_history_iff {text : TextMethods} (document : Document text)
    (calls : List (AggregateCall text)) :
    (Throughout tracedStep Recorded (freshAggregate document) calls ∧
        Along tracedStep RefusesUnimported (freshAggregate document) calls) ↔
      document.versionCount = 0 ∧ Along tracedStep Fits (freshAggregate document) calls := by
  have sound : Sound (freshAggregate document) := fun some => absurd rfl some
  by_cases zero : document.versionCount = 0
  · have recorded : Recorded (freshAggregate document) := ⟨rfl, zero, rfl⟩
    rw [and_iff_right zero]
    exact @throughout_and_along_iff _ _ _ tracedStep Fits RefusesUnimported Sound Recorded
      (fun _ made sound _ => sound_step sound made)
      (fun _ made sound recorded => step_decides sound recorded made) _ sound recorded calls
  · refine iff_of_false ?_ fun fits => zero fits.1
    rintro ⟨throughout, _⟩
    have recorded := (throughout_iff _ _ _ _).mp throughout [] List.nil_prefix
    exact zero recorded.counted

/-- A draft that is marked as processing takes a version without an import. -/
theorem version_without_import :
    ¬ ∀ calls, Throughout tracedStep Recorded
          (freshAggregate (Document.fresh asciiText "d" 0 "w" "Test" (by decide))) calls ∧
        Along tracedStep RefusesUnimported
          (freshAggregate (Document.fresh asciiText "d" 0 "w" "Test" (by decide))) calls := by
  intro all
  obtain ⟨_, _, refuses, _⟩ := all [.markProcessing 1, .addVersion ⟨"a.pdf", by decide, by decide, by decide⟩
    ⟨"aaaaaaaaaaaaaaaaaaaaaaaaaaaaaaaaaaaaaaaa", by decide⟩ "" "" 2]
  obtain ⟨exc, refused⟩ := refuses rfl
  cases congrArg Prod.fst refused

end LexMind.Documents
