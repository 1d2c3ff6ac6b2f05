import LexMind.Ocr.ArtifactGenerator
import LexMind.Storage.Confinement
import LexMind.Storage.Isolation

set_option autoImplicit false

/- What one call of `generate` can leave, in the files and in the table. -/
namespace LexMind.Ocr

open Lib Artifacts Storage

section Paths

/-- A name a file can have: not a directory's own name, and no path. -/
def Regular (name : List Char) : Prop := name ≠ [] ∧ name ≠ ['.'] ∧ name ≠ ['.', '.'] ∧ '/' ∉ name

theorem parts_snoc (front : List Char) {name : List Char} (regular : Regular name) :
    PurePath.parts (front ++ '/' :: name) = PurePath.parts front ++ [name] :=
  HostPath.parts_append_name front regular.1 regular.2.1 regular.2.2.2

theorem locate_snoc (root : HostPath) {front name : List Char} (strict : front ≠ [])
    (regular : Regular name) :
    HostPath.locate root (front ++ '/' :: name) = HostPath.locate root front ++ [name] :=
  HostPath.locate_append_name root strict regular.1 regular.2.1 regular.2.2.1 regular.2.2.2

/-- What the folder of a document is called in a URI, with the workspace before it. -/
def folderText (workspaceId documentId : String) : List Char :=
  workspaceId.toList ++ "/artifacts/ocr/".toList ++ documentId.toList

/-- The path of the folder as the storage takes it: what follows the first slash. -/
def folderRel (workspaceId documentId : String) : List Char :=
  ((folderText workspaceId documentId).dropWhile (· ≠ '/')).drop 1

theorem buildUri_toList (workspaceId documentId filename : String) :
    (OCRArtifactGenerator.buildUri workspaceId documentId filename).toList =
      schemePrefix ++ (folderText workspaceId documentId ++ '/' :: filename.toList) := by
  have slash : "/".toList = ['/'] := rfl
  have scheme : "storage://".toList = schemePrefix := rfl
  show ("storage://" ++ workspaceId ++ "/artifacts/ocr/" ++ documentId ++ "/" ++ filename).toList = _
  simp only [folderText, String.toList_append, slash, scheme, List.append_assoc,
    List.cons_append, List.nil_append]

/-- The first slash of a folder's text is not its end. -/
theorem folderText_cut (workspaceId documentId : String) :
    ∃ char rest, rest ≠ [] ∧
      (folderText workspaceId documentId).dropWhile (· ≠ '/') = char :: rest := by
  have middle : "/artifacts/ocr/".toList ++ documentId.toList ≠ [] := by simp
  rw [folderText, List.append_assoc, List.dropWhile_append]
  cases cut : workspaceId.toList.dropWhile (· ≠ '/') with
  | nil => exact ⟨'/', "artifacts/ocr/".toList ++ documentId.toList, by simp, by simp⟩
  | cons char rest =>
      refine ⟨char, rest ++ ("/artifacts/ocr/".toList ++ documentId.toList), ?_, rfl⟩
      exact List.append_ne_nil_of_right_ne_nil rest middle

theorem folderRel_ne_nil (workspaceId documentId : String) :
    folderRel workspaceId documentId ≠ [] := by
  obtain ⟨char, rest, strict, cut⟩ := folderText_cut workspaceId documentId
  rw [folderRel, cut]
  exact strict

theorem extractPath_buildUri {workspaceId documentId filename : String} {rel : List Char}
    (parsed : extractPath (OCRArtifactGenerator.buildUri workspaceId documentId filename) =
      .ok rel) :
    rel = folderRel workspaceId documentId ++ '/' :: filename.toList := by
  obtain ⟨char, rest, -, cut⟩ := folderText_cut workspaceId documentId
  have remainder : (OCRArtifactGenerator.buildUri workspaceId documentId filename).toList.drop
      schemePrefix.length = folderText workspaceId documentId ++ '/' :: filename.toList := by
    rw [buildUri_toList, List.drop_left]
  have tail : ((folderText workspaceId documentId ++ '/' :: filename.toList).dropWhile
      (· ≠ '/')).drop 1 = folderRel workspaceId documentId ++ '/' :: filename.toList := by
    rw [List.dropWhile_append, folderRel, cut]
    rfl
  obtain ⟨uri, found, same⟩ := returned_of_bind parsed
  unfold parseUri at found
  rw [remainder] at found
  dsimp only at found
  rw [tail] at found
  split at found
  · cases found
  · split at found
    · cases found
    · split at found
      · cases found
      · split at found
        · cases found
        · cases found
          exact (Except.ok.inj same).symm

/-- A file of a document is in the document's folder, under its own name. -/
theorem denotes_buildUri {manager : StorageManager} {workspaceId documentId filename : String}
    (regular : Regular filename.toList) {path : HostPath}
    (denoted : manager.Denotes
      (OCRArtifactGenerator.buildUri workspaceId documentId filename) path) :
    path = HostPath.locate manager.provider.root (folderRel workspaceId documentId) ++
      [filename.toList] := by
  obtain ⟨rel, parsed, resolved⟩ := denoted
  rw [extractPath_buildUri parsed] at resolved
  rw [← locate_snoc manager.provider.root (folderRel_ne_nil workspaceId documentId) regular]
  unfold FilesystemStorageProvider.resolve at resolved
  dsimp only at resolved
  split at resolved
  · cases resolved
  · split at resolved
    · exact (Except.ok.inj resolved).symm
    · cases resolved

end Paths

section Saves

variable {tree : HostTree} {path : HostPath} {data : Bytes}

/-- A file is written whole, or what stands at its path stays. -/
theorem writeFile_made (tree : HostTree) (path : HostPath) (data : Bytes) :
    (∃ exc, (call (Host.writeFile path data) (tree.makeDirs path.dropLast)).1 = .error exc ∧
      (call (Host.writeFile path data) (tree.makeDirs path.dropLast)).2.node path =
        tree.node path) ∨
      (call (Host.writeFile path data) (tree.makeDirs path.dropLast)).2.node path =
        some (.file data) := by
  simp only [Host.writeFile, call_bind, call_get, andThen_ok, call_ite, call_throw, call_set]
  split
  · exact .inl ⟨_, rfl, FileTree.makeDirs_dropLast⟩
  · rename_i leaf
    exact .inr (FileTree.putFile_self leaf)

/-- A text that can be encoded is stored at its own path, or the path stays as it was. -/
theorem saveText_cases {manager : StorageManager} {uri text : String} (tree : HostTree)
    (denoted : manager.Denotes uri path) (encoded : manager.codec.encode "utf-8" text = .ok data) :
    (∃ exc, (call (manager.saveText uri text "utf-8") tree).1 = .error exc ∧
      (call (manager.saveText uri text "utf-8") tree).2.node path = tree.node path) ∨
      (call (manager.saveText uri text "utf-8") tree).2.node path = some (.file data) := by
  obtain ⟨rel, parsed, resolved⟩ := denoted
  simp only [StorageManager.saveText, FilesystemStorageProvider.writeText, call_bind, call_check,
    parsed, resolved, encoded, andThen_ok]
  rcases Host.mkdir_cases tree path.dropLast with ⟨exc, ended⟩ | ⟨ended, -⟩
  · rw [ended]
    exact .inl ⟨exc, rfl, rfl⟩
  · rw [ended, andThen_ok]
    exact writeFile_made tree path data

/-- A save that returns has found a path. -/
theorem denotes_of_saved {manager : StorageManager} {uri text : String}
    (saved : (call (manager.saveText uri text "utf-8") tree).1 = .ok ()) :
    ∃ path, manager.Denotes uri path := by
  simp only [StorageManager.saveText, FilesystemStorageProvider.writeText, call_bind,
    call_check] at saved
  cases parsed : extractPath uri with
  | error exc =>
      rw [parsed] at saved
      cases saved
  | ok rel =>
      rw [parsed, andThen_ok, call_bind, call_check] at saved
      cases resolved : manager.provider.resolve rel with
      | error exc =>
          rw [resolved] at saved
          cases saved
      | ok path => exact ⟨path, rel, parsed, resolved⟩

/-- A file that is not the one a text is saved to stays, whatever the save ends with. -/
theorem saveText_keeps_file {manager : StorageManager} {uri text : String}
    (file : tree.node path = some (.file data)) (apart : ∀ target, manager.Denotes uri target →
      target ≠ path) :
    (call (manager.saveText uri text "utf-8") tree).2.node path = some (.file data) := by
  have spared : manager.Spares path tree (.saveText uri text "utf-8") := by
    intro target denoted
    refine ⟨apart target denoted, fun _ => ?_⟩
    rw [file]
    exact Option.some_ne_none _
  exact (manager.storageStep_keeps (.saveText uri text "utf-8") spared).trans file

end Saves

section Registrations

variable {iso : IsoFormat} {table : ArtifactTable}

theorem call_getByUri_cases (written : Written iso table) (scan : Arrangement ArtifactRow)
    (storageUri : String) :
    (call (SqliteArtifactRepositoryImpl.getByUri iso scan storageUri) table = (.ok none, table) ∧
      ∀ row ∈ table.rows, row.storageUri = storageUri →
        SqliteArtifactRepositoryImpl.shown row = false) ∨
      ∃ old, rowOf iso old ∈ table.rows ∧ old.storageUri = storageUri ∧
        call (SqliteArtifactRepositoryImpl.getByUri iso scan storageUri) table =
          (.ok (some old.restored), table) := by
  simp only [SqliteArtifactRepositoryImpl.getByUri, call_bind, call_get, andThen_ok]
  cases found : (scan.arrange table.rows).find?
      (fun row => row.storageUri = storageUri && SqliteArtifactRepositoryImpl.shown row) with
  | none =>
      refine .inl ⟨rfl, fun row inside located => ?_⟩
      have refused := List.find?_eq_none.mp found row ((scan.mem_arrange _ row).mpr inside)
      simpa [located] using refused
  | some row =>
      have inside := (scan.mem_arrange _ row).mp (List.mem_of_find?_eq_some found)
      have matched := List.find?_some found
      rw [Bool.and_eq_true, decide_eq_true_iff] at matched
      obtain ⟨old, rfl⟩ := written row inside
      refine .inr ⟨old, inside, matched.1, ?_⟩
      simp [toDomain_rowOf]

/-- The artifact that a first registration makes. -/
structure FirstOf (registration : Registration) (artifact : Artifact) : Prop where
  located : artifact.storageUri = registration.storageUri
  live : artifact.status = .available
  counted : artifact.currentVersion = 1
  summed : artifact.checksum = registration.checksum
  version : ∃ version, artifact.versions = [version] ∧ version.versionNumber = 1 ∧
    version.checksum = registration.checksum ∧ version.storageUri = registration.storageUri

/-- The artifact that a later registration makes of the one at its URI. -/
structure NextOf (registration : Registration) (old new : Artifact) : Prop where
  same : new.id = old.id
  located : new.storageUri = old.storageUri
  live : new.status = old.status
  counted : new.currentVersion = old.currentVersion + 1
  summed : new.checksum = registration.checksum
  version : ∃ version, new.versions = old.versions ++ [version] ∧
    version.versionNumber = old.currentVersion + 1 ∧ version.checksum = registration.checksum ∧
    version.storageUri = old.storageUri

theorem markAvailable_registered {artifact : Artifact}
    (registered : artifact.status = .registered) (now : Timestamp) :
    artifact.markAvailable now = .ok { artifact with status := .available, updatedAt := now } := by
  have allowed : canTransitionArtifact artifact.status .available = true := by
    rw [registered]
    decide
  exact if_pos allowed

theorem call_createNew_cases (made : Made) (registration : Registration) :
    (∃ exc, call (OCRArtifactRepositoryAdapter.createNew iso made registration) table =
      (.error exc, table)) ∨
      ∃ artifact, table.find? artifact.id = none ∧ FirstOf registration artifact ∧
        call (OCRArtifactRepositoryAdapter.createNew iso made registration) table =
          (.ok artifact, table.put (rowOf iso artifact)) := by
  simp only [OCRArtifactRepositoryAdapter.createNew, OCRArtifactRepositoryAdapter.newArtifact,
    call_bind, call_check]
  split
  · exact .inl ⟨_, rfl⟩
  · split
    · exact .inl ⟨_, rfl⟩
    · rw [andThen_ok, call_bind, call_check, markAvailable_registered rfl, andThen_ok]
      cases found : table.find? made.id with
      | some row => exact .inl ⟨_, call_create_taken found⟩
      | none =>
          refine .inr ⟨_, found, ?_, call_create_fresh found⟩
          exact ⟨rfl, rfl, rfl, rfl, _, rfl, rfl, rfl, rfl⟩

theorem call_versionExisting_cases (made : Made) (registration : Registration) {old : Artifact}
    (stored : rowOf iso old ∈ table.rows) :
    (∃ exc, call (OCRArtifactRepositoryAdapter.versionExisting iso made old.restored
        registration) table = (.error exc, table)) ∨
      ∃ new answer, NextOf registration old new ∧
        call (OCRArtifactRepositoryAdapter.versionExisting iso made old.restored
          registration) table = (.ok answer, table.put (rowOf iso new)) := by
  have found : table.find? old.id = some (rowOf iso old) := table.find?_of_mem stored
  simp only [OCRArtifactRepositoryAdapter.versionExisting, Artifact.createNewVersion, call_bind,
    call_check]
  split
  · exact .inl ⟨_, rfl⟩
  · rw [andThen_ok]
    refine .inr ⟨_, _, ?_, call_update found⟩
    exact ⟨rfl, ite_self _, rfl, rfl, rfl, _, rfl, rfl, rfl, rfl⟩

/-- A registration changes nothing, makes the first version at its URI, or the next one. -/
theorem call_register_cases (written : Written iso table) (made : Made)
    (scan : Arrangement ArtifactRow) (registration : Registration) :
    (∃ exc, call (OCRArtifactRepositoryAdapter.register iso made scan registration) table =
      (.error exc, table)) ∨
      (∃ artifact, (∀ row ∈ table.rows, row.storageUri = registration.storageUri →
          SqliteArtifactRepositoryImpl.shown row = false) ∧
        table.find? artifact.id = none ∧ FirstOf registration artifact ∧
        call (OCRArtifactRepositoryAdapter.register iso made scan registration) table =
          (.ok artifact, table.put (rowOf iso artifact))) ∨
      ∃ old new answer, rowOf iso old ∈ table.rows ∧
        old.storageUri = registration.storageUri ∧ NextOf registration old new ∧
        call (OCRArtifactRepositoryAdapter.register iso made scan registration) table =
          (.ok answer, table.put (rowOf iso new)) := by
  simp only [OCRArtifactRepositoryAdapter.register, call_bind]
  rcases call_getByUri_cases written scan registration.storageUri with
    ⟨none, hidden⟩ | ⟨old, stored, located, some⟩
  · rw [none, andThen_ok]
    rcases call_createNew_cases made registration with failed | ⟨artifact, fresh, first, created⟩
    · exact .inl failed
    · exact .inr (.inl ⟨artifact, hidden, fresh, first, created⟩)
  · rw [some, andThen_ok]
    rcases call_versionExisting_cases made registration stored with
      failed | ⟨new, answer, next, updated⟩
    · exact .inl failed
    · exact .inr (.inr ⟨old, new, answer, stored, located, next, updated⟩)

end Registrations

section Generation

def GenerateCall.textUri (request : GenerateCall) : String :=
  OCRArtifactGenerator.buildUri request.workspaceId request.documentId textFilename

theorem regular_textFilename : Regular textFilename.toList := by
  unfold Regular
  decide

theorem regular_resultFilename : Regular resultFilename.toList := by
  unfold Regular
  decide

theorem regular_metadataFilename : Regular metadataFilename.toList := by
  unfold Regular
  decide

/-- The files that are called as the text files are. -/
def TextFile (tree : HostTree) (path : HostPath) (data : Bytes) : Prop :=
  tree.node path = some (.file data) ∧ path.getLast? = some textFilename.toList

variable (generator : OCRArtifactGenerator) (request : GenerateCall)

/-- Every text file stays, or it is the one of the call and has the call's text. -/
def Saved (before after : HostTree) : Prop :=
  ∀ path data, TextFile before path data → TextFile after path data ∨
    generator.storage.Denotes request.textUri path ∧
      ∃ written, generator.storage.codec.encode "utf-8" request.result.text = .ok written ∧
        TextFile after path written

variable {generator request}

theorem Saved.refl (tree : HostTree) : Saved generator request tree tree :=
  fun _ _ file => .inl file

theorem saved_text {data : Bytes}
    (encoded : generator.storage.codec.encode "utf-8" request.result.text = .ok data)
    (tree : HostTree) :
    Saved generator request tree
      (call (generator.storage.saveText request.textUri request.result.text "utf-8") tree).2 := by
  intro path old file
  by_cases own : generator.storage.Denotes request.textUri path
  · rcases saveText_cases tree own encoded with ⟨exc, -, kept⟩ | written
    · exact .inl ⟨kept.trans file.1, file.2⟩
    · exact .inr ⟨own, data, encoded, written, file.2⟩
  · have apart : ∀ target, generator.storage.Denotes request.textUri target → target ≠ path :=
      fun target denoted same => own (same ▸ denoted)
    exact .inl ⟨saveText_keeps_file file.1 apart, file.2⟩

/-- The other files of a document are none of the text files. -/
theorem textFile_other {tree : HostTree} {path : HostPath} {data : Bytes} {filename : String}
    (regular : Regular filename.toList) (other : filename.toList ≠ textFilename.toList)
    (workspaceId documentId payload : String) (file : TextFile tree path data) :
    TextFile (call (generator.storage.saveText
      (OCRArtifactGenerator.buildUri workspaceId documentId filename) payload "utf-8") tree).2
        path data := by
  refine ⟨saveText_keeps_file file.1 (fun target denoted same => ?_), file.2⟩
  have last := file.2
  rw [← same, denotes_buildUri regular denoted, List.getLast?_concat] at last
  exact other (Option.some.inj last)

theorem Saved.trans {before middle after : HostTree} (saved : Saved generator request before middle)
    (kept : ∀ path data, TextFile middle path data → TextFile after path data) :
    Saved generator request before after := by
  intro path data file
  rcases saved path data file with same | ⟨own, written, encoded, stored⟩
  · exact .inl (kept path data same)
  · exact .inr ⟨own, written, encoded, kept path written stored⟩

/-- What a call that returns has stored, under what it registers. -/
structure Stored (generator : OCRArtifactGenerator) (request : GenerateCall)
    (registration : Registration) (before after : HostTree) : Prop where
  saved : Saved generator request before after
  located : registration.storageUri = request.textUri
  summed : OCRArtifactSerializer.checksum generator.storage.codec request.result.text =
    .ok registration.checksum
  text : ∃ path data, generator.storage.Denotes request.textUri path ∧
    generator.storage.codec.encode "utf-8" request.result.text = .ok data ∧
    TextFile after path data

@[simp] theorem call_save (uri payload : String) (state : OcrState) :
    call (generator.save uri payload) state =
      ((call (generator.storage.saveText uri payload "utf-8") state.tree).1,
        { state with tree := (call (generator.storage.saveText uri payload "utf-8") state.tree).2 }) := by
  rw [OCRArtifactGenerator.save, call_onStorage]

/-- The saves after the first. -/
def saveOthers (generator : OCRArtifactGenerator) (request : GenerateCall)
    (resultPayload metadataPayload : String) : Py OcrState Unit := do
  generator.save
    (OCRArtifactGenerator.buildUri request.workspaceId request.documentId resultFilename)
    resultPayload
  generator.save
    (OCRArtifactGenerator.buildUri request.workspaceId request.documentId metadataFilename)
    metadataPayload

theorem call_saveOthers (generator : OCRArtifactGenerator) (request : GenerateCall)
    (resultPayload metadataPayload : String) (state : OcrState) :
    ∃ answer tree, call (saveOthers generator request resultPayload metadataPayload) state =
        (answer, { state with tree := tree }) ∧
      ∀ path data, TextFile state.tree path data → TextFile tree path data := by
  have first : ∀ path data, TextFile state.tree path data → TextFile (call
      (generator.storage.saveText (OCRArtifactGenerator.buildUri request.workspaceId
        request.documentId resultFilename) resultPayload "utf-8") state.tree).2 path data :=
    fun path data file => textFile_other regular_resultFilename (by decide) request.workspaceId
      request.documentId resultPayload file
  unfold saveOthers
  rw [call_bind, call_save]
  rcases ended : call (generator.storage.saveText
    (OCRArtifactGenerator.buildUri request.workspaceId request.documentId resultFilename)
    resultPayload "utf-8") state.tree with ⟨exc | value, middle⟩
  · rw [ended] at first
    exact ⟨_, _, rfl, first⟩
  · rw [ended] at first
    rw [andThen_ok, call_save]
    refine ⟨_, _, rfl, fun path data file => ?_⟩
    exact textFile_other regular_metadataFilename (by decide) request.workspaceId
      request.documentId metadataPayload (first path data file)

theorem call_saves_cases {data : Bytes}
    (encoded : generator.storage.codec.encode "utf-8" request.result.text = .ok data)
    (resultPayload metadataPayload : String) (state : OcrState) :
    ∃ answer tree, call (generator.save request.textUri request.result.text >>= fun _ =>
        saveOthers generator request resultPayload metadataPayload) state =
        (answer, { state with tree := tree }) ∧ Saved generator request state.tree tree ∧
      (answer = .ok () →
        ∃ path, generator.storage.Denotes request.textUri path ∧ TextFile tree path data) := by
  have saved := saved_text encoded state.tree
  rw [call_bind, call_save]
  rcases first : call (generator.storage.saveText request.textUri request.result.text "utf-8")
    state.tree with ⟨exc | value, middle⟩
  · rw [first] at saved
    exact ⟨_, _, rfl, saved, nofun⟩
  · rw [first] at saved
    have returned : (call (generator.storage.saveText request.textUri request.result.text
        "utf-8") state.tree).1 = .ok () := by
      rw [first]
    obtain ⟨path, denoted⟩ := denotes_of_saved returned
    have named : path.getLast? = some textFilename.toList := by
      rw [denotes_buildUri regular_textFilename denoted, List.getLast?_concat]
    have stored : TextFile middle path data := by
      rcases saveText_cases state.tree denoted encoded with ⟨exc, raised, -⟩ | written
      · rw [first] at raised
        cases raised
      · rw [first] at written
        exact ⟨written, named⟩
    obtain ⟨answer, tree, ended, kept⟩ :=
      call_saveOthers generator request resultPayload metadataPayload { state with tree := middle }
    rw [andThen_ok, ended]
    exact ⟨answer, tree, rfl, saved.trans kept, fun _ => ⟨path, denoted, kept path data stored⟩⟩

/-- The payloads of the other files. -/
def resultPayload (generator : OCRArtifactGenerator) (request : GenerateCall) : String :=
  generator.serializer.serializeResult request.result

def metadataPayload (generator : OCRArtifactGenerator) (request : GenerateCall) : String :=
  generator.serializer.serializeMetadata request.result request.documentId request.generatedAt

/-- The registration of a call, with its checksums. -/
def GenerateCall.registration (request : GenerateCall)
    (textChecksum resultChecksum metadataChecksum : String) : Registration :=
  OCRArtifactGenerator.registrationOf request.workspaceId request.documentId request.textUri
    (OCRArtifactGenerator.buildUri request.workspaceId request.documentId resultFilename)
    (OCRArtifactGenerator.buildUri request.workspaceId request.documentId metadataFilename)
    textChecksum resultChecksum metadataChecksum request.producerModule request.producerVersion

/-- What a call answers with. -/
def GenerateCall.answer (request : GenerateCall)
    (textChecksum resultChecksum metadataChecksum : String) (artifact : Artifact) :
    OCRArtifactSet where
  artifactId := artifact.id
  version := artifact.currentVersion
  textUri := request.textUri
  resultUri := OCRArtifactGenerator.buildUri request.workspaceId request.documentId resultFilename
  metadataUri :=
    OCRArtifactGenerator.buildUri request.workspaceId request.documentId metadataFilename
  textChecksum := textChecksum
  resultChecksum := resultChecksum
  metadataChecksum := metadataChecksum

theorem generate_eq (generator : OCRArtifactGenerator) (request : GenerateCall) :
    generator.generate request = do
      let textChecksum ←
        check (OCRArtifactSerializer.checksum generator.storage.codec request.result.text)
      let resultChecksum ← check (OCRArtifactSerializer.checksum generator.storage.codec
        (resultPayload generator request))
      let metadataChecksum ← check (OCRArtifactSerializer.checksum generator.storage.codec
        (metadataPayload generator request))
      generator.save request.textUri request.result.text >>= fun _ =>
        saveOthers generator request (resultPayload generator request)
          (metadataPayload generator request)
      let artifact ← onRepo (OCRArtifactRepositoryAdapter.register generator.serializer.iso
        request.made request.scan
        (request.registration textChecksum resultChecksum metadataChecksum))
      return request.answer textChecksum resultChecksum metadataChecksum artifact := by
  unfold OCRArtifactGenerator.generate saveOthers
  simp only [bind_assoc]
  rfl

/-- A call leaves the table and raises; or it has stored its text, and made the first version at
its URI or the next one. -/
theorem generate_cases {state : OcrState}
    (written : Written generator.serializer.iso state.artifacts) (request : GenerateCall) :
    (∃ exc tree, Saved generator request state.tree tree ∧
      generator.generateStep state request = (.error exc, { state with tree := tree })) ∨
      ∃ registration tree answer, Stored generator request registration state.tree tree ∧
        ((∃ artifact, (∀ row ∈ state.artifacts.rows, row.storageUri = request.textUri →
            SqliteArtifactRepositoryImpl.shown row = false) ∧
          state.artifacts.find? artifact.id = none ∧ FirstOf registration artifact ∧
          generator.generateStep state request =
            (.ok answer, ⟨state.artifacts.put (rowOf generator.serializer.iso artifact), tree⟩)) ∨
        ∃ old new, rowOf generator.serializer.iso old ∈ state.artifacts.rows ∧
          old.storageUri = request.textUri ∧ NextOf registration old new ∧
          generator.generateStep state request =
            (.ok answer, ⟨state.artifacts.put (rowOf generator.serializer.iso new), tree⟩)) := by
  have unchanged : Saved generator request state.tree state.tree := Saved.refl state.tree
  rw [OCRArtifactGenerator.generateStep, generate_eq]
  rcases check_bind_cases (OCRArtifactSerializer.checksum generator.storage.codec
    request.result.text) _ state with ⟨exc, ended⟩ | ⟨textChecksum, textSum, ended⟩
  · exact .inl ⟨exc, state.tree, unchanged, ended⟩
  rw [ended]
  rcases check_bind_cases (OCRArtifactSerializer.checksum generator.storage.codec
    (resultPayload generator request)) _ state with ⟨exc, ended⟩ | ⟨resultChecksum, -, ended⟩
  · exact .inl ⟨exc, state.tree, unchanged, ended⟩
  rw [ended]
  rcases check_bind_cases (OCRArtifactSerializer.checksum generator.storage.codec
    (metadataPayload generator request)) _ state with ⟨exc, ended⟩ | ⟨metadataChecksum, -, ended⟩
  · exact .inl ⟨exc, state.tree, unchanged, ended⟩
  obtain ⟨data, encoded, -⟩ := returned_of_bind textSum
  obtain ⟨answer, tree, saves, saved, stored⟩ := call_saves_cases encoded
    (resultPayload generator request) (metadataPayload generator request) state
  rw [ended, call_bind, saves]
  cases answer with
  | error exc => exact .inl ⟨exc, tree, saved, rfl⟩
  | ok value =>
      obtain ⟨path, denoted, file⟩ := stored rfl
      have text : Stored generator request
          (request.registration textChecksum resultChecksum metadataChecksum) state.tree tree :=
        ⟨saved, rfl, textSum, path, data, denoted, encoded, file⟩
      rw [andThen_ok, call_bind, call_onRepo]
      rcases call_register_cases written request.made request.scan
          (request.registration textChecksum resultChecksum metadataChecksum) with
        ⟨exc, failed⟩ | ⟨artifact, hidden, fresh, first, created⟩ |
        ⟨old, new, artifact, inside, located, next, updated⟩
      · rw [failed]
        exact .inl ⟨exc, tree, saved, rfl⟩
      · rw [created]
        exact .inr ⟨_, tree, _, text, .inl ⟨artifact, hidden, fresh, first, rfl⟩⟩
      · rw [updated]
        exact .inr ⟨_, tree, _, text, .inr ⟨old, new, inside, located, next, rfl⟩⟩

end Generation

end LexMind.Ocr
