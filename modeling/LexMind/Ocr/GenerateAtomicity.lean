import LexMind.Failures
import LexMind.Ocr.RunHistory
import LexMind.Storage.Saving

set_option autoImplicit false

/- What a call of `generate` that raises leaves of the files of its document. -/
namespace LexMind.Ocr

open Lib Artifacts Storage

/-- What fails in one call: the host, in each of the three saves, or the database, in the
registration. -/
structure GenerateFailures where
  text : Option Breakdown
  result : Option Breakdown
  metadata : Option Breakdown
  registration : Option PyExc

namespace OCRArtifactGenerator

variable (generator : OCRArtifactGenerator)

/-- `_save` on a host that may break it off. -/
def saveAmid (failure : Option Breakdown) (uri payload : String) : Py OcrState Unit :=
  onStorage (onHost failure (generator.storage.saveText uri payload "utf-8"))

/-- One call of `generate` with what fails in it. -/
def generateAmid (failures : GenerateFailures) (request : GenerateCall) :
    Py OcrState OCRArtifactSet := do
  let textUri := buildUri request.workspaceId request.documentId textFilename
  let resultUri := buildUri request.workspaceId request.documentId resultFilename
  let metadataUri := buildUri request.workspaceId request.documentId metadataFilename
  let textPayload := OCRArtifactSerializer.serializeText request.result
  let resultPayload := generator.serializer.serializeResult request.result
  let metadataPayload :=
    generator.serializer.serializeMetadata request.result request.documentId request.generatedAt
  let textChecksum ← check (OCRArtifactSerializer.checksum generator.storage.codec textPayload)
  let resultChecksum ← check (OCRArtifactSerializer.checksum generator.storage.codec resultPayload)
  let metadataChecksum ←
    check (OCRArtifactSerializer.checksum generator.storage.codec metadataPayload)
  generator.saveAmid failures.text textUri textPayload
  generator.saveAmid failures.result resultUri resultPayload
  generator.saveAmid failures.metadata metadataUri metadataPayload
  let artifact ← onRepo (inSession failures.registration
    (OCRArtifactRepositoryAdapter.register generator.serializer.iso request.made request.scan
      (registrationOf request.workspaceId request.documentId textUri resultUri metadataUri
        textChecksum resultChecksum metadataChecksum request.producerModule
        request.producerVersion)))
  return {
    artifactId := artifact.id
    version := artifact.currentVersion
    textUri := textUri
    resultUri := resultUri
    metadataUri := metadataUri
    textChecksum := textChecksum
    resultChecksum := resultChecksum
    metadataChecksum := metadataChecksum }

/-- Where nothing fails, the call is the generator's own. -/
theorem generateAmid_undisturbed (request : GenerateCall) :
    generator.generateAmid ⟨none, none, none, none⟩ request = generator.generate request := rfl

end OCRArtifactGenerator

section Siblings

variable {tree : HostTree} {folder : HostPath} {name other : List Char} {data : Bytes}

/-- A file that is written leaves the other names of its folder alone. -/
theorem wrote_sibling (leaf : tree.node (folder ++ [name]) ≠ some .dir) (differs : name ≠ other) :
    (wrote tree (folder ++ [name]) data).node (folder ++ [other]) = tree.node (folder ++ [other]) := by
  have apart : folder ++ [name] ≠ folder ++ [other] := fun same =>
    differs (List.singleton_inj.mp (List.append_cancel_left same))
  have outside : ¬ folder ++ [other] <+: folder := by
    intro above
    have short := above.length_le
    rw [List.length_append, List.length_singleton] at short
    omega
  have beside : ¬ folder ++ [other] <+: folder ++ [name] := by
    intro above
    rcases List.prefix_concat_iff.mp above with same | within
    · exact apart same.symm
    · exact outside within
  rw [wrote, List.dropLast_concat]
  calc ((tree.makeDirs folder).putFile (folder ++ [name]) data).node (folder ++ [other])
      = (tree.makeDirs folder).node (folder ++ [other]) := by
        apply FileTree.putFile_frame data _ apart (fun above => absurd above beside)
        have kept := @FileTree.makeDirs_dropLast _ _ _ tree (folder ++ [name])
        rw [List.dropLast_concat] at kept
        rwa [kept]
    _ = tree.node (folder ++ [other]) :=
        FileTree.makeDirs_frame (fun above => absurd above outside)

/-- Whether a file can be written does not depend on its siblings that have been. -/
theorem writable_sibling (writable : Writable tree (folder ++ [name])) (differs : name ≠ other) :
    Writable (wrote tree (folder ++ [name]) data) (folder ++ [other]) ↔
      Writable tree (folder ++ [other]) := by
  have same := @wrote_sibling tree folder name other data writable.leaf differs
  have clear := writable.above
  rw [List.dropLast_concat] at clear
  have made : (wrote tree (folder ++ [name]) data).blocked folder = false := by
    apply List.any_eq_false.mpr
    intro front inside
    have above := (List.mem_inits front folder).mp inside
    have directory : (wrote tree (folder ++ [name]) data).node front = some .dir := by
      refine if_pos (.inl ⟨above.trans (List.prefix_append folder [name]), ?_⟩)
      rintro rfl
      have short := above.length_le
      rw [List.length_append, List.length_singleton] at short
      omega
    rw [directory]
    exact Bool.false_ne_true
  constructor
  · intro after
    refine ⟨?_, same ▸ after.leaf⟩
    rwa [List.dropLast_concat]
  · intro before
    refine ⟨?_, same.symm ▸ before.leaf⟩
    rwa [List.dropLast_concat]

end Siblings

section Registration

variable {iso : IsoFormat} {table : ArtifactTable}

theorem toDomain_id {row : ArtifactRow} {artifact : Artifact}
    (decoded : toDomain iso row = .ok artifact) : artifact.id = row.id := by
  obtain ⟨_, -, decoded⟩ := returned_of_bind decoded
  obtain ⟨_, -, decoded⟩ := returned_of_bind decoded
  obtain ⟨_, -, decoded⟩ := returned_of_bind decoded
  obtain ⟨_, -, decoded⟩ := returned_of_bind decoded
  obtain ⟨_, -, decoded⟩ := returned_of_bind decoded
  unfold artifactOf at decoded
  split at decoded
  · cases decoded
  · split at decoded
    · cases decoded
    · cases decoded
      rfl

/-- What a lookup by URI finds in the order of the scan. -/
def located (scan : Arrangement ArtifactRow) (storageUri : String) (table : ArtifactTable) :
    Option ArtifactRow :=
  (scan.arrange table.rows).find?
    (fun row => row.storageUri = storageUri && SqliteArtifactRepositoryImpl.shown row)

/-- The registration is refused: what is found at the URI cannot be read, or takes no version; or
nothing is found, and the new artifact has no id or no workspace, or its id is taken. -/
def Refused (iso : IsoFormat) (made : Made) (scan : Arrangement ArtifactRow)
    (storageUri workspaceId : String) (table : ArtifactTable) : Prop :=
  match located scan storageUri table with
  | some row => ∀ artifact, toDomain iso row = .ok artifact →
      artifact.status = .deleted ∨ artifact.status = .archived
  | none => made.id = "" ∨ workspaceId = "" ∨ table.contains made.id = true

variable {made : Made} {scan : Arrangement ArtifactRow} {registration : Registration}

theorem call_getByUri (storageUri : String) :
    call (SqliteArtifactRepositoryImpl.getByUri iso scan storageUri) table =
      match located scan storageUri table with
      | some row => ((toDomain iso row).map some, table)
      | none => (.ok none, table) := by
  unfold located
  simp only [SqliteArtifactRepositoryImpl.getByUri, call_bind, call_get, andThen_ok]
  cases (scan.arrange table.rows).find?
      (fun row => row.storageUri = storageUri && SqliteArtifactRepositoryImpl.shown row) with
  | none => rfl
  | some row =>
      dsimp only
      rw [call_bind, call_check]
      cases toDomain iso row <;> rfl

/-- A registration that is refused changes nothing. -/
theorem call_register_refused
    (refused : Refused iso made scan registration.storageUri registration.workspaceId table) :
    ∃ exc, call (OCRArtifactRepositoryAdapter.register iso made scan registration) table =
      (.error exc, table) := by
  unfold Refused at refused
  rw [OCRArtifactRepositoryAdapter.register, call_bind, call_getByUri]
  cases found : located scan registration.storageUri table with
  | some row =>
      rw [found] at refused
      dsimp only at refused ⊢
      cases decoded : toDomain iso row with
      | error exc => exact ⟨exc, rfl⟩
      | ok artifact =>
          simp only [map_ok, andThen_ok, OCRArtifactRepositoryAdapter.versionExisting,
            Artifact.createNewVersion, if_pos (refused artifact decoded), call_bind, call_check]
          exact ⟨_, rfl⟩
  | none =>
      rw [found] at refused
      dsimp only at refused ⊢
      simp only [andThen_ok, OCRArtifactRepositoryAdapter.createNew,
        OCRArtifactRepositoryAdapter.newArtifact, call_bind, call_check]
      split
      · exact ⟨_, rfl⟩
      · rename_i identified
        split
        · exact ⟨_, rfl⟩
        · rename_i owned
          have taken := (refused.resolve_left identified).resolve_left owned
          obtain ⟨row, present⟩ := (table.contains_eq_true_iff made.id).mp taken
          rw [andThen_ok, call_bind, call_check, markAvailable_registered rfl, andThen_ok]
          exact ⟨_, call_create_taken present⟩

theorem call_register_accepted
    (accepted : ¬ Refused iso made scan registration.storageUri registration.workspaceId table) :
    ∃ artifact after, call (OCRArtifactRepositoryAdapter.register iso made scan registration)
      table = (.ok artifact, after) := by
  unfold Refused at accepted
  rw [OCRArtifactRepositoryAdapter.register, call_bind, call_getByUri]
  cases found : located scan registration.storageUri table with
  | some row =>
      rw [found] at accepted
      dsimp only at accepted ⊢
      push Not at accepted
      obtain ⟨artifact, decoded, live⟩ := accepted
      have inside : row ∈ table.rows :=
        (scan.mem_arrange table.rows row).mp (List.mem_of_find?_eq_some found)
      have stored : table.find? artifact.id = some row := by
        rw [toDomain_id decoded]
        exact table.find?_of_mem inside
      rw [decoded, map_ok, andThen_ok]
      simp only [OCRArtifactRepositoryAdapter.versionExisting, Artifact.createNewVersion,
        if_neg (not_or.mpr live), call_bind, call_check, andThen_ok]
      exact ⟨_, _, call_update stored⟩
  | none =>
      rw [found] at accepted
      dsimp only at accepted ⊢
      push Not at accepted
      obtain ⟨identified, owned, free⟩ := accepted
      have fresh : table.find? made.id = none := by
        by_contra present
        obtain ⟨row, present⟩ := Option.ne_none_iff_exists'.mp present
        exact free ((table.contains_eq_true_iff made.id).mpr ⟨row, present⟩)
      simp only [andThen_ok, OCRArtifactRepositoryAdapter.createNew,
        OCRArtifactRepositoryAdapter.newArtifact, dif_neg identified, dif_neg owned, call_bind,
        call_check]
      rw [markAvailable_registered rfl, andThen_ok]
      exact ⟨_, _, call_create_fresh fresh⟩

end Registration

section Files

/-- One of the files of a call: its name, its text, and what fails of its save. -/
structure GeneratedFile where
  filename : String
  payload : String
  failure : Option Breakdown

def GenerateCall.uriOf (request : GenerateCall) (filename : String) : String :=
  OCRArtifactGenerator.buildUri request.workspaceId request.documentId filename

variable (generator : OCRArtifactGenerator) (failures : GenerateFailures) (request : GenerateCall)

/-- The files of a call in the order of their saves. -/
def filesOf : List GeneratedFile :=
  [⟨textFilename, request.result.text, failures.text⟩,
    ⟨resultFilename, resultPayload generator request, failures.result⟩,
    ⟨metadataFilename, metadataPayload generator request, failures.metadata⟩]

def saveAll : List GeneratedFile → Py OcrState Unit
  | [] => pure ()
  | file :: rest => do
      generator.saveAmid file.failure (request.uriOf file.filename) file.payload
      saveAll rest

/-- What follows the saves. -/
def finish (textChecksum resultChecksum metadataChecksum : String) :
    Py OcrState OCRArtifactSet := do
  let artifact ← onRepo (inSession failures.registration
    (OCRArtifactRepositoryAdapter.register generator.serializer.iso request.made request.scan
      (request.registration textChecksum resultChecksum metadataChecksum)))
  return request.answer textChecksum resultChecksum metadataChecksum artifact

theorem generateAmid_eq :
    generator.generateAmid failures request = (do
      let textChecksum ←
        check (OCRArtifactSerializer.checksum generator.storage.codec request.result.text)
      let resultChecksum ← check (OCRArtifactSerializer.checksum generator.storage.codec
        (resultPayload generator request))
      let metadataChecksum ← check (OCRArtifactSerializer.checksum generator.storage.codec
        (metadataPayload generator request))
      saveAll generator request (filesOf generator failures request)
      finish generator failures request textChecksum resultChecksum metadataChecksum) := by
  unfold OCRArtifactGenerator.generateAmid filesOf
  simp only [saveAll, bind_assoc, pure_bind]
  rfl

/-- The file is saved where it goes. -/
def Saves (file : GeneratedFile) (tree : HostTree) : Prop :=
  file.failure = none ∧ generator.storage.Takes (request.uriOf file.filename) tree

/-- The file has its text already. -/
def Kept (file : GeneratedFile) (tree : HostTree) : Prop :=
  ∃ data, generator.storage.codec.encode "utf-8" file.payload = .ok data ∧
    generator.storage.Holds (request.uriOf file.filename) data tree

/-- The three files of the document are the same in both trees. -/
def SameFiles (before after : HostTree) : Prop :=
  ∀ filename ∈ [textFilename, resultFilename, metadataFilename], ∀ path,
    generator.storage.Denotes (request.uriOf filename) path → after.node path = before.node path

/-- The text has a digest, and so an encoding. -/
def Summed (file : GeneratedFile) : Prop :=
  ∃ sum, OCRArtifactSerializer.checksum generator.storage.codec file.payload = .ok sum

end Files

section Saves

variable {generator : OCRArtifactGenerator} {request : GenerateCall} {tree now : HostTree}

/-- The files of `done` have been saved, those of `rest` have not. -/
structure Midway (generator : OCRArtifactGenerator) (request : GenerateCall) (tree : HostTree)
    (done rest : List GeneratedFile) (now : HostTree) : Prop where
  written : ∀ file ∈ done, ∃ path data,
    generator.storage.Denotes (request.uriOf file.filename) path ∧
    generator.storage.codec.encode "utf-8" file.payload = .ok data ∧
    now.node path = some (.file data)
  others : ∀ filename : String, Regular filename.toList → filename ∉ done.map (·.filename) →
    ∀ path, generator.storage.Denotes (request.uriOf filename) path → now.node path = tree.node path
  takes : ∀ file ∈ rest, generator.storage.Takes (request.uriOf file.filename) now ↔
    generator.storage.Takes (request.uriOf file.filename) tree

theorem midway_start (files : List GeneratedFile) :
    Midway generator request tree [] files tree where
  written _ inside := absurd inside List.not_mem_nil
  others _ _ _ _ _ := rfl
  takes _ _ := Iff.rfl

/-- The files of a call have names of their own. -/
structure Distinct (files : List GeneratedFile) : Prop where
  regular : ∀ file ∈ files, Regular file.filename.toList
  names : (files.map (·.filename)).Nodup

theorem named_filesOf (generator : OCRArtifactGenerator) (failures : GenerateFailures)
    (request : GenerateCall) {file : GeneratedFile}
    (inside : file ∈ filesOf generator failures request) :
    file.filename ∈ [textFilename, resultFilename, metadataFilename] :=
  List.mem_map_of_mem inside

/-- The three names are names of files. -/
theorem regular_named {filename : String}
    (listed : filename ∈ [textFilename, resultFilename, metadataFilename]) :
    Regular filename.toList := by
  simp only [List.mem_cons, List.not_mem_nil, or_false] at listed
  rcases listed with rfl | rfl | rfl
  · exact regular_textFilename
  · exact regular_resultFilename
  · exact regular_metadataFilename

theorem distinct_filesOf (generator : OCRArtifactGenerator) (failures : GenerateFailures)
    (request : GenerateCall) : Distinct (filesOf generator failures request) := by
  have names : [textFilename, resultFilename, metadataFilename].Nodup := by decide
  exact ⟨fun file inside => regular_named (named_filesOf generator failures request inside), names⟩

/-- Writing one file of a document changes nothing about its other files. -/
theorem wrote_other_file {filename other : String} {path beside : HostPath} {data : Bytes}
    (own : Regular filename.toList) (regular : Regular other.toList) (differs : other ≠ filename)
    (denoted : generator.storage.Denotes (request.uriOf filename) path)
    (denotes : generator.storage.Denotes (request.uriOf other) beside)
    (writable : Writable now path) :
    (wrote now path data).node beside = now.node beside ∧
      (Writable (wrote now path data) beside ↔ Writable now beside) := by
  have apart : filename.toList ≠ other.toList := fun same =>
    differs (String.toList_inj.mp same).symm
  have place := denotes_buildUri own denoted
  rw [denotes_buildUri regular denotes, place]
  rw [place] at writable
  exact ⟨wrote_sibling writable.leaf apart, writable_sibling writable apart⟩

/-- A save that is carried out takes the calls one file further. -/
theorem Midway.step {done rest : List GeneratedFile} {file : GeneratedFile} {path : HostPath}
    {data : Bytes} (midway : Midway generator request tree done (file :: rest) now)
    (distinct : Distinct (done ++ file :: rest))
    (encoded : generator.storage.codec.encode "utf-8" file.payload = .ok data)
    (denoted : generator.storage.Denotes (request.uriOf file.filename) path)
    (writable : Writable now path) :
    Midway generator request tree (done ++ [file]) rest (wrote now path data) := by
  have own : Regular file.filename.toList :=
    distinct.regular file (List.mem_append_right done List.mem_cons_self)
  have sibling {filename : String} (regular : Regular filename.toList)
      (differs : filename ≠ file.filename) {other : HostPath}
      (denotes : generator.storage.Denotes (request.uriOf filename) other) :=
    @wrote_other_file _ _ _ _ _ _ _ data own regular differs denoted denotes writable
  have names := distinct.names
  rw [List.map_append, List.map_cons, List.nodup_append] at names
  constructor
  · intro saved inside
    rcases List.mem_append.mp inside with before | last
    · obtain ⟨other, content, denotes, coded, stands⟩ := midway.written saved before
      have differs : saved.filename ≠ file.filename :=
        names.2.2 _ (List.mem_map_of_mem before) _ List.mem_cons_self
      have regular := distinct.regular saved (List.mem_append_left _ before)
      exact ⟨other, content, denotes, coded,
        (sibling regular differs denotes).1.trans stands⟩
    · rw [List.mem_singleton.mp last]
      exact ⟨path, data, denoted, encoded, wrote_self writable⟩
  · intro filename regular absent other denotes
    rw [List.map_append, List.mem_append, not_or] at absent
    have differs : filename ≠ file.filename := fun same => absent.2 (List.mem_singleton.mpr same)
    exact (sibling regular differs denotes).1.trans
      (midway.others filename regular absent.1 other denotes)
  · intro later inside
    have differs : later.filename ≠ file.filename := by
      intro same
      exact (List.nodup_cons.mp names.2.1).1 (same ▸ List.mem_map_of_mem inside)
    have regular := distinct.regular later
      (List.mem_append_right done (List.mem_cons_of_mem file inside))
    rw [← midway.takes later (List.mem_cons_of_mem file inside)]
    constructor
    · rintro ⟨other, denotes, free⟩
      exact ⟨other, denotes, (sibling regular differs denotes).2.mp free⟩
    · rintro ⟨other, denotes, free⟩
      exact ⟨other, denotes, (sibling regular differs denotes).2.mpr free⟩

/-- The saves so far have changed nothing exactly where each file had its text before. -/
theorem Midway.same_iff {done rest : List GeneratedFile}
    (midway : Midway generator request tree done rest now)
    (named : ∀ file ∈ done, file.filename ∈ [textFilename, resultFilename, metadataFilename]) :
    SameFiles generator request tree now ↔ ∀ file ∈ done, Kept generator request file tree := by
  constructor
  · intro same file inside
    obtain ⟨path, data, denoted, encoded, stands⟩ := midway.written file inside
    refine ⟨data, encoded, (StorageManager.holds_iff denoted).mpr ?_⟩
    rw [← same file.filename (named file inside) path denoted]
    exact stands
  · intro kept filename listed path denoted
    have regular := regular_named listed
    by_cases saved : filename ∈ done.map (·.filename)
    · obtain ⟨file, inside, rfl⟩ := List.mem_map.mp saved
      obtain ⟨other, data, denotes, encoded, stands⟩ := midway.written file inside
      obtain ⟨before, coded, holds⟩ := kept file inside
      cases encoded.symm.trans coded
      rw [denoted.eq denotes, stands]
      exact ((StorageManager.holds_iff denotes).mp holds).symm
    · exact midway.others filename regular saved path denoted

end Saves

section Atomicity

variable (generator : OCRArtifactGenerator) (failures : GenerateFailures) (request : GenerateCall)
  (state : OcrState)

/-- The registration is carried out. -/
def Registers : Prop :=
  failures.registration = none ∧ ¬ Refused generator.serializer.iso request.made request.scan
    request.textUri request.workspaceId state.artifacts

/-- Once the files of `done` are saved, the first step that fails leaves the three files as they
were: a save that breaks off does, and before a save or a registration that is refused the files
saved had their texts already. -/
def HarmlessFrom (done : List GeneratedFile) : List GeneratedFile → Prop
  | [] => ¬ Registers generator failures request state →
      ∀ other ∈ done, Kept generator request other state.tree
  | file :: rest =>
      (∀ broken, file.failure = some broken →
        SameFiles generator request state.tree broken.left) ∧
      (file.failure = none →
        ¬ generator.storage.Takes (request.uriOf file.filename) state.tree →
        ∀ other ∈ done, Kept generator request other state.tree) ∧
      (Saves generator request file state.tree → HarmlessFrom (done ++ [file]) rest)

/-- What a call has left as it was: the artifact rows and the three files of the document. -/
structure Untouched (after : OcrState) : Prop where
  rows : after.artifacts = state.artifacts
  files : SameFiles generator request state.tree after.tree

/-- A program that raises in this tree leaves them as they were. -/
def Keeps (program : Py OcrState OCRArtifactSet) (now : HostTree) : Prop :=
  ∀ exc, (call program ⟨state.artifacts, now⟩).1 = .error exc →
    Untouched generator request state (call program ⟨state.artifacts, now⟩).2

/-- A call that raises leaves them as they were. -/
def Atomic : Prop :=
  Keeps generator request state (generator.generateAmid failures request) state.tree

section Conditions

variable {generator failures request state} {done rest : List GeneratedFile} {file : GeneratedFile}

theorem harmlessFrom_broken_iff {broken : Breakdown} (fails : file.failure = some broken) :
    HarmlessFrom generator failures request state done (file :: rest) ↔
      SameFiles generator request state.tree broken.left := by
  constructor
  · intro harmless
    exact harmless.1 broken fails
  · intro left
    refine ⟨fun other found => ?_, fun runs => ?_, fun saves => ?_⟩
    · rw [← Option.some.inj (fails.symm.trans found)]
      exact left
    · rw [fails] at runs
      cases runs
    · have runs := saves.1
      rw [fails] at runs
      cases runs

theorem unbroken (runs : file.failure = none) (broken : Breakdown)
    (fails : file.failure = some broken) : SameFiles generator request state.tree broken.left := by
  rw [runs] at fails
  cases fails

theorem harmlessFrom_refused_iff (runs : file.failure = none)
    (refused : ¬ generator.storage.Takes (request.uriOf file.filename) state.tree) :
    HarmlessFrom generator failures request state done (file :: rest) ↔
      ∀ other ∈ done, Kept generator request other state.tree := by
  constructor
  · intro harmless
    exact harmless.2.1 runs refused
  · intro kept
    exact ⟨unbroken runs, fun _ _ => kept, fun saves => absurd saves.2 refused⟩

theorem harmlessFrom_saved_iff (saves : Saves generator request file state.tree) :
    HarmlessFrom generator failures request state done (file :: rest) ↔
      HarmlessFrom generator failures request state (done ++ [file]) rest := by
  constructor
  · intro harmless
    exact harmless.2.2 saves
  · intro harmless
    exact ⟨unbroken saves.1, fun _ refused => absurd saves.2 refused, fun _ => harmless⟩

end Conditions

end Atomicity

section Steps

variable {generator : OCRArtifactGenerator} {failures : GenerateFailures} {request : GenerateCall}
  {state : OcrState} {now : HostTree}

/-- Where a program raises, it keeps the files exactly if they are the same in the tree it leaves. -/
theorem keeps_iff_of_raised {program : Py OcrState OCRArtifactSet} {exc : PyExc} {last : HostTree}
    (ended : call program ⟨state.artifacts, now⟩ = (.error exc, ⟨state.artifacts, last⟩)) :
    Keeps generator request state program now ↔ SameFiles generator request state.tree last := by
  unfold Keeps
  rw [ended]
  exact ⟨fun kept => (kept exc rfl).files, fun same _ _ => ⟨rfl, same⟩⟩

section Save

variable {file : GeneratedFile} {next : Py OcrState OCRArtifactSet} {data : Bytes}

theorem keeps_broken_iff {broken : Breakdown} (fails : file.failure = some broken) :
    Keeps generator request state (generator.saveAmid file.failure (request.uriOf file.filename)
      file.payload >>= fun _ => next) now ↔ SameFiles generator request state.tree broken.left := by
  have ended : call (generator.saveAmid file.failure (request.uriOf file.filename) file.payload)
      ⟨state.artifacts, now⟩ = (.error broken.raised, ⟨state.artifacts, broken.left⟩) := by
    rw [OCRArtifactGenerator.saveAmid, call_onStorage, fails]
    rfl
  apply keeps_iff_of_raised
  rw [call_bind, ended, andThen_error]

theorem call_saveAmid (runs : file.failure = none)
    (encoded : generator.storage.codec.encode "utf-8" file.payload = .ok data) (uri : String) :
    call (generator.saveAmid file.failure uri file.payload) ⟨state.artifacts, now⟩ =
      ((call (generator.storage.save uri data) now).1,
        ⟨state.artifacts, (call (generator.storage.save uri data) now).2⟩) := by
  rw [OCRArtifactGenerator.saveAmid, call_onStorage, runs, onHost_none,
    StorageManager.call_saveText encoded]

theorem keeps_refused_iff (runs : file.failure = none)
    (encoded : generator.storage.codec.encode "utf-8" file.payload = .ok data)
    (refused : ¬ generator.storage.Takes (request.uriOf file.filename) now) :
    Keeps generator request state (generator.saveAmid file.failure (request.uriOf file.filename)
      file.payload >>= fun _ => next) now ↔ SameFiles generator request state.tree now := by
  obtain ⟨exc, ended⟩ := StorageManager.call_save_refused refused data
  refine @keeps_iff_of_raised _ _ _ _ _ exc _ ?_
  rw [call_bind, call_saveAmid runs encoded, ended, andThen_error]

theorem keeps_saved_iff {path : HostPath} (runs : file.failure = none)
    (encoded : generator.storage.codec.encode "utf-8" file.payload = .ok data)
    (denoted : generator.storage.Denotes (request.uriOf file.filename) path)
    (writable : Writable now path) :
    Keeps generator request state (generator.saveAmid file.failure (request.uriOf file.filename)
      file.payload >>= fun _ => next) now ↔
        Keeps generator request state next (wrote now path data) := by
  unfold Keeps
  rw [call_bind, call_saveAmid runs encoded,
    StorageManager.call_save_takes denoted writable data, andThen_ok]

end Save

section Registration

variable {textChecksum resultChecksum metadataChecksum : String}

theorem keeps_unregistered_iff (refused : ¬ Registers generator failures request state) :
    Keeps generator request state
      (finish generator failures request textChecksum resultChecksum metadataChecksum) now ↔
        SameFiles generator request state.tree now := by
  unfold finish
  cases failure : failures.registration with
  | some exc =>
      refine @keeps_iff_of_raised _ _ _ _ _ exc _ ?_
      rw [call_bind, call_onRepo, call_inSession_some, andThen_error]
  | none =>
      have denied : Refused generator.serializer.iso request.made request.scan request.textUri
          request.workspaceId state.artifacts := by
        by_contra accepted
        exact refused ⟨failure, accepted⟩
      obtain ⟨exc, ended⟩ := @call_register_refused generator.serializer.iso state.artifacts
        request.made request.scan
        (request.registration textChecksum resultChecksum metadataChecksum) denied
      refine @keeps_iff_of_raised _ _ _ _ _ exc _ ?_
      rw [call_bind, call_onRepo, inSession_none, ended, andThen_error]

theorem keeps_registered (registers : Registers generator failures request state) :
    Keeps generator request state
      (finish generator failures request textChecksum resultChecksum metadataChecksum) now := by
  obtain ⟨artifact, after, ended⟩ := @call_register_accepted generator.serializer.iso
    state.artifacts request.made request.scan
    (request.registration textChecksum resultChecksum metadataChecksum) registers.2
  unfold Keeps finish
  rw [call_bind, call_onRepo, registers.1, inSession_none, ended]
  exact fun exc raised => nomatch raised

/-- The saves that are left and the registration, from where the saves have got to. -/
theorem keeps_rest_iff (rest done : List GeneratedFile)
    (midway : Midway generator request state.tree done rest now)
    (distinct : Distinct (done ++ rest))
    (named : ∀ file ∈ done ++ rest,
      file.filename ∈ [textFilename, resultFilename, metadataFilename])
    (summed : ∀ file ∈ rest, Summed generator file) :
    Keeps generator request state (saveAll generator request rest >>= fun _ =>
        finish generator failures request textChecksum resultChecksum metadataChecksum) now ↔
      HarmlessFrom generator failures request state done rest := by
  induction rest generalizing done now with
  | nil =>
      have same := midway.same_iff (fun file inside => named file (List.mem_append_left [] inside))
      unfold saveAll HarmlessFrom
      rw [pure_bind]
      by_cases registers : Registers generator failures request state
      · exact iff_of_true (keeps_registered registers) (fun refused => absurd registers refused)
      · refine (keeps_unregistered_iff registers).trans (same.trans ?_)
        exact ⟨fun kept _ => kept, fun kept => kept registers⟩
  | cons file rest ih =>
      have same := midway.same_iff (fun other inside =>
        named other (List.mem_append_left (file :: rest) inside))
      have takes := midway.takes file List.mem_cons_self
      obtain ⟨sum, sums⟩ := summed file List.mem_cons_self
      obtain ⟨data, encoded, -⟩ := returned_of_bind sums
      rw [saveAll, bind_assoc]
      rcases Option.eq_none_or_eq_some file.failure with runs | ⟨broken, fails⟩
      · by_cases free : generator.storage.Takes (request.uriOf file.filename) now
        · obtain ⟨path, denoted, writable⟩ := free
          have saves : Saves generator request file state.tree :=
            ⟨runs, takes.mp ⟨path, denoted, writable⟩⟩
          have onward := midway.step distinct encoded denoted writable
          have later : ∀ other ∈ rest, Summed generator other := fun other inside =>
            summed other (List.mem_cons_of_mem file inside)
          rw [List.append_cons] at distinct named
          rw [keeps_saved_iff runs encoded denoted writable, harmlessFrom_saved_iff saves]
          exact ih (done ++ [file]) onward distinct named later
        · have refused : ¬ generator.storage.Takes (request.uriOf file.filename) state.tree :=
            fun taken => free (takes.mpr taken)
          rw [keeps_refused_iff runs encoded free, harmlessFrom_refused_iff runs refused]
          exact same
      · rw [keeps_broken_iff fails, harmlessFrom_broken_iff fails]

end Registration

end Steps

/-- Every text of the call has a digest, so that the saves are reached. -/
def Reaches (generator : OCRArtifactGenerator) (failures : GenerateFailures)
    (request : GenerateCall) : Prop :=
  ∀ file ∈ filesOf generator failures request, Summed generator file

/-- Otherwise the call raises before its first save. -/
theorem generateAmid_stopped {generator : OCRArtifactGenerator} {failures : GenerateFailures}
    {request : GenerateCall} (stops : ¬ Reaches generator failures request) (state : OcrState) :
    ∃ exc, call (generator.generateAmid failures request) state = (.error exc, state) := by
  rw [generateAmid_eq]
  rcases check_bind_cases (OCRArtifactSerializer.checksum generator.storage.codec
    request.result.text) _ state with stopped | ⟨textSum, text, ended⟩
  · exact stopped
  rw [ended]
  rcases check_bind_cases (OCRArtifactSerializer.checksum generator.storage.codec
    (resultPayload generator request)) _ state with stopped | ⟨resultSum, result, ended⟩
  · exact stopped
  rw [ended]
  rcases check_bind_cases (OCRArtifactSerializer.checksum generator.storage.codec
    (metadataPayload generator request)) _ state with stopped | ⟨metadataSum, metadata, -⟩
  · exact stopped
  refine absurd (fun file inside => ?_) stops
  simp only [filesOf, List.mem_cons, List.not_mem_nil, or_false] at inside
  rcases inside with rfl | rfl | rfl
  · exact ⟨textSum, text⟩
  · exact ⟨resultSum, result⟩
  · exact ⟨metadataSum, metadata⟩

theorem generateAmid_reached {generator : OCRArtifactGenerator} {failures : GenerateFailures}
    {request : GenerateCall} (reaches : Reaches generator failures request) :
    ∃ textSum resultSum metadataSum, generator.generateAmid failures request =
      (saveAll generator request (filesOf generator failures request) >>= fun _ =>
        finish generator failures request textSum resultSum metadataSum) := by
  obtain ⟨textSum, text⟩ := reaches _ List.mem_cons_self
  obtain ⟨resultSum, result⟩ := reaches _ (List.mem_cons_of_mem _ List.mem_cons_self)
  obtain ⟨metadataSum, metadata⟩ := reaches _
    (List.mem_cons_of_mem _ (List.mem_cons_of_mem _ List.mem_cons_self))
  refine ⟨textSum, resultSum, metadataSum, ?_⟩
  rw [generateAmid_eq, text, result, metadata]
  rfl

/-- A call is atomic exactly where, if it gets as far as its saves, the first step that fails
leaves the three files as they were. -/
theorem generate_atomic_iff (generator : OCRArtifactGenerator) (failures : GenerateFailures)
    (request : GenerateCall) (state : OcrState) :
    Atomic generator failures request state ↔
      (Reaches generator failures request →
        HarmlessFrom generator failures request state []
          (filesOf generator failures request)) := by
  unfold Atomic
  by_cases reaches : Reaches generator failures request
  · obtain ⟨textSum, resultSum, metadataSum, ended⟩ := generateAmid_reached reaches
    have rest := @keeps_rest_iff generator failures request state state.tree textSum resultSum
      metadataSum (filesOf generator failures request) [] (midway_start _)
      (distinct_filesOf generator failures request)
      (fun file inside => named_filesOf generator failures request inside) reaches
    rw [ended]
    exact rest.trans ⟨fun harmless _ => harmless, fun harmless => harmless reaches⟩
  · obtain ⟨exc, ended⟩ := generateAmid_stopped reaches state
    refine (keeps_iff_of_raised ended).trans ?_
    exact iff_of_true (fun _ _ _ _ => rfl) (fun reached => absurd reached reaches)

/-- An artifact is read, archived and written back. -/
def archiveStored (iso : IsoFormat) (artifactId : String) : Py ArtifactTable Unit := do
  match ← SqliteArtifactRepositoryImpl.getById iso artifactId with
  | none => throw (.entityNotFound "Artifact" artifactId)
  | some artifact =>
      let archived ← check (artifact.archive 0)
      let _ ← SqliteArtifactRepositoryImpl.update iso archived

/-- The text `a` has been recognised, and its artifact archived. -/
def archivedState : OcrState :=
  let state := (sampleGenerator.generateStep ⟨Keyed.empty, sampleTree⟩
    (sampleCall "d1" "a" "x1")).2
  { state with artifacts := (call (archiveStored epochIso "x1") state.artifacts).2 }

/-- A call for the text `b` is refused once it has been saved: the row has the checksum of `a`. -/
theorem archivedState_then :
    (call (sampleGenerator.generateAmid ⟨none, none, none, none⟩ (sampleCall "d1" "b" "x2"))
        archivedState).1.isOk = false ∧
      (call (sampleGenerator.storage.load (textUriOf ("alpha", "d1"))) archivedState.tree).1 =
        .ok [97] ∧
      (call (sampleGenerator.storage.load (textUriOf ("alpha", "d1")))
        (call (sampleGenerator.generateAmid ⟨none, none, none, none⟩ (sampleCall "d1" "b" "x2"))
          archivedState).2.tree).1 = .ok [98] ∧
      (call (sampleGenerator.generateAmid ⟨none, none, none, none⟩ (sampleCall "d1" "b" "x2"))
          archivedState).2.artifacts.rows.map ArtifactRow.checksum =
        ["ca978112ca1bbdcafac231b39a23dc4da786eff8147c4e72b9807785afee48bb"] := by
  decide +kernel

/-- The text of an archived artifact is replaced by a call that raises. -/
theorem archived_text_replaced :
    ¬ ∀ (generator : OCRArtifactGenerator) (failures : GenerateFailures) (request : GenerateCall)
        (state : OcrState), Atomic generator failures request state := by
  intro atomic
  obtain ⟨raises, before, after, -⟩ := archivedState_then
  rcases ended : (call (sampleGenerator.generateAmid ⟨none, none, none, none⟩
    (sampleCall "d1" "b" "x2")) archivedState).1 with exc | answer
  · have kept := (atomic sampleGenerator _ _ archivedState exc ended).files
    obtain ⟨path, denoted, stands⟩ := sampleGenerator.storage.load_ok_iff.mp before
    obtain ⟨other, denotes, replaced⟩ := sampleGenerator.storage.load_ok_iff.mp after
    rw [denotes.eq denoted] at replaced
    have same := kept textFilename List.mem_cons_self path denoted
    rw [stands] at same
    cases replaced.symm.trans same
  · rw [ended] at raises
    cases raises

end LexMind.Ocr
