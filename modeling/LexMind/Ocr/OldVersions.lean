import LexMind.Artifacts.Persistence
import LexMind.Ocr.GenerateCases

set_option autoImplicit false

/- Which versions of the recognised texts can still be loaded: a document's runs all write one
file, so a version lasts as long as the texts that are saved there have its checksum. -/
namespace LexMind.Ocr

open Lib Artifacts Storage

variable (generator : OCRArtifactGenerator)

/-- The version is in the history of an artifact. -/
def Recorded (state : OcrState) (version : ArtifactVersion) : Prop :=
  ∃ row ∈ state.artifacts.rows, ∃ artifact,
    toDomain generator.serializer.iso row = .ok artifact ∧ version ∈ artifact.versions

/-- The content with the version's checksum can be loaded from its URI. -/
def Loadable (tree : HostTree) (version : ArtifactVersion) : Prop :=
  ∃ data, (call (generator.storage.load version.storageUri) tree).1 = .ok data ∧
    generator.storage.codec.computeChecksum data "sha256" = .ok version.checksum

def OldVersionsAvailable (state : OcrState) : Prop :=
  ∀ version, Recorded generator state version → Loadable generator state.tree version

/-- The text has the checksum of every version whose URI denotes the file it is saved to. -/
def Fits (state : OcrState) (request : GenerateCall) : Prop :=
  ∀ version, Recorded generator state version →
    (∃ path, generator.storage.Denotes version.storageUri path ∧
      generator.storage.Denotes request.textUri path) →
    OCRArtifactSerializer.checksum generator.storage.codec
      (OCRArtifactSerializer.serializeText request.result) = .ok version.checksum

section Histories

variable {generator} {state : OcrState}

theorem recorded_iff (written : Written generator.serializer.iso state.artifacts)
    (version : ArtifactVersion) :
    Recorded generator state version ↔
      ∃ artifact, rowOf generator.serializer.iso artifact ∈ state.artifacts.rows ∧
        version ∈ artifact.versions := by
  constructor
  · rintro ⟨row, inside, artifact, decoded, recorded⟩
    obtain ⟨old, rfl⟩ := written row inside
    rw [toDomain_rowOf] at decoded
    cases decoded
    exact ⟨old, inside, recorded⟩
  · rintro ⟨artifact, inside, recorded⟩
    exact ⟨_, inside, artifact.restored, toDomain_rowOf _ artifact, recorded⟩

/-- The columns of an artifact hold its history. -/
theorem versions_of_rowOf {iso : IsoFormat} {first second : Artifact}
    (same : rowOf iso first = rowOf iso second) : first.versions = second.versions := by
  show first.restored.versions = second.restored.versions
  rw [restored_of_rowOf iso same]

/-- A row put for a new artifact adds its history to the ones recorded. -/
theorem recorded_fresh {tree : HostTree}
    (written : Written generator.serializer.iso state.artifacts) {artifact : Artifact}
    (fresh : state.artifacts.find? artifact.id = none) (version : ArtifactVersion) :
    Recorded generator
        ⟨state.artifacts.put (rowOf generator.serializer.iso artifact), tree⟩ version ↔
      Recorded generator state version ∨ version ∈ artifact.versions := by
  rw [recorded_iff (written.put artifact), recorded_iff written]
  simp only [Keyed.mem_put]
  constructor
  · rintro ⟨other, same | ⟨inside, -⟩, recorded⟩
    · exact .inr (versions_of_rowOf same ▸ recorded)
    · exact .inl ⟨other, inside, recorded⟩
  · rintro (⟨other, inside, recorded⟩ | recorded)
    · have apart := (state.artifacts.find?_eq_none_iff artifact.id).mp fresh _ inside
      exact ⟨other, .inr ⟨inside, apart⟩, recorded⟩
    · exact ⟨artifact, .inl rfl, recorded⟩

/-- A row put in place of an artifact's own keeps what was recorded, where the history goes on. -/
theorem recorded_next {tree : HostTree}
    (written : Written generator.serializer.iso state.artifacts) {old new : Artifact}
    {later : List ArtifactVersion} (inside : rowOf generator.serializer.iso old ∈
      state.artifacts.rows) (same : new.id = old.id)
    (longer : new.versions = old.versions ++ later) (version : ArtifactVersion) :
    Recorded generator ⟨state.artifacts.put (rowOf generator.serializer.iso new), tree⟩ version ↔
      Recorded generator state version ∨ version ∈ later := by
  rw [recorded_iff (written.put new), recorded_iff written]
  simp only [Keyed.mem_put]
  constructor
  · rintro ⟨other, replaced | ⟨stored, -⟩, recorded⟩
    · rw [versions_of_rowOf replaced, longer, List.mem_append] at recorded
      exact recorded.imp_left (fun before => ⟨old, inside, before⟩)
    · exact .inl ⟨other, stored, recorded⟩
  · have added : version ∈ old.versions ∨ version ∈ later → version ∈ new.versions := by
      rw [longer, List.mem_append]
      exact id
    rintro (⟨other, stored, recorded⟩ | recorded)
    · by_cases own : other.id = new.id
      · have row := state.artifacts.eq_of_key_eq stored inside (own.trans same)
        rw [versions_of_rowOf row] at recorded
        exact ⟨new, .inl rfl, added (.inl recorded)⟩
      · exact ⟨other, .inr ⟨stored, own⟩, recorded⟩
    · exact ⟨new, .inl rfl, added (.inr recorded)⟩

/-- A call that raises records nothing; one that returns records one version, of its text. -/
theorem generate_recorded (written : Written generator.serializer.iso state.artifacts)
    (request : GenerateCall) :
    (∃ exc tree, Saved generator request state.tree tree ∧
      generator.generateStep state request = (.error exc, { state with tree := tree })) ∨
      ∃ answer after registration latest,
        generator.generateStep state request = (.ok answer, after) ∧
        Stored generator request registration state.tree after.tree ∧
        Written generator.serializer.iso after.artifacts ∧
        latest.checksum = registration.checksum ∧ latest.storageUri = request.textUri ∧
        ∀ version, Recorded generator after version ↔
          Recorded generator state version ∨ version = latest := by
  rcases generate_cases written request with
    failed | ⟨registration, tree, answer, stored, made⟩
  · exact .inl failed
  · right
    rcases made with ⟨artifact, hidden, fresh, first, ended⟩ | ⟨old, new, inside, located, next, ended⟩
    · obtain ⟨latest, versions, -, checksum, uri⟩ := first.version
      refine ⟨answer, _, registration, latest, ended, stored, written.put artifact, checksum,
        uri.trans stored.located, fun version => ?_⟩
      rw [recorded_fresh written fresh, versions, List.mem_singleton]
    · obtain ⟨latest, versions, -, checksum, uri⟩ := next.version
      refine ⟨answer, _, registration, latest, ended, stored, written.put new, checksum,
        uri.trans located, fun version => ?_⟩
      rw [recorded_next written inside next.same versions, List.mem_singleton]

end Histories

section Runs

variable {generator}

/-- The checksum of a text is the digest of what it is encoded as. -/
theorem checksum_of_encoded {codec : Codec} {payload : String} {data : Bytes}
    (encoded : codec.encode "utf-8" payload = .ok data) :
    OCRArtifactSerializer.checksum codec payload = codec.computeChecksum data "sha256" := by
  rw [OCRArtifactSerializer.checksum, encoded]
  rfl

theorem loadable_iff (tree : HostTree) (version : ArtifactVersion) :
    Loadable generator tree version ↔
      ∃ path data, generator.storage.Denotes version.storageUri path ∧
        tree.node path = some (.file data) ∧
        generator.storage.codec.computeChecksum data "sha256" = .ok version.checksum := by
  unfold Loadable
  simp only [StorageManager.load_ok_iff]
  constructor
  · rintro ⟨data, ⟨path, denoted, file⟩, summed⟩
    exact ⟨path, data, denoted, file, summed⟩
  · rintro ⟨path, data, denoted, file, summed⟩
    exact ⟨data, ⟨path, denoted, file⟩, summed⟩

/-- What the saves of a call do to a version that could be loaded before. -/
theorem Saved.loadable {request : GenerateCall} {before after : HostTree}
    (saved : Saved generator request before after) {version : ArtifactVersion}
    (named : ∃ workspaceId documentId, version.storageUri =
      OCRArtifactGenerator.buildUri workspaceId documentId textFilename)
    (fits : (∃ path, generator.storage.Denotes version.storageUri path ∧
        generator.storage.Denotes request.textUri path) →
      OCRArtifactSerializer.checksum generator.storage.codec request.result.text =
        .ok version.checksum)
    (loadable : Loadable generator before version) : Loadable generator after version := by
  rw [loadable_iff] at loadable ⊢
  obtain ⟨path, data, denoted, file, summed⟩ := loadable
  have last : path.getLast? = some textFilename.toList := by
    obtain ⟨workspaceId, documentId, uri⟩ := named
    rw [uri] at denoted
    rw [denotes_buildUri regular_textFilename denoted, List.getLast?_concat]
  rcases saved path data ⟨file, last⟩ with kept | ⟨own, written, encoded, stored⟩
  · exact ⟨path, data, denoted, kept.1, summed⟩
  · have sum := fits ⟨path, denoted, own⟩
    rw [checksum_of_encoded encoded] at sum
    exact ⟨path, written, denoted, stored.1, sum⟩

/-- What holds in every state of a run whose texts fit. -/
structure Lasting (generator : OCRArtifactGenerator) (state : OcrState) : Prop where
  written : Written generator.serializer.iso state.artifacts
  named : ∀ version, Recorded generator state version → ∃ workspaceId documentId,
    version.storageUri = OCRArtifactGenerator.buildUri workspaceId documentId textFilename
  available : OldVersionsAvailable generator state

theorem not_recorded_empty (tree : HostTree) (version : ArtifactVersion) :
    ¬ Recorded generator ⟨Keyed.empty, tree⟩ version := by
  rintro ⟨row, inside, -⟩
  cases inside

theorem lasting_empty (tree : HostTree) : Lasting generator ⟨Keyed.empty, tree⟩ := by
  constructor
  · exact Written.empty
  · exact fun version recorded => absurd recorded (not_recorded_empty tree version)
  · exact fun version recorded => absurd recorded (not_recorded_empty tree version)

/-- A text that fits takes no version away, whether its call returns or raises. -/
theorem Lasting.step {state : OcrState} {request : GenerateCall}
    (lasting : Lasting generator state) (fits : Fits generator state request) :
    Lasting generator (generator.generateStep state request).2 := by
  rcases generate_recorded lasting.written request with
    ⟨exc, tree, saved, ended⟩ |
    ⟨answer, after, registration, latest, ended, stored, written, checksum, uri, recorded⟩
  · rw [ended]
    constructor
    · exact lasting.written
    · exact lasting.named
    · intro version inside
      exact saved.loadable (lasting.named version inside) (fits version inside)
        (lasting.available version inside)
  · rw [ended]
    constructor
    · exact written
    · intro version inside
      rcases (recorded version).mp inside with before | rfl
      · exact lasting.named version before
      · exact ⟨request.workspaceId, request.documentId, uri⟩
    · intro version inside
      rcases (recorded version).mp inside with before | rfl
      · exact stored.saved.loadable (lasting.named version before) (fits version before)
          (lasting.available version before)
      · obtain ⟨path, data, denoted, encoded, file⟩ := stored.text
        have sum := stored.summed
        rw [checksum_of_encoded encoded, ← checksum] at sum
        exact (loadable_iff after.tree version).mpr ⟨path, data, uri ▸ denoted, file.1, sum⟩

/-- Once a call has returned, only versions with its text's checksum are loadable from the file
it has written. -/
theorem fits_of_available {state : OcrState} {request : GenerateCall}
    (written : Written generator.serializer.iso state.artifacts) {answer : OCRArtifactSet}
    (returned : (generator.generateStep state request).1 = .ok answer)
    (available : OldVersionsAvailable generator (generator.generateStep state request).2) :
    Fits generator state request := by
  rcases generate_recorded written request with
    ⟨exc, tree, saved, ended⟩ |
    ⟨answer, after, registration, latest, ended, stored, written, checksum, uri, recorded⟩
  · rw [ended] at returned
    cases returned
  · rw [ended] at available
    rintro version inside ⟨path, denoted, own⟩
    have loadable := available version ((recorded version).mpr (.inl inside))
    obtain ⟨found, data, denotes, file, summed⟩ := (loadable_iff after.tree version).mp loadable
    obtain ⟨target, text, targeted, encoded, saved⟩ := stored.text
    have same : found = target := by
      rw [denotes.eq denoted, own.eq targeted]
    rw [same, saved.1] at file
    cases file
    show OCRArtifactSerializer.checksum generator.storage.codec request.result.text = _
    rw [checksum_of_encoded encoded]
    exact summed

theorem lasting_run (tree : HostTree) (calls : List GenerateCall)
    (fits : Along generator.generateStep (Fits generator) ⟨Keyed.empty, tree⟩ calls) :
    Lasting generator (run generator.generateStep ⟨Keyed.empty, tree⟩ calls).2 :=
  run_invariant_along (fun _ _ lasting fit => lasting.step fit) (lasting_empty tree) fits

/-- Over any files, a run whose texts fit keeps every version loadable, and a further call that
returns does so exactly where its text fits. -/
theorem old_versions_available (tree : HostTree) (calls : List GenerateCall)
    (fits : Along generator.generateStep (Fits generator) ⟨Keyed.empty, tree⟩ calls) :
    OldVersionsAvailable generator (run generator.generateStep ⟨Keyed.empty, tree⟩ calls).2 ∧
      ∀ request answer,
        (generator.generateStep (run generator.generateStep ⟨Keyed.empty, tree⟩ calls).2
          request).1 = .ok answer →
        (OldVersionsAvailable generator (generator.generateStep
            (run generator.generateStep ⟨Keyed.empty, tree⟩ calls).2 request).2 ↔
          Fits generator (run generator.generateStep ⟨Keyed.empty, tree⟩ calls).2 request) := by
  have lasting := lasting_run tree calls fits
  refine ⟨lasting.available, fun request answer returned => ⟨?_, ?_⟩⟩
  · intro available
    exact fits_of_available lasting.written returned available
  · intro fit
    exact (lasting.step fit).available

/-- Of two runs of a document whose texts differ in their checksums, the first is lost. -/
theorem first_lost {tree : HostTree} {first second : GenerateCall}
    {answer answer' : OCRArtifactSet} (again : second.textUri = first.textUri)
    (returned : (generator.generateStep ⟨Keyed.empty, tree⟩ first).1 = .ok answer)
    (returned' : (generator.generateStep (generator.generateStep ⟨Keyed.empty, tree⟩ first).2
      second).1 = .ok answer')
    (differs : OCRArtifactSerializer.checksum generator.storage.codec second.result.text ≠
      OCRArtifactSerializer.checksum generator.storage.codec first.result.text) :
    ¬ OldVersionsAvailable generator
      (run generator.generateStep ⟨Keyed.empty, tree⟩ [first, second]).2 := by
  intro available
  rcases @generate_recorded generator ⟨Keyed.empty, tree⟩ Written.empty first with
    ⟨exc, middle, -, ended⟩ |
    ⟨_, after, registration, latest, ended, stored, written, checksum, uri, recorded⟩
  · rw [ended] at returned
    cases returned
  · rw [ended] at returned'
    rw [run_cons_state, ended] at available
    have fits := fits_of_available written returned' available
    obtain ⟨path, data, denoted, -, -⟩ := stored.text
    have sum := fits latest ((recorded latest).mpr (.inr rfl))
      ⟨path, uri ▸ denoted, again ▸ denoted⟩
    rw [checksum, ← stored.summed] at sum
    exact differs sum

end Runs

section Sample

/-- The JSON text of a result without pages. -/
def resultText (text : String) : String :=
  "\x7b\n  \"confidence\": 0.5,\n  \"language\": \"en\",\n  \"metadata\": \x7b\x7d,\n" ++
  "  \"page_count\": 0,\n  \"pages\": [],\n  \"provider\": \"fake\",\n  \"text\": \"" ++
  text ++ "\"\n\x7d"

/-- The JSON text that describes a result of one character. -/
def metadataText (documentId : String) : String :=
  "\x7b\n  \"character_count\": 1,\n  \"confidence\": 0.5,\n  \"document_id\": \"" ++ documentId ++
  "\",\n  \"generated_at\": \"1970-01-01T00:00:00+00:00\",\n  \"is_empty\": false,\n" ++
  "  \"language\": \"en\",\n  \"page_count\": 0,\n  \"provider\": \"fake\"\n\x7d"

/-- The JSON encoder on such payloads. -/
def sampleDump (payload : Json) : String :=
  match Json.asObject payload with
  | .error _ => "null"
  | .ok item =>
      match item.find? "text", item.find? "document_id" with
      | some (.scalar (.str text)), _ => resultText text
      | _, some (.scalar (.str documentId)) => metadataText documentId
      | _, _ => "\x7b\x7d"

/-- SHA-256 of the texts used here. -/
def digests : List (String × String) :=
  [("a", "ca978112ca1bbdcafac231b39a23dc4da786eff8147c4e72b9807785afee48bb"),
    ("b", "3e23e8160039594a33894f6564e1b1348bbd7a0088d42c4acb73eeaed59c009d"),
    (resultText "a", "eba2b0028b9af89d3ff77b2200b8fbbc291573d510b71acb17f3cdcc20e56deb"),
    (resultText "b", "453e5a3205a54e3115cbf3753d673d03f8e521c717b7b4940791e32daba3b117"),
    (metadataText "d1", "c6b7d4c9232b6dd1300999ab4e137f14b52a96c032a4b3d933e356f29c34346a"),
    (metadataText "", "c43c2a8df94fe0ab83e9576db517e80c43a56c7d728701bfea3f2eba21d70bfd"),
    (metadataText ".", "ebe506108d89fbc9368ad97f288bbc268952ea8080e898da77287d6091f08891")]

/-- A generator over `/data`. -/
def sampleGenerator : OCRArtifactGenerator where
  storage :=
    { provider := ⟨["data".toList]⟩
      codec :=
        { encode := fun _ text => .ok (text.toList.map (fun char => UInt8.ofNat char.toNat))
          decode := fun _ data => .ok (String.ofList (data.map (fun byte => Char.ofNat byte.toNat)))
          computeChecksum := fun data _ => .ok ((digests.lookup
            (String.ofList (data.map (fun byte => Char.ofNat byte.toNat)))).getD "") } }
  serializer := ⟨sampleDump, epochIso⟩

def sampleTree : HostTree := FileTree.empty.makeDirs ["data".toList]

def sampleCall (documentId text id : String) : GenerateCall where
  workspaceId := "alpha"
  documentId := documentId
  result := ⟨text, "0.5", "en", "fake", [], Keyed.empty⟩
  producerModule := "ocr"
  producerVersion := ""
  generatedAt := 0
  made := ⟨id, 0, 0, 0⟩
  scan := .asStored

/-- A second run that finds the same text keeps the first version. -/
theorem old_versions_rerun :
    OldVersionsAvailable sampleGenerator (run sampleGenerator.generateStep
      ⟨Keyed.empty, sampleTree⟩ [sampleCall "d1" "a" "x1", sampleCall "d1" "a" "x2"]).2 := by
  have first : Fits sampleGenerator ⟨Keyed.empty, sampleTree⟩ (sampleCall "d1" "a" "x1") :=
    fun version recorded => absurd recorded (not_recorded_empty sampleTree version)
  have second : Fits sampleGenerator (sampleGenerator.generateStep ⟨Keyed.empty, sampleTree⟩
      (sampleCall "d1" "a" "x1")).2 (sampleCall "d1" "a" "x2") := by
    rcases @generate_recorded sampleGenerator ⟨Keyed.empty, sampleTree⟩ Written.empty
        (sampleCall "d1" "a" "x1") with
      ⟨exc, tree, -, ended⟩ |
      ⟨answer, after, registration, latest, ended, stored, -, checksum, -, recorded⟩
    · rw [ended]
      exact fun version inside => absurd inside (not_recorded_empty tree version)
    · rw [ended]
      intro version inside _
      rcases (recorded version).mp inside with before | rfl
      · exact absurd before (not_recorded_empty sampleTree version)
      · rw [checksum]
        exact stored.summed
  have fits : Along sampleGenerator.generateStep (Fits sampleGenerator)
      ⟨Keyed.empty, sampleTree⟩ [sampleCall "d1" "a" "x1", sampleCall "d1" "a" "x2"] :=
    ⟨first, second, trivial⟩
  exact (old_versions_available sampleTree _ fits).1

/-- The second text takes the place of the first, whose version has another checksum. -/
theorem old_versions_lost :
    ¬ ∀ (tree : HostTree) (calls : List GenerateCall),
      (∀ request ∈ calls, request.workspaceId = "alpha" ∧ request.documentId = "d1") →
      OldVersionsAvailable sampleGenerator
        (run sampleGenerator.generateStep ⟨Keyed.empty, tree⟩ calls).2 := by
  intro lasts
  have available := lasts sampleTree [sampleCall "d1" "a" "x1", sampleCall "d1" "b" "x2"]
    (by simp [sampleCall])
  have differs : OCRArtifactSerializer.checksum sampleGenerator.storage.codec "b" ≠
      OCRArtifactSerializer.checksum sampleGenerator.storage.codec "a" := by
    decide +kernel
  have first : (sampleGenerator.generateStep ⟨Keyed.empty, sampleTree⟩
      (sampleCall "d1" "a" "x1")).1.isOk = true := by
    decide +kernel
  have second : (sampleGenerator.generateStep (sampleGenerator.generateStep
      ⟨Keyed.empty, sampleTree⟩ (sampleCall "d1" "a" "x1")).2
      (sampleCall "d1" "b" "x2")).1.isOk = true := by
    decide +kernel
  obtain ⟨answer, returned⟩ := (isOk_iff _).mp first
  obtain ⟨answer', returned'⟩ := (isOk_iff _).mp second
  have again : (sampleCall "d1" "b" "x2").textUri = (sampleCall "d1" "a" "x1").textUri := rfl
  exact first_lost again returned returned' differs available

end Sample

end LexMind.Ocr
