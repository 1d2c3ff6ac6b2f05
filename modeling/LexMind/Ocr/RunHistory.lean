import LexMind.Ocr.OldVersions

set_option autoImplicit false

/- The artifact of each document keeps count of its runs, where no two documents share a file. -/
namespace LexMind.Ocr

open Lib Artifacts Storage

def GenerateCall.pair (request : GenerateCall) : String × String :=
  (request.workspaceId, request.documentId)

/-- The runs of one document, in their order. -/
def runsOf (pair : String × String) (calls : List GenerateCall) : List GenerateCall :=
  calls.filter (fun request => request.pair = pair)

def textUriOf (pair : String × String) : String :=
  OCRArtifactGenerator.buildUri pair.1 pair.2 textFilename

theorem GenerateCall.textUri_eq (request : GenerateCall) :
    request.textUri = textUriOf request.pair := rfl

theorem textUri_of_pair {first second : GenerateCall} (same : first.pair = second.pair) :
    first.textUri = second.textUri := by
  rw [GenerateCall.textUri_eq, GenerateCall.textUri_eq, same]

/-- The artifact is the only shown one at the pair's URI, and has one version for each of the
runs, the last with the checksum of the text that is stored there. -/
structure InStep (generator : OCRArtifactGenerator) (state : OcrState) (pair : String × String)
    (runs : Nat) (artifact : Artifact) : Prop where
  only : (state.artifacts.rows.filter (fun row => row.storageUri = textUriOf pair &&
    SqliteArtifactRepositoryImpl.shown row)).mapM (toDomain generator.serializer.iso) =
      .ok [artifact]
  counted : artifact.currentVersion = runs
  numbered : artifact.versions.map ArtifactVersion.versionNumber =
    (List.range runs).map (fun index : Nat => (index : Int) + 1)
  stored : ∃ text data, generator.storage.codec.encode "utf-8" text = .ok data ∧
    (call (generator.storage.load (textUriOf pair)) state.tree).1 = .ok data ∧
    OCRArtifactSerializer.checksum generator.storage.codec text = .ok artifact.checksum
  latest : ∃ version, artifact.versions.getLast? = some version ∧
    version.checksum = artifact.checksum

section Folders

variable {workspaceId documentId : String}

theorem folderRel_of_segment (segment : '/' ∉ workspaceId.toList) :
    folderRel workspaceId documentId = "artifacts/ocr".toList ++ '/' :: documentId.toList := by
  have inside : ∀ char ∈ workspaceId.toList, decide (char ≠ '/') = true := fun char member =>
    decide_eq_true (fun same => segment (same ▸ member))
  rw [folderRel, folderText, List.append_assoc, List.dropWhile_append_of_pos inside]
  rfl

/-- The document ids that name no folder of their own. -/
def Unnamed (documentId : String) : Prop := documentId = "" ∨ documentId = "."

theorem locate_of_parts {root : HostPath} {rel : List Char} {parts : HostPath}
    (relative : rel.head? ≠ some '/') (split : PurePath.parts rel = parts)
    (onward : ['.', '.'] ∉ parts) : HostPath.locate root rel = root ++ parts := by
  unfold HostPath.locate
  rw [split, if_neg relative]
  clear split
  induction parts generalizing root with
  | nil => exact (List.append_nil root).symm
  | cons part rest ih =>
      have later := List.not_mem_of_not_mem_cons onward
      have differs : part ≠ ['.', '.'] := fun same => onward (same ▸ List.mem_cons_self)
      rw [List.foldl_cons, if_neg differs, ih later, List.append_assoc]
      rfl

/-- Where the files of a document are. -/
theorem folder_cases (root : HostPath) (documentId : String)
    (segment : '/' ∉ documentId.toList) :
    let folder := HostPath.locate root ("artifacts/ocr".toList ++ '/' :: documentId.toList)
    Unnamed documentId ∧ folder = root ++ ["artifacts".toList, "ocr".toList] ∨
      documentId = ".." ∧ folder = root ++ ["artifacts".toList] ∨
      folder = root ++ ["artifacts".toList, "ocr".toList, documentId.toList] := by
  intro folder
  by_cases blank : Unnamed documentId
  · refine .inl ⟨blank, ?_⟩
    rcases blank with rfl | rfl
    · exact locate_of_parts (by decide) (by decide) (by decide)
    · exact locate_of_parts (by decide) (by decide) (by decide)
  · right
    by_cases up : documentId = ".."
    · subst up
      have split : PurePath.parts ("artifacts/ocr".toList ++ '/' :: "..".toList) =
          ["artifacts".toList, "ocr".toList, "..".toList] := by
        decide
      refine .inl ⟨rfl, ?_⟩
      show HostPath.locate root ("artifacts/ocr".toList ++ '/' :: "..".toList) = _
      unfold HostPath.locate
      rw [split, if_neg (by decide)]
      show ((root ++ ["artifacts".toList]) ++ ["ocr".toList]).dropLast = _
      exact List.dropLast_concat
    · have regular : Regular documentId.toList := by
        refine ⟨?_, ?_, ?_, segment⟩
        · exact fun empty => blank (.inl (String.toList_eq_nil_iff.mp empty))
        · exact fun dot => blank (.inr (String.toList_inj.mp dot))
        · exact fun dots => up (String.toList_inj.mp dots)
      have split : PurePath.parts ("artifacts/ocr".toList ++ '/' :: documentId.toList) =
          ["artifacts".toList, "ocr".toList, documentId.toList] := by
        rw [parts_snoc _ regular]
        rfl
      have relative : ("artifacts/ocr".toList ++ '/' :: documentId.toList).head? ≠ some '/' := by
        rw [List.head?_append_of_ne_nil _ (by decide)]
        decide
      right
      apply locate_of_parts relative split
      intro inside
      rcases List.mem_cons.mp inside with same | inside
      · exact absurd same (by decide)
      · rcases List.mem_cons.mp inside with same | inside
        · exact absurd same (by decide)
        · exact regular.2.2.1 (List.mem_singleton.mp inside).symm

/-- Two documents that share a folder are the same, or neither has one of its own. -/
theorem same_of_folder {root : HostPath} {first second : String}
    (segment : '/' ∉ first.toList) (segment' : '/' ∉ second.toList)
    (shared : HostPath.locate root ("artifacts/ocr".toList ++ '/' :: first.toList) =
      HostPath.locate root ("artifacts/ocr".toList ++ '/' :: second.toList)) :
    first = second ∨ Unnamed first ∧ Unnamed second := by
  -- The three kinds of folders differ in their depth.
  rcases folder_cases root first segment with ⟨blank, here⟩ | ⟨up, here⟩ | here <;>
    rcases folder_cases root second segment' with ⟨blank', there⟩ | ⟨up', there⟩ | there <;>
    rw [here, there] at shared <;> try (exfalso; simpa using congrArg List.length shared)
  · exact .inr ⟨blank, blank'⟩
  · exact .inl (up.trans up'.symm)
  · have last := List.append_cancel_left shared
    simp only [List.cons.injEq, and_true, true_and] at last
    exact .inl (String.toList_inj.mp last)

end Folders

section Separation

/-- The ids hold no slash, a document is in one workspace, and at most one of the documents has no
folder of its own. -/
structure Named (calls : List GenerateCall) : Prop where
  workspaces : ∀ request ∈ calls, '/' ∉ request.workspaceId.toList
  documents : ∀ request ∈ calls, '/' ∉ request.documentId.toList
  owned : ∀ first ∈ calls, ∀ second ∈ calls, first.documentId = second.documentId →
    first.workspaceId = second.workspaceId
  apart : ¬ ((∃ request ∈ calls, request.documentId = "") ∧
    ∃ request ∈ calls, request.documentId = ".")

/-- Different documents have different URIs, which denote different files. -/
def Separate (generator : OCRArtifactGenerator) (calls : List GenerateCall) : Prop :=
  ∀ first ∈ calls, ∀ second ∈ calls, first.pair ≠ second.pair →
    textUriOf first.pair ≠ textUriOf second.pair ∧
      ∀ path, generator.storage.Denotes (textUriOf first.pair) path →
        ¬ generator.storage.Denotes (textUriOf second.pair) path

theorem takeWhile_segment {segment : List Char} (clean : '/' ∉ segment) (rest : List Char) :
    (segment ++ '/' :: rest).takeWhile (· ≠ '/') = segment := by
  have inside : ∀ char ∈ segment, decide (char ≠ '/') = true := fun char member =>
    decide_eq_true (fun same => clean (same ▸ member))
  rw [List.takeWhile_append_of_pos inside]
  simp

theorem textUriOf_inj {first second : String × String} (segment : '/' ∉ first.1.toList)
    (segment' : '/' ∉ second.1.toList) (same : textUriOf first = textUriOf second) :
    first = second := by
  have chars := congrArg String.toList same
  rw [textUriOf, textUriOf, buildUri_toList, buildUri_toList] at chars
  have folders : folderText first.1 first.2 = folderText second.1 second.2 :=
    List.append_cancel_right (List.append_cancel_left chars)
  have slash : "/artifacts/ocr/".toList = '/' :: "artifacts/ocr/".toList := rfl
  rw [folderText, folderText, List.append_assoc, List.append_assoc, slash, List.cons_append,
    List.cons_append] at folders
  have workspaces : first.1.toList = second.1.toList := by
    rw [← takeWhile_segment segment, folders, takeWhile_segment segment']
  rw [workspaces, List.append_cancel_left_eq] at folders
  have documents := List.append_cancel_left (List.cons.inj folders).2
  exact Prod.ext (String.toList_inj.mp workspaces) (String.toList_inj.mp documents)

theorem Named.separate {calls : List GenerateCall} (named : Named calls)
    (generator : OCRArtifactGenerator) : Separate generator calls := by
  intro first inside second inside' differs
  constructor
  · intro same
    exact differs (textUriOf_inj (named.workspaces first inside)
      (named.workspaces second inside') same)
  · intro path denoted denoted'
    have here : path = HostPath.locate generator.storage.provider.root
        (folderRel first.workspaceId first.documentId) ++ [textFilename.toList] :=
      denotes_buildUri regular_textFilename denoted
    have there : path = HostPath.locate generator.storage.provider.root
        (folderRel second.workspaceId second.documentId) ++ [textFilename.toList] :=
      denotes_buildUri regular_textFilename denoted'
    rw [folderRel_of_segment (named.workspaces first inside)] at here
    rw [folderRel_of_segment (named.workspaces second inside')] at there
    have shared := List.append_cancel_right (here.symm.trans there)
    have apart : first.documentId ≠ second.documentId := fun same =>
      differs (Prod.ext (named.owned first inside second inside' same) same)
    rcases same_of_folder (named.documents first inside) (named.documents second inside') shared
      with same | ⟨empty | dot, empty' | dot'⟩
    · exact apart same
    · exact apart (empty.trans empty'.symm)
    · exact named.apart ⟨⟨first, inside, empty⟩, second, inside', dot'⟩
    · exact named.apart ⟨⟨second, inside', empty'⟩, first, inside, dot⟩
    · exact apart (dot.trans dot'.symm)

end Separation

section Runs

theorem runsOf_snoc_same {pair : String × String} {request : GenerateCall}
    (same : request.pair = pair) (done : List GenerateCall) :
    runsOf pair (done ++ [request]) = runsOf pair done ++ [request] := by
  rw [runsOf, List.filter_append, List.filter_cons_of_pos (by simpa using same)]
  rfl

theorem runsOf_snoc_other {pair : String × String} {request : GenerateCall}
    (other : request.pair ≠ pair) (done : List GenerateCall) :
    runsOf pair (done ++ [request]) = runsOf pair done := by
  rw [runsOf, List.filter_append, List.filter_cons_of_neg (by simpa using other),
    List.filter_nil, List.append_nil]
  rfl

/-- A call of another document than the last one came before it. -/
theorem mem_of_other_pair {done : List GenerateCall} {request other : GenerateCall}
    (differs : request.pair ≠ other.pair) (inside : other ∈ done ++ [request]) : other ∈ done := by
  rcases List.mem_append.mp inside with before | last
  · exact before
  · exact absurd (congrArg GenerateCall.pair (List.mem_singleton.mp last)).symm differs

variable {generator : OCRArtifactGenerator}

/-- The artifact has a version for each of the runs. -/
structure Records (generator : OCRArtifactGenerator) (uri : String) (runs : List GenerateCall)
    (artifact : Artifact) : Prop where
  located : artifact.storageUri = uri
  live : artifact.status = .available
  counted : artifact.currentVersion = runs.length
  numbered : artifact.versions.map ArtifactVersion.versionNumber =
    (List.range runs.length).map (fun index : Nat => (index : Int) + 1)
  summed : ∃ last, runs.getLast? = some last ∧
    OCRArtifactSerializer.checksum generator.storage.codec last.result.text =
      .ok artifact.checksum
  latest : ∃ version, artifact.versions.getLast? = some version ∧
    version.checksum = artifact.checksum

/-- The columns of an artifact hold what is recorded of its runs. -/
theorem Records.of_rowOf {iso : IsoFormat} {uri : String} {runs : List GenerateCall}
    {first second : Artifact} (same : rowOf iso first = rowOf iso second)
    (records : Records generator uri runs second) : Records generator uri runs first := by
  have kept : Records generator uri runs second.restored :=
    ⟨records.located, records.live, records.counted, records.numbered, records.summed,
      records.latest⟩
  rw [← restored_of_rowOf iso same] at kept
  exact ⟨kept.located, kept.live, kept.counted, kept.numbered, kept.summed, kept.latest⟩

theorem FirstOf.records {registration : Registration} {artifact : Artifact}
    {request : GenerateCall} (first : FirstOf registration artifact)
    (located : registration.storageUri = request.textUri)
    (summed : OCRArtifactSerializer.checksum generator.storage.codec request.result.text =
      .ok registration.checksum) :
    Records generator request.textUri [request] artifact := by
  obtain ⟨version, versions, number, checksum, -⟩ := first.version
  constructor
  · exact first.located.trans located
  · exact first.live
  · exact first.counted
  · rw [versions, List.map_singleton, number]
    rfl
  · exact ⟨request, rfl, first.summed ▸ summed⟩
  · rw [versions, first.summed]
    exact ⟨version, rfl, checksum⟩

theorem NextOf.records {registration : Registration} {old new : Artifact} {uri : String}
    {runs : List GenerateCall} {request : GenerateCall} (next : NextOf registration old new)
    (summed : OCRArtifactSerializer.checksum generator.storage.codec request.result.text =
      .ok registration.checksum)
    (records : Records generator uri runs old) :
    Records generator uri (runs ++ [request]) new := by
  obtain ⟨version, versions, number, checksum, -⟩ := next.version
  have longer : (runs ++ [request]).length = runs.length + 1 := List.length_append
  constructor
  · exact next.located.trans records.located
  · exact next.live.trans records.live
  · rw [next.counted, records.counted, longer]
    rfl
  · rw [versions, List.map_append, records.numbered, longer, List.range_succ, List.map_append,
      List.map_singleton, List.map_singleton, number, records.counted]
  · exact ⟨request, List.getLast?_concat, next.summed ▸ summed⟩
  · rw [versions, next.summed]
    exact ⟨version, List.getLast?_concat, checksum⟩

/-- Where the runs done so far have left each document. -/
structure Progress (generator : OCRArtifactGenerator) (done : List GenerateCall)
    (state : OcrState) : Prop where
  owned : ∀ row ∈ state.artifacts.rows, ∃ artifact, row = rowOf generator.serializer.iso artifact ∧
    ∃ request ∈ done, Records generator request.textUri (runsOf request.pair done) artifact
  recorded : ∀ request ∈ done, ∃ row ∈ state.artifacts.rows, row.storageUri = request.textUri
  single : ∀ first ∈ state.artifacts.rows, ∀ second ∈ state.artifacts.rows,
    first.storageUri = second.storageUri → first = second
  stored : ∀ request ∈ done, ∃ last path data, (runsOf request.pair done).getLast? = some last ∧
    generator.storage.Denotes request.textUri path ∧
    generator.storage.codec.encode "utf-8" last.result.text = .ok data ∧
    TextFile state.tree path data

theorem progress_start (generator : OCRArtifactGenerator) (tree : HostTree) :
    Progress generator [] ⟨Keyed.empty, tree⟩ := by
  constructor
  · exact fun row inside => absurd inside List.not_mem_nil
  · exact fun request inside => absurd inside List.not_mem_nil
  · exact fun row inside => absurd inside List.not_mem_nil
  · exact fun request inside => absurd inside List.not_mem_nil

theorem Progress.written {done : List GenerateCall} {state : OcrState}
    (progress : Progress generator done state) :
    Written generator.serializer.iso state.artifacts := by
  intro row inside
  obtain ⟨artifact, same, -⟩ := progress.owned row inside
  exact ⟨artifact, same⟩

/-- Every row of the table is one that lookups show. -/
theorem Progress.shown {done : List GenerateCall} {state : OcrState}
    (progress : Progress generator done state) {row : ArtifactRow}
    (inside : row ∈ state.artifacts.rows) : SqliteArtifactRepositoryImpl.shown row = true := by
  obtain ⟨artifact, rfl, request, -, records⟩ := progress.owned row inside
  apply (shown_rowOf artifact).mpr
  rw [records.live]
  decide

/-- A call that returns stores its text, and leaves the files of the other documents. -/
theorem Progress.stored_step {done : List GenerateCall} {state : OcrState}
    (progress : Progress generator done state) {request : GenerateCall}
    (separate : Separate generator (done ++ [request])) {registration : Registration}
    {tree : HostTree} (stored : Stored generator request registration state.tree tree) :
    ∀ other ∈ done ++ [request], ∃ last path data,
      (runsOf other.pair (done ++ [request])).getLast? = some last ∧
      generator.storage.Denotes other.textUri path ∧
      generator.storage.codec.encode "utf-8" last.result.text = .ok data ∧
      TextFile tree path data := by
  intro other inside
  by_cases same : request.pair = other.pair
  · obtain ⟨path, data, denoted, encoded, file⟩ := stored.text
    have uri : request.textUri = other.textUri := textUri_of_pair same
    refine ⟨request, path, data, ?_, uri ▸ denoted, encoded, file⟩
    rw [runsOf_snoc_same same, List.getLast?_concat]
  · have before : other ∈ done := mem_of_other_pair same inside
    obtain ⟨last, path, data, final, denoted, encoded, file⟩ := progress.stored other before
    refine ⟨last, path, data, ?_, denoted, encoded, ?_⟩
    · rw [runsOf_snoc_other same]
      exact final
    · rcases stored.saved path data file with kept | ⟨own, -⟩
      · exact kept
      · have here : request ∈ done ++ [request] := List.mem_append_right done List.mem_cons_self
        exact absurd denoted ((separate request here other inside same).2 path own)

/-- A row that takes the place of the rows at the call's URI. -/
theorem Progress.put {done : List GenerateCall} {state : OcrState}
    (progress : Progress generator done state) {request : GenerateCall}
    (separate : Separate generator (done ++ [request])) {registration : Registration}
    {tree : HostTree} (stored : Stored generator request registration state.tree tree)
    {new : Artifact} (records : Records generator request.textUri
      (runsOf request.pair (done ++ [request])) new)
    (replaces : ∀ row ∈ state.artifacts.rows,
      row.id = new.id ↔ row.storageUri = request.textUri) :
    Progress generator (done ++ [request])
      ⟨state.artifacts.put (rowOf generator.serializer.iso new), tree⟩ := by
  have here : request ∈ done ++ [request] := List.mem_append_right done List.mem_cons_self
  constructor
  · intro row inside
    rcases (state.artifacts.mem_put _ row).mp inside with rfl | ⟨before, other⟩
    · exact ⟨new, rfl, request, here, records⟩
    · obtain ⟨artifact, same, owner, known, kept⟩ := progress.owned row before
      have differs : request.pair ≠ owner.pair := by
        intro pair
        have uri : request.textUri = owner.textUri := textUri_of_pair pair
        apply other
        apply (replaces row before).mpr
        rw [same, uri]
        exact kept.located
      refine ⟨artifact, same, owner, List.mem_append_left _ known, ?_⟩
      rw [runsOf_snoc_other differs]
      exact kept
  · intro other inside
    by_cases same : request.pair = other.pair
    · have uri : request.textUri = other.textUri := textUri_of_pair same
      exact ⟨_, (state.artifacts.mem_put _ _).mpr (.inl rfl), records.located.trans uri⟩
    · have before : other ∈ done := mem_of_other_pair same inside
      obtain ⟨row, stands, uri⟩ := progress.recorded other before
      have apart : row.id ≠ new.id := by
        intro taken
        have shared := (replaces row stands).mp taken
        exact (separate request here other inside same).1 (shared.symm.trans uri)
      exact ⟨row, (state.artifacts.mem_put _ _).mpr (.inr ⟨stands, apart⟩), uri⟩
  · intro first inside second inside' same
    rcases (state.artifacts.mem_put _ first).mp inside with rfl | ⟨before, other⟩
    · rcases (state.artifacts.mem_put _ second).mp inside' with rfl | ⟨before', other'⟩
      · rfl
      · exact absurd ((replaces second before').mpr (same.symm.trans records.located)) other'
    · rcases (state.artifacts.mem_put _ second).mp inside' with rfl | ⟨before', other'⟩
      · exact absurd ((replaces first before).mpr (same.trans records.located)) other
      · exact progress.single first before second before' same
  · exact progress.stored_step separate stored

/-- A call that returns takes the history one run further. -/
theorem Progress.step {done : List GenerateCall} {state : OcrState}
    (progress : Progress generator done state) {request : GenerateCall}
    (separate : Separate generator (done ++ [request])) {answer : OCRArtifactSet}
    (returned : (generator.generateStep state request).1 = .ok answer) :
    Progress generator (done ++ [request]) (generator.generateStep state request).2 := by
  rcases generate_cases progress.written request with
    ⟨exc, tree, -, ended⟩ | ⟨registration, tree, answer, stored,
      ⟨artifact, hidden, fresh, first, ended⟩ | ⟨old, new, inside, located, next, ended⟩⟩
  · rw [ended] at returned
    cases returned
  · rw [ended]
    have vacant : ∀ row ∈ state.artifacts.rows, row.storageUri ≠ request.textUri := by
      intro row stands uri
      have visible := progress.shown stands
      rw [hidden row stands uri] at visible
      cases visible
    have none : runsOf request.pair done = [] := by
      apply List.filter_eq_nil_iff.mpr
      intro other before same
      obtain ⟨row, stands, uri⟩ := progress.recorded other before
      have shared : other.textUri = request.textUri := textUri_of_pair (of_decide_eq_true same)
      exact vacant row stands (uri.trans shared)
    apply progress.put separate stored
    · rw [runsOf_snoc_same rfl, none]
      exact first.records stored.located stored.summed
    · intro row stands
      apply iff_of_false
      · exact (state.artifacts.find?_eq_none_iff artifact.id).mp fresh row stands
      · exact vacant row stands
  · rw [ended]
    obtain ⟨artifact, same, owner, known, kept⟩ := progress.owned _ inside
    have records := kept.of_rowOf same
    have pair : owner.pair = request.pair := by
      by_contra differs
      have apart := separate owner (List.mem_append_left _ known) request
        (List.mem_append_right done List.mem_cons_self) differs
      exact apart.1 (records.located.symm.trans located)
    have uri : owner.textUri = request.textUri := textUri_of_pair pair
    apply progress.put separate stored
    · rw [runsOf_snoc_same rfl, ← pair, ← uri]
      exact next.records stored.summed records
    · intro row stands
      rw [next.same]
      constructor
      · intro taken
        rw [state.artifacts.eq_of_key_eq stands inside taken]
        exact located
      · intro shared
        rw [progress.single row stands _ inside (shared.trans located.symm)]
        rfl

theorem Separate.of_append {front back : List GenerateCall}
    (separate : Separate generator (front ++ back)) : Separate generator front :=
  fun first inside second inside' => separate first (List.mem_append_left back inside) second
    (List.mem_append_left back inside')

/-- Calls that all return take the history through all of them. -/
theorem Progress.run {calls : List GenerateCall} {done : List GenerateCall} {state : OcrState}
    (progress : Progress generator done state) (separate : Separate generator (done ++ calls))
    (returned : ∀ answer ∈ (run generator.generateStep state calls).1, ∃ set, answer = .ok set) :
    Progress generator (done ++ calls) (run generator.generateStep state calls).2 := by
  induction calls generalizing done state with
  | nil =>
      rw [List.append_nil]
      exact progress
  | cons request rest ih =>
      have split : done ++ request :: rest = (done ++ [request]) ++ rest := by
        rw [List.append_assoc]
        rfl
      rw [split] at separate ⊢
      obtain ⟨answer, first⟩ := returned _ List.mem_cons_self
      have next := progress.step separate.of_append first
      exact ih next separate (fun later inside => returned later (List.mem_cons_of_mem _ inside))

/-- Where every document has gone so far, its artifact is in step with its runs. -/
theorem Progress.inStep {calls : List GenerateCall} {state : OcrState}
    (progress : Progress generator calls state) (separate : Separate generator calls)
    {request : GenerateCall} (called : request ∈ calls) :
    ∃ artifact, InStep generator state request.pair (runsOf request.pair calls).length
      artifact := by
  obtain ⟨row, stands, uri⟩ := progress.recorded request called
  obtain ⟨artifact, same, owner, known, records⟩ := progress.owned row stands
  have pair : owner.pair = request.pair := by
    by_contra differs
    have located : row.storageUri = owner.textUri := by
      rw [same]
      exact records.located
    exact (separate owner known request called differs).1 (located.symm.trans uri)
  rw [pair] at records
  have alone : state.artifacts.rows.filter (fun row => row.storageUri = textUriOf request.pair &&
      SqliteArtifactRepositoryImpl.shown row) = [rowOf generator.serializer.iso artifact] := by
    have distinct := (List.Nodup.of_map _ state.artifacts.distinct).filter
      (fun row => row.storageUri = textUriOf request.pair && SqliteArtifactRepositoryImpl.shown row)
    apply List.perm_singleton.mp
    apply (List.perm_ext_iff_of_nodup distinct (List.nodup_singleton _)).mpr
    intro other
    rw [List.mem_filter, List.mem_singleton, Bool.and_eq_true, decide_eq_true_iff, ← same]
    constructor
    · intro matched
      exact progress.single other matched.1 row stands (matched.2.1.trans uri.symm)
    · intro own
      rw [own]
      exact ⟨stands, uri, progress.shown stands⟩
  obtain ⟨last, path, data, final, denoted, encoded, file⟩ := progress.stored request called
  refine ⟨artifact.restored, ?_, records.counted, records.numbered, ?_, records.latest⟩
  · rw [alone, List.mapM_cons, toDomain_rowOf]
    rfl
  · obtain ⟨newest, final', summed⟩ := records.summed
    cases final.symm.trans final'
    exact ⟨last.result.text, data, encoded,
      (generator.storage.load_ok_iff).mpr ⟨path, denoted, file.1⟩, summed⟩

/-- After any calls that all return, each document that was run has its one artifact in step, over
any files, where the ids hold no slash, a document is in one workspace, and not both the empty id
and the dot are used. -/
theorem runs_in_step (tree : HostTree) {calls : List GenerateCall} (named : Named calls)
    (returned : ∀ answer ∈ (run generator.generateStep ⟨Keyed.empty, tree⟩ calls).1,
      ∃ set, answer = .ok set)
    {pair : String × String} (called : runsOf pair calls ≠ []) :
    ∃ artifact, InStep generator (run generator.generateStep ⟨Keyed.empty, tree⟩ calls).2 pair
      (runsOf pair calls).length artifact := by
  have separate : Separate generator calls := named.separate generator
  have progress := (progress_start generator tree).run separate returned
  obtain ⟨request, inside⟩ := List.exists_mem_of_ne_nil _ called
  obtain ⟨member, own⟩ := List.mem_filter.mp inside
  rw [← of_decide_eq_true own]
  exact progress.inStep separate member

theorem runs_in_step_twice :
    ∃ artifact, InStep sampleGenerator (run sampleGenerator.generateStep
      ⟨Keyed.empty, sampleTree⟩ [sampleCall "d1" "a" "x1", sampleCall "d1" "b" "x2"]).2
      ("alpha", "d1") 2 artifact := by
  have named : Named [sampleCall "d1" "a" "x1", sampleCall "d1" "b" "x2"] := by
    constructor
    · decide
    · decide
    · decide
    · decide
  have every : (run sampleGenerator.generateStep ⟨Keyed.empty, sampleTree⟩
      [sampleCall "d1" "a" "x1", sampleCall "d1" "b" "x2"]).1.all Except.isOk = true := by
    decide +kernel
  have called : runsOf ("alpha", "d1") [sampleCall "d1" "a" "x1", sampleCall "d1" "b" "x2"] ≠ [] :=
    List.cons_ne_nil _ _
  exact runs_in_step sampleTree named
    (fun answer inside => (isOk_iff answer).mp (List.all_eq_true.mp every answer inside)) called

/-- A run of the document of the empty id, and one of the document of the dot. -/
def unnamedRuns : List GenerateCall := [sampleCall "" "a" "x1", sampleCall "." "b" "x2"]

/-- Both runs return; then the text of the second is loaded for the first, whose artifact still
has the checksum of its own. -/
theorem unnamedRuns_end :
    (run sampleGenerator.generateStep ⟨Keyed.empty, sampleTree⟩ unnamedRuns).1.all
        Except.isOk = true ∧
      (call (sampleGenerator.storage.load (textUriOf ("alpha", "")))
        (run sampleGenerator.generateStep ⟨Keyed.empty, sampleTree⟩ unnamedRuns).2.tree).1 =
          .ok [98] ∧
      (((run sampleGenerator.generateStep ⟨Keyed.empty, sampleTree⟩
          unnamedRuns).2.artifacts.rows.filter
        (fun row => row.storageUri = textUriOf ("alpha", "") &&
          SqliteArtifactRepositoryImpl.shown row)).mapM
            (toDomain sampleGenerator.serializer.iso)).map
        (fun artifacts => artifacts.map Artifact.checksum) =
      .ok ["ca978112ca1bbdcafac231b39a23dc4da786eff8147c4e72b9807785afee48bb"] := by
  decide +kernel

/-- The documents of the empty id and of the dot share their files: the second run replaces the
text of the first. -/
theorem runs_out_of_step :
    ¬ ∀ (tree : HostTree) (calls : List GenerateCall),
      (∀ request ∈ calls, '/' ∉ request.workspaceId.toList) →
      (∀ request ∈ calls, '/' ∉ request.documentId.toList) →
      (∀ first ∈ calls, ∀ second ∈ calls, first.documentId = second.documentId →
        first.workspaceId = second.workspaceId) →
      (∀ answer ∈ (run sampleGenerator.generateStep ⟨Keyed.empty, tree⟩ calls).1,
        ∃ set, answer = .ok set) →
      ∀ pair, runsOf pair calls ≠ [] → ∃ artifact, InStep sampleGenerator
        (run sampleGenerator.generateStep ⟨Keyed.empty, tree⟩ calls).2 pair
        (runsOf pair calls).length artifact := by
  intro holds
  obtain ⟨every, now, kept⟩ := unnamedRuns_end
  have called : runsOf ("alpha", "") unnamedRuns ≠ [] := List.cons_ne_nil _ _
  obtain ⟨artifact, inStep⟩ := holds sampleTree unnamedRuns (by decide) (by decide) (by decide)
    (fun answer inside => (isOk_iff answer).mp (List.all_eq_true.mp every answer inside))
    ("alpha", "") called
  obtain ⟨text, data, encoded, loaded, summed⟩ := inStep.stored
  have differs : sampleGenerator.storage.codec.computeChecksum [98] "sha256" ≠
      .ok "ca978112ca1bbdcafac231b39a23dc4da786eff8147c4e72b9807785afee48bb" := by
    decide +kernel
  rw [inStep.only] at kept
  have sum := (List.cons.inj (Except.ok.inj kept)).1
  rw [loaded] at now
  cases now
  rw [checksum_of_encoded encoded, sum] at summed
  exact differs summed

end Runs

end LexMind.Ocr
