import LexMind.Ingestion.Announcements
import LexMind.PosixPath
import LexMind.Storage.Listing

set_option autoImplicit false

/- The original of every imported document is where the service puts it, with the digest that its
row records, and later imports leave it there. -/
namespace LexMind.Ingestion

open Lib Documents Storage

/-- The ids that the documents of a call get. -/
def ImportCall.ids : ImportCall → List String
  | .importFile _ made _ _ _ => [made.id]
  | .importFolder _ _ files => files.map (fun file => file.1.id)

/-- A call of a service without a bus. -/
def importStep (service : ImportService) (state : ImportState) (importCall : ImportCall) :
    Except PyExc (List (Document service.text)) × ImportState :=
  let ended := call (importCall.program service) ⟨state, none⟩
  (ended.1, ended.2.service)

namespace ImportService

/-- The original of the row is stored, with the digest of the row. -/
def Backed (service : ImportService) (tree : HostTree) (row : DocumentRow) : Prop :=
  ∃ name data, row.filePath = some name ∧ row.fileHash = some (service.sha1 data) ∧
    service.storage.Holds (service.buildUri row.id name) data tree

/-- The id and the file name of the row can name a directory and a file. -/
def Filed (row : DocumentRow) : Prop :=
  LegalName row.id.toList ∧ ∃ name, row.filePath = some name ∧ LegalName name.toList

variable {service : ImportService}

section Locations

/-- A URI without a workspace is not read. -/
theorem parseUri_nameless (path : List Char) : ∃ exc, parseUri (uriOf [] path) = .error exc := by
  unfold parseUri
  split
  · exact ⟨_, rfl⟩
  · split
    · exact ⟨_, rfl⟩
    · rw [uriOf, String.toList_ofList, List.append_nil, List.drop_left]
      exact ⟨_, rfl⟩

/-- The path of a URI of an original ends in the id and the name; what is before them is the same
for all. -/
theorem exists_front (service : ImportService) :
    ∃ front : List Char, front ≠ [] ∧ ∀ id name rel,
      extractPath (service.buildUri id name) = .ok rel →
        rel = front ++ '/' :: id.toList ++ '/' :: name.toList := by
  have slash : '/' ∈ (service.workspaceId ++ "/originals").toList := by
    rw [String.toList_append]
    exact List.mem_append_right _ (by decide)
  obtain ⟨workspace, front, split, segment⟩ := List.eq_append_cons_of_mem slash
  have strict : front ≠ [] := by
    rintro rfl
    have last := congrArg List.getLast? split
    rw [String.toList_append, List.getLast?_append_of_ne_nil _ (by decide),
      List.getLast?_append_of_ne_nil _ (by decide)] at last
    exact absurd last (by decide)
  refine ⟨front, strict, fun id name rel parsed => ?_⟩
  have uri : service.buildUri id name =
      uriOf workspace (front ++ '/' :: id.toList ++ '/' :: name.toList) := by
    have written : (service.buildUri id name).toList = schemePrefix ++
        ((service.workspaceId ++ "/originals").toList ++ '/' :: id.toList ++ '/' :: name.toList) := by
      have folder : "/originals/".toList = "/originals".toList ++ ['/'] := by decide
      have slash : "/".toList = ['/'] := by decide
      simp only [buildUri, String.toList_append, folder, slash, List.append_assoc,
        List.cons_append, List.nil_append]
      rfl
    apply String.toList_inj.mp
    rw [uriOf, String.toList_ofList, written, split]
    simp only [List.append_assoc, List.cons_append]
  rw [uri, extractPath] at parsed
  by_cases named : workspace = []
  · subst named
    obtain ⟨exc, refused⟩ := parseUri_nameless (front ++ '/' :: id.toList ++ '/' :: name.toList)
    rw [refused] at parsed
    cases parsed
  · rw [parseUri_uriOf named segment] at parsed
    cases parsed
    rfl

/-- What a URI of an original denotes has the id and the name as its last components. -/
theorem exists_vault (service : ImportService) :
    ∃ vault : HostPath, ∀ id name path, LegalName id.toList → LegalName name.toList →
      service.storage.Denotes (service.buildUri id name) path →
        path = vault ++ [id.toList, name.toList] := by
  obtain ⟨front, strict, ends⟩ := exists_front service
  refine ⟨HostPath.locate service.storage.provider.root front, ?_⟩
  rintro id name path legal legal' ⟨rel, parsed, resolved⟩
  obtain ⟨-, -, located⟩ := resolve_ok_iff.mp resolved
  rw [← located, ends id name rel parsed, HostPath.locate_append_name _ (by simp [strict])
    legal'.some legal'.current legal'.parent legal'.slashless,
    HostPath.locate_append_name _ strict legal.some legal.current legal.parent legal.slashless,
    List.append_assoc]
  rfl

end Locations

section Steps

/-- What a call that makes documents of these ids does to the table and to the originals. -/
structure Grown (service : ImportService) (ids : List String) (before after : ImportState) :
    Prop where
  kept : ∀ row ∈ before.documents.rows, row ∈ after.documents.rows
  made : ∀ row ∈ after.documents.rows, row ∉ before.documents.rows →
    row.id ∈ ids ∧ Filed row ∧ service.Backed after.tree row
  safe : ∀ row, Filed row → row.id ∉ ids → service.Backed before.tree row →
    service.Backed after.tree row

theorem Grown.refl (ids : List String) (state : ImportState) : service.Grown ids state state where
  kept _ inside := inside
  made _ inside outside := absurd inside outside
  safe _ _ _ backed := backed

theorem Grown.trans {first second : List String} {before middle after : ImportState}
    (early : service.Grown first before middle) (late : service.Grown second middle after)
    (apart : ∀ id ∈ first, id ∉ second) : service.Grown (first ++ second) before after where
  kept row inside := late.kept row (early.kept row inside)
  made row inside outside := by
    by_cases there : row ∈ middle.documents.rows
    · obtain ⟨named, filed, backed⟩ := early.made row there outside
      exact ⟨List.mem_append_left _ named, filed, late.safe row filed (apart _ named) backed⟩
    · obtain ⟨named, filed, backed⟩ := late.made row inside there
      exact ⟨List.mem_append_right _ named, filed, backed⟩
  safe row filed outside backed := by
    rw [List.mem_append, not_or] at outside
    exact late.safe row filed outside.2 (early.safe row filed outside.1 backed)

theorem FilePath.value_of {value : String} {path : FilePath} (taken : FilePath.of value = .ok path) :
    path.value = value := by
  unfold FilePath.of at taken
  repeat' split at taken
  · cases taken
  · cases taken
  · cases taken
  · cases taken
    rfl

theorem newDocument_filed {made : Made} {filePath title : String} {fileData : Bytes}
    {isDuplicate : Bool} {doc : Document service.text}
    (built : service.newDocument made filePath title (service.sha1 fileData) isDuplicate =
      .ok doc) :
    (rowOf doc).id = made.id ∧ (rowOf doc).filePath = some (nameOf filePath) ∧
      (rowOf doc).fileHash = some (service.sha1 fileData) ∧ nameOf filePath ≠ "" ∧
        hasDotDot (nameOf filePath).toList = false := by
  have hash : FileHash.of (service.sha1 fileData) = .ok ⟨_, service.sha1_hex fileData⟩ :=
    dif_pos (service.sha1_hex fileData)
  unfold newDocument at built
  obtain ⟨path, taken, built⟩ := returned_of_bind built
  have value := FilePath.value_of taken
  rw [hash] at built
  simp only [bind, Except.bind] at built
  split at built
  · cases built
  · cases built
    refine ⟨rfl, congrArg some value, rfl, ?_, ?_⟩
    · exact value ▸ path.nonempty
    · exact value ▸ path.inside

/-- The name under which an original is stored can name a file. -/
theorem legal_nameOf {filePath id : String} (nonempty : nameOf filePath ≠ "")
    (inside : hasDotDot (nameOf filePath).toList = false) {path : HostPath}
    (denoted : service.storage.Denotes (service.buildUri id (nameOf filePath)) path) :
    LegalName (nameOf filePath).toList := by
  obtain ⟨rel, parsed, resolved⟩ := denoted
  obtain ⟨null, -, -⟩ := resolve_ok_iff.mp resolved
  obtain ⟨front, -, ends⟩ := exists_front service
  have part : (nameOf filePath).toList ∈ PurePath.parts filePath.toList := by
    rw [nameOf, String.toList_ofList, PurePath.name]
    rcases List.eq_nil_or_concat' (PurePath.parts filePath.toList) with none | ⟨parts, last, some⟩
    · refine absurd ?_ nonempty
      rw [nameOf, PurePath.name, none]
      rfl
    · rw [some]
      simp
  obtain ⟨proper, current, slashless⟩ := PurePosixPath.clean_parts filePath.toList _ part
  refine ⟨proper, current, ?_, slashless, fun zero => null ?_⟩
  · intro parent
    rw [parent] at inside
    exact absurd inside (by decide)
  · rw [ends _ _ rel parsed]
    exact List.mem_append_right _ (List.mem_cons_of_mem _ zero)

/-- The file of an original touches no other's. -/
theorem Backed.wrote {tree : HostTree} {path : HostPath} {data : Bytes} {id name : String}
    (legal : LegalName id.toList) (legal' : LegalName name.toList)
    (denoted : service.storage.Denotes (service.buildUri id name) path)
    (writable : Writable tree path) {row : DocumentRow} (filed : Filed row) (differs : row.id ≠ id)
    (backed : service.Backed tree row) : service.Backed (wrote tree path data) row := by
  obtain ⟨name', stored, named, digest, held⟩ := backed
  obtain ⟨other, denotes, stands⟩ := service.storage.load_ok_iff.mp held
  obtain ⟨vault, within⟩ := exists_vault service
  obtain ⟨legalId, _, named', legalName⟩ := filed
  cases named.symm.trans named'
  have outside : ¬ other <+: path := by
    rw [within id name path legal legal' denoted, within row.id name' other legalId legalName denotes]
    intro above
    have next := (List.prefix_append_right_inj vault).mp above
    exact differs (String.toList_inj.mp (List.cons_prefix_cons.mp next).1)
  refine ⟨name', stored, named, digest, service.storage.load_ok_iff.mpr ⟨other, denotes, ?_⟩⟩
  rw [wrote_frame writable outside]
  exact stands

/-- An import of an unused id changes nothing, or it stores one original and one row. -/
theorem importFile_cases (scan : Arrangement DocumentRow) {made : Made} (filePath : String)
    (fileData : Bytes) (title : String) {state : ImportState}
    (unused : state.documents.contains made.id = false) :
    (∃ exc, call (service.importFile scan made filePath fileData title) ⟨state, none⟩ =
      (.error exc, ⟨state, none⟩)) ∨
    ∃ doc path isDuplicate,
      service.newDocument made filePath title (service.sha1 fileData) isDuplicate = .ok doc ∧
      service.storage.Denotes (service.buildUri made.id (nameOf filePath)) path ∧
      Writable state.tree path ∧
      call (service.importFile scan made filePath fileData title) ⟨state, none⟩ =
        (.ok doc, ⟨⟨state.documents.put (rowOf doc), wrote state.tree path fileData⟩, none⟩) := by
  rw [importFile, call_bind, Events.emit_without_bus, andThen_ok]
  dsimp only
  rw [call_ite]
  split
  · exact .inl ⟨_, rfl⟩
  have reads := @findByHash_reads service.text scan (service.sha1 fileData) state.documents
  rw [call_bind, call_onRepo, reads]
  rcases (call (SqliteDocumentRepositoryImpl.findByHash service.text scan
    (service.sha1 fileData)) state.documents).1 with exc | found
  · exact .inl ⟨exc, rfl⟩
  rw [andThen_ok, call_bind, call_check]
  cases built : service.newDocument made filePath title (service.sha1 fileData) found.isSome with
  | error exc => exact .inl ⟨exc, rfl⟩
  | ok doc =>
      have same : doc.id = made.id := (newDocument_filed built).1
      rw [andThen_ok, call_bind, call_onStorage, same]
      by_cases takes : service.storage.Takes (service.buildUri made.id (nameOf filePath)) state.tree
      · obtain ⟨path, denoted, writable⟩ := takes
        refine .inr ⟨doc, path, _, built, denoted, writable, ?_⟩
        have created : call (SqliteDocumentRepositoryImpl.create doc) state.documents =
            (.ok doc, state.documents.put (rowOf doc)) := by
          simp [SqliteDocumentRepositoryImpl.create, same, unused]
        rw [StorageManager.call_save_takes denoted writable, andThen_ok, call_bind, call_onRepo,
          created, andThen_ok, call_bind, Events.emit_without_bus, andThen_ok, call_bind,
          Events.emit_without_bus, andThen_ok, call_pure]
      · obtain ⟨exc, refused⟩ := StorageManager.call_save_refused takes fileData
        rw [refused]
        exact .inl ⟨exc, rfl⟩

/-- The table grows by the row, backed by the original. -/
theorem stored_grown {made : Made} {filePath title : String} {fileData : Bytes}
    {isDuplicate : Bool} {state : ImportState} {doc : Document service.text} {path : HostPath}
    (legal : LegalName made.id.toList) (unused : state.documents.contains made.id = false)
    (built : service.newDocument made filePath title (service.sha1 fileData) isDuplicate = .ok doc)
    (denoted : service.storage.Denotes (service.buildUri made.id (nameOf filePath)) path)
    (writable : Writable state.tree path) :
    service.Grown [made.id] state
      ⟨state.documents.put (rowOf doc), wrote state.tree path fileData⟩ := by
  obtain ⟨sameId, named, digest, nonempty, inside⟩ := newDocument_filed built
  have legal' := legal_nameOf nonempty inside denoted
  have fresh : state.documents.contains (rowOf doc).id = false := by
    rw [sameId]
    exact unused
  have rows := state.documents.rows_put_fresh (rowOf doc) fresh
  constructor
  · intro row old
    rw [rows]
    exact List.mem_append_left _ old
  · intro row new outside
    rw [rows] at new
    have last := List.mem_singleton.mp ((List.mem_append.mp new).resolve_left outside)
    subst last
    refine ⟨List.mem_singleton.mpr sameId, ⟨sameId ▸ legal, _, named, legal'⟩, _, fileData, named,
      digest, ?_⟩
    rw [sameId]
    exact service.storage.load_ok_iff.mpr ⟨path, denoted, wrote_self writable⟩
  · intro row filed outside backed
    exact backed.wrote legal legal' denoted writable filed
      (fun same => outside (List.mem_singleton.mpr same))

/-- The ids are good for new documents. -/
structure Unused (ids : List String) (state : ImportState) : Prop where
  distinct : ids.Nodup
  legal : ∀ id ∈ ids, LegalName id.toList
  free : ∀ id ∈ ids, state.documents.contains id = false

/-- What is used up leaves the other ids good. -/
theorem Grown.unused {first second : List String} {before after : ImportState}
    (grown : service.Grown first before after) (ready : Unused (first ++ second) before) :
    Unused second after := by
  obtain ⟨distinct, legal, free⟩ := ready
  obtain ⟨-, distinct', apart⟩ := List.nodup_append.mp distinct
  refine ⟨distinct', fun id inside => legal id (List.mem_append_right _ inside), ?_⟩
  intro id inside
  rw [Keyed.contains, Option.isSome_eq_false_iff, Option.isNone_iff_eq_none,
    Keyed.find?_eq_none_iff]
  intro row there same
  by_cases old : row ∈ before.documents.rows
  · have gone := free id (List.mem_append_right _ inside)
    rw [Keyed.contains, Option.isSome_eq_false_iff, Option.isNone_iff_eq_none,
      Keyed.find?_eq_none_iff] at gone
    exact gone row old same
  · exact apart _ (grown.made row there old).1 id inside same

/-- What a program that makes documents of these ids leaves. -/
def Grows (service : ImportService) (ids : List String)
    (program : ImportPy (List (Document service.text))) (state : ImportState) : Prop :=
  ∃ answer after, call program ⟨state, none⟩ = (answer, ⟨after, none⟩) ∧
    service.Grown ids state after ∧
    ∀ docs, answer = .ok docs → ∀ doc ∈ docs, rowOf doc ∈ after.documents.rows

theorem importFile_grows (scan : Arrangement DocumentRow) {made : Made} (filePath : String)
    (fileData : Bytes) (title : String) {state : ImportState} (unused : Unused [made.id] state) :
    service.Grows [made.id]
      ((fun doc => [doc]) <$> service.importFile scan made filePath fileData title) state := by
  have legal := unused.legal made.id (List.mem_singleton_self _)
  have free := unused.free made.id (List.mem_singleton_self _)
  unfold Grows
  rw [call_map]
  rcases importFile_cases scan filePath fileData title free with
    ⟨exc, ended⟩ | ⟨doc, path, flag, built, denoted, writable, ended⟩
  · rw [ended]
    exact ⟨_, _, rfl, .refl _ _, nofun⟩
  · rw [ended]
    refine ⟨_, _, rfl, stored_grown legal free built denoted writable, ?_⟩
    rintro docs same doc' inside
    cases same
    rw [List.mem_singleton.mp inside]
    exact (Keyed.mem_put _ _ _).mpr (.inl rfl)

/-- The files before the one that fails are imported. -/
theorem importFolder_grows (scan : Arrangement DocumentRow) (folderPath : String)
    (files : List (Made × String × Bytes)) {state : ImportState}
    (unused : Unused (files.map (fun file => file.1.id)) state) :
    service.Grows (files.map (fun file => file.1.id))
      (service.importFolder scan folderPath files) state := by
  induction files generalizing state with
  | nil =>
      refine ⟨_, _, rfl, .refl _ _, ?_⟩
      rintro docs same doc inside
      cases same
      cases inside
  | cons file rest ih =>
      obtain ⟨made, relPath, data⟩ := file
      have split : ((made, relPath, data) :: rest).map (fun file => file.1.id) =
          [made.id] ++ rest.map (fun file => file.1.id) := rfl
      rw [split] at unused ⊢
      have free := unused.free made.id (List.mem_append_left _ (List.mem_singleton_self _))
      have legal := unused.legal made.id (List.mem_append_left _ (List.mem_singleton_self _))
      unfold Grows
      rw [importFolder, call_bind]
      rcases importFile_cases scan (folderPath ++ "/" ++ relPath) data "" free with
        ⟨exc, ended⟩ | ⟨doc, path, flag, built, denoted, writable, ended⟩
      · rw [ended]
        exact ⟨_, _, rfl, .refl _ _, nofun⟩
      · have grown := stored_grown legal free built denoted writable
        obtain ⟨answer, after, ran, later, stored⟩ := ih (grown.unused unused)
        have apart : ∀ id ∈ [made.id], id ∉ rest.map (fun file => file.1.id) := fun id named inside =>
          (List.nodup_append.mp unused.distinct).2.2 id named id inside rfl
        have there : rowOf doc ∈ after.documents.rows :=
          later.kept _ ((Keyed.mem_put _ _ _).mpr (.inl rfl))
        rw [ended, andThen_ok, call_bind, ran]
        cases answer with
        | error exc => exact ⟨_, _, rfl, grown.trans later apart, nofun⟩
        | ok documents =>
            refine ⟨_, _, rfl, grown.trans later apart, ?_⟩
            rintro docs same doc' inside
            cases same
            rcases List.mem_cons.mp inside with rfl | other
            · exact there
            · exact stored documents rfl doc' other

theorem importCall_grows (importCall : ImportCall) {state : ImportState}
    (unused : Unused importCall.ids state) :
    service.Grows importCall.ids (importCall.program service) state := by
  cases importCall with
  | importFile scan made filePath fileData title =>
      exact importFile_grows scan filePath fileData title unused
  | importFolder scan folderPath files => exact importFolder_grows scan folderPath files unused

/-- A run of imports of unused ids. -/
theorem run_grown (calls : List ImportCall) {state : ImportState}
    (unused : Unused (calls.flatMap ImportCall.ids) state) :
    service.Grown (calls.flatMap ImportCall.ids) state
        (run (importStep service) state calls).2 ∧
      ∀ docs, .ok docs ∈ (run (importStep service) state calls).1 → ∀ doc ∈ docs,
        rowOf doc ∈ (run (importStep service) state calls).2.documents.rows := by
  induction calls generalizing state with
  | nil => exact ⟨.refl _ _, nofun⟩
  | cons importCall rest ih =>
      rw [List.flatMap_cons] at unused ⊢
      obtain ⟨distinct, legal, free⟩ := unused
      have first : Unused importCall.ids state :=
        ⟨(List.nodup_append.mp distinct).1, fun id inside => legal id (List.mem_append_left _ inside),
          fun id inside => free id (List.mem_append_left _ inside)⟩
      obtain ⟨answer, after, ran, grown, stored⟩ := @importCall_grows service importCall _ first
      have step : importStep service state importCall = (answer, after) := by
        rw [importStep, ran]
      obtain ⟨later, stored'⟩ := ih (grown.unused ⟨distinct, legal, free⟩)
      have apart : ∀ id ∈ importCall.ids, id ∉ rest.flatMap ImportCall.ids := fun id named inside =>
        (List.nodup_append.mp distinct).2.2 id named id inside rfl
      rw [run, step]
      refine ⟨grown.trans later apart, fun docs inside doc named => ?_⟩
      rcases List.mem_cons.mp inside with same | other
      · exact later.kept _ (stored docs same.symm doc named)
      · exact stored' docs other doc named

end Steps

/-- However the imports end: the rows there are stay, every new row has its original stored with the
digest it records, originals that were stored stay, and every document returned is in the table. -/
theorem imports_backed (service : ImportService) (state : ImportState) (calls : List ImportCall)
    (unused : Unused (calls.flatMap ImportCall.ids) state) :
    let final := (run (importStep service) state calls).2
    (∀ row ∈ state.documents.rows, row ∈ final.documents.rows) ∧
      (∀ row ∈ final.documents.rows, row ∈ state.documents.rows ∨ service.Backed final.tree row) ∧
      (∀ row ∈ state.documents.rows, Filed row → service.Backed state.tree row →
        service.Backed final.tree row) ∧
      ∀ docs, .ok docs ∈ (run (importStep service) state calls).1 → ∀ doc ∈ docs,
        rowOf doc ∈ final.documents.rows ∧
          final.documents.find? doc.id = some (rowOf doc) := by
  intro final
  obtain ⟨grown, stored⟩ := @run_grown service calls state unused
  refine ⟨grown.kept, fun row inside => ?_, fun row inside filed backed => ?_, ?_⟩
  · by_cases old : row ∈ state.documents.rows
    · exact .inl old
    · exact .inr (grown.made row inside old).2.2
  · refine grown.safe row filed (fun named => ?_) backed
    have free := unused.free row.id named
    rw [Keyed.contains, Keyed.find?_of_mem _ inside] at free
    cases free
  · intro docs inside doc named
    have there := stored docs inside doc named
    exact ⟨there, Keyed.find?_of_mem final.documents there⟩

/-- An empty table, and an empty `/data`. -/
def blank : ImportState := ⟨Keyed.empty, FileTree.empty.makeDirs ["data".toList]⟩

/-- A file twice, alone and in a folder, and one of no supported format. -/
def arrivals : List ImportCall :=
  [.importFile .asStored ⟨"d1", 1, 1⟩ "in/notes.txt" [1] "",
    .importFolder .asStored "in" [(⟨"d2", 2, 2⟩, "notes.txt", [1]), (⟨"d3", 3, 3⟩, "x", [1])]]

/-- The second import of the file has an original of its own. -/
theorem imports_backed_twice :
    ∃ row ∈ (run (importStep desk) blank arrivals).2.documents.rows, row.id = "d2" ∧
      desk.Backed (run (importStep desk) blank arrivals).2.tree row := by
  have legal : ∀ id ∈ ["d1", "d2", "d3"], LegalName id.toList := by
    intro id named
    simp only [List.mem_cons, List.not_mem_nil, or_false] at named
    rcases named with rfl | rfl | rfl
    · exact ⟨by decide, by decide, by decide, by decide, by decide⟩
    · exact ⟨by decide, by decide, by decide, by decide, by decide⟩
    · exact ⟨by decide, by decide, by decide, by decide, by decide⟩
  have unused : Unused (arrivals.flatMap ImportCall.ids) blank :=
    ⟨by decide, legal, fun _ _ => rfl⟩
  have there : ((run (importStep desk) blank arrivals).2.documents.find? "d2").isSome = true := by
    decide +kernel
  obtain ⟨row, found⟩ := Option.isSome_iff_exists.mp there
  have inside := Keyed.mem_of_find? found
  refine ⟨row, inside, Keyed.key_of_find? found, ?_⟩
  exact ((imports_backed desk blank arrivals unused).2.1 row inside).resolve_left List.not_mem_nil

end ImportService

end LexMind.Ingestion
