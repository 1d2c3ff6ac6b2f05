import LexMind.Events.Transparency
import LexMind.Ingestion.ImportAtomicity

set_option autoImplicit false

/- An import begins with an event, so that a service with a bus raises at every file. -/
namespace LexMind.Ingestion

open Lib Events Documents Storage

/-- The calls of the service. -/
inductive ImportCall
  | importFile (scan : Arrangement DocumentRow) (made : Made) (filePath : String)
      (fileData : Bytes) (title : String)
  | importFolder (scan : Arrangement DocumentRow) (folderPath : String)
      (files : List (Made × String × Bytes))

def ImportCall.program (service : ImportService) :
    ImportCall → ImportPy (List (Document service.text))
  | .importFile scan made filePath fileData title =>
      (fun doc => [doc]) <$> service.importFile scan made filePath fileData title
  | .importFolder scan folderPath files => service.importFolder scan folderPath files

/-- The call imports no file. -/
def ImportCall.Quiet : ImportCall → Prop
  | .importFile .. => False
  | .importFolder _ _ files => files = []

section Checks

variable {text : TextMethods}

theorem enumOf_mild {α : Type} (className : String) (members : List α) (value : α → String)
    (raw : String) : Mild (enumOf className members value raw) := by
  unfold enumOf
  split
  · exact .ok _
  · exact .error trivial

theorem FileHash.of_mild (value : String) : Mild (FileHash.of value) := by
  unfold FileHash.of
  split
  · exact .ok _
  · exact .error trivial

theorem FilePath.of_mild (value : String) : Mild (FilePath.of value) := by
  unfold FilePath.of
  repeat' split
  · exact .error trivial
  · exact .error trivial
  · exact .error trivial
  · exact .ok _

theorem Language.of_mild (value : String) : Mild (Language.of text value) := by
  unfold Language.of
  repeat' split
  · exact .ok _
  · exact .error trivial
  · exact .error trivial

theorem whenGiven_mild {α : Type} {of : String → Except PyExc α} (mild : ∀ value, Mild (of value))
    (column : Option String) : Mild (whenGiven column of) := by
  cases column with
  | none => exact .ok _
  | some value =>
      unfold whenGiven
      dsimp only
      split
      · exact .ok _
      · exact (mild value).map some

theorem toDomain_mild (row : DocumentRow) :
    Mild (SqliteDocumentRepositoryImpl.toDomain text row) := by
  refine (whenGiven_mild FilePath.of_mild _).bind fun _ => ?_
  refine (whenGiven_mild FileHash.of_mild _).bind fun _ => ?_
  refine (whenGiven_mild Language.of_mild _).bind fun _ => ?_
  refine (enumOf_mild _ _ _ _).bind fun _ => (enumOf_mild _ _ _ _).bind fun _ => ?_
  refine (enumOf_mild _ _ _ _).bind fun _ => ?_
  unfold documentOf
  split
  · exact .error trivial
  · exact .ok _

end Checks

section Storing

theorem extractPath_mild (uri : String) : Mild (extractPath uri) := by
  have parses : Mild (parseUri uri) := by
    unfold parseUri
    dsimp only
    repeat' split
    · exact .error trivial
    · exact .error trivial
    · exact .error trivial
    · exact .error trivial
    · exact .ok _
  exact parses.bind fun _ => .ok _

theorem resolve_mild (provider : FilesystemStorageProvider) (rel : List Char) :
    Mild (provider.resolve rel) := by
  unfold FilesystemStorageProvider.resolve
  dsimp only
  repeat' split
  · exact .error trivial
  · exact .ok _
  · exact .error trivial

theorem writeBytes_tame (provider : FilesystemStorageProvider) (path : List Char) (data : Bytes) :
    Tame (provider.writeBytes path data) := by
  have makes (directory : HostPath) : Tame (Host.mkdir directory) :=
    RaisesOnly.get.bind fun _ => .ite (.throw trivial) (.ite (.throw trivial) (Tame.set _))
  refine RaisesOnly.bind (.check (resolve_mild provider path)) fun resolved => ?_
  refine (makes _).bind fun _ => RaisesOnly.get.bind fun _ => ?_
  exact .ite (.throw trivial) (Tame.set _)

theorem save_tame (manager : StorageManager) (uri : String) (data : Bytes) :
    Tame (manager.save uri data) :=
  RaisesOnly.bind (.check (extractPath_mild uri)) fun path => writeBytes_tame _ path data

end Storing

section Imports

variable (service : ImportService) (scan : Arrangement DocumentRow)

theorem onRepo_plain {α : Type} {program : Py DocumentTable α} (tame : Tame program) :
    Plain (onRepo program) := Plain.onPart (fun _ _ => rfl) tame

theorem onStorage_plain {α : Type} {program : Py HostTree α} (tame : Tame program) :
    Plain (onStorage program) := Plain.onPart (fun _ _ => rfl) tame

theorem findByHash_tame {text : TextMethods} (fileHash : String) :
    Tame (SqliteDocumentRepositoryImpl.findByHash text scan fileHash) := by
  refine RaisesOnly.get.bind fun table => ?_
  split
  · exact .pure _
  · exact RaisesOnly.bind (.check (toDomain_mild _)) fun _ => .pure _

theorem create_tame {text : TextMethods} (document : Document text) :
    Tame (SqliteDocumentRepositoryImpl.create document) := by
  refine RaisesOnly.get.bind fun _ => .ite (.throw_bind trivial) ?_
  exact .bind (.modify fun _ _ => trivial) fun _ => .pure _

theorem newDocument_mild (made : Made) (filePath title fileHash : String) (isDuplicate : Bool) :
    Mild (service.newDocument made filePath title fileHash isDuplicate) := by
  refine (FilePath.of_mild _).bind fun _ => (FileHash.of_mild _).bind fun _ => ?_
  split
  · exact .error trivial
  · exact .ok _

theorem importFile_plain (made : Made) (filePath : String) (fileData : Bytes) (title : String) :
    Plain (service.importFile scan made filePath fileData title) := by
  refine (Plain.emit _).bind fun _ => .ite (.throw_bind trivial) ?_
  refine (onRepo_plain (findByHash_tame scan _)).bind fun existing => ?_
  refine RaisesOnly.bind (.check (newDocument_mild service _ _ _ _ _)) fun doc => ?_
  refine (onStorage_plain (save_tame _ _ _)).bind fun _ => ?_
  refine (onRepo_plain (create_tame doc)).bind fun _ => ?_
  exact (Plain.emit _).bind fun _ => (Plain.emit _).bind fun _ => .pure _

theorem importFolder_plain (folderPath : String) (files : List (Made × String × Bytes)) :
    Plain (service.importFolder scan folderPath files) := by
  induction files with
  | nil => exact .pure _
  | cons file rest ih =>
      exact (importFile_plain service scan _ _ _ _).bind fun _ => ih.bind fun _ => .pure _

theorem importFile_announces (made : Made) (filePath : String) (fileData : Bytes) (title : String)
    (state : ImportState) :
    Announces (service.importFile scan made filePath fileData title) state :=
  fun bus => ⟨"ImportStarted", "name", by rw [ImportService.importFile_with_bus]⟩

end Imports

section Classification

variable {service : ImportService} {state : ImportState} {made : ImportCall}

theorem ImportCall.plain (made : ImportCall) : Plain (made.program service) := by
  cases made with
  | importFile scan made filePath fileData title =>
      exact (importFile_plain service scan made filePath fileData title).map _
  | importFolder scan folderPath files => exact importFolder_plain service scan folderPath files

theorem ImportCall.busFree (quiet : made.Quiet) : BusFree (made.program service) state := by
  cases made with
  | importFile => exact quiet.elim
  | importFolder scan folderPath files =>
      cases quiet
      exact .returned _

theorem ImportCall.announces (heard : ¬ made.Quiet) : Announces (made.program service) state := by
  cases made with
  | importFile scan made filePath fileData title =>
      exact (importFile_announces service scan made filePath fileData title state).map _
  | importFolder scan folderPath files =>
      cases files with
      | nil => exact absurd rfl heard
      | cons file rest => exact (importFile_announces service scan _ _ _ _ state).bind

theorem ImportCall.transparent_iff {β : Type} (service : ImportService) (bus : EventBus)
    (state : ImportState) (uses : List (Use ImportState ImportCall β)) :
    Transparent (ImportCall.program service) bus state uses ↔
      QuietRun (ImportCall.program service) (fun _ made => made.Quiet) state uses := by
  refine Events.transparent_iff ?_ ?_ bus state uses
  · exact fun state made quiet => busFree quiet
  · exact fun state made unquiet => (announces unquiet).heard made.plain

end Classification

end LexMind.Ingestion
