import LexMind.Lib.Simulation
import LexMind.Storage.Relocation

set_option autoImplicit false

/- Behind locations none of which is in another, the storage is a map from locations to bytes. -/
namespace LexMind.Storage

open Lib

/-- A URI with the path it is resolved to. -/
structure Site (manager : StorageManager) where
  uri : String
  rel : List Char
  path : HostPath
  parsed : extractPath uri = .ok rel
  resolved : manager.provider.resolve rel = .ok path

/-- The calls on single objects. -/
inductive ObjectCall (manager : StorageManager)
  | save (site : Site manager) (data : Bytes)
  | saveText (site : Site manager) (text encoding : String)
  | load (site : Site manager)
  | loadText (site : Site manager) (encoding : String)
  | objectExists (site : Site manager)
  | checksum (site : Site manager) (algorithm : String)
  | delete (site : Site manager)
  | copy (source target : Site manager) (endless : Endless)
  | move (source target : Site manager)

inductive ObjectAnswer
  | done
  | data (data : Bytes)
  | text (text : String)
  | flag (flag : Bool)
deriving DecidableEq, Repr

variable {manager : StorageManager}

namespace ObjectCall

/-- The locations a call names. -/
def paths : ObjectCall manager → List HostPath
  | save site _ | saveText site _ _ | load site | loadText site _ | objectExists site
  | checksum site _ | delete site => [site.path]
  | copy source target _ | move source target => [source.path, target.path]

/-- The call on the files of the host. -/
def program : ObjectCall manager → Py HostTree ObjectAnswer
  | save site data => (fun _ => .done) <$> manager.save site.uri data
  | saveText site text encoding => (fun _ => .done) <$> manager.saveText site.uri text encoding
  | load site => .data <$> manager.load site.uri
  | loadText site encoding => .text <$> manager.loadText site.uri encoding
  | objectExists site => .flag <$> manager.objectExists site.uri
  | checksum site algorithm => .text <$> manager.checksum site.uri algorithm
  | delete site => (fun _ => .done) <$> manager.delete site.uri
  | copy source target endless =>
      (fun _ => .done) <$> manager.copy source.uri target.uri endless
  | move source target => (fun _ => .done) <$> manager.move source.uri target.uri

end ObjectCall

/-- What the storage is for: at each location, nothing or bytes. -/
abbrev ObjectMap := HostPath → Option Bytes

namespace ObjectMap

/-- What is stored at the site, or what is raised there. -/
def lookup (objects : ObjectMap) (site : Site manager) : Except PyExc Bytes :=
  match objects site.path with
  | some data => .ok data
  | none => .error (.storageNotFound (String.ofList site.rel))

def fetch (site : Site manager) : Py ObjectMap Bytes := do
  check (lookup (← get) site)

def put (path : HostPath) (content : Option Bytes) : Py ObjectMap Unit :=
  modify (fun objects => Function.update objects path content)

def saveText (site : Site manager) (text encoding : String) : Py ObjectMap Unit :=
  match manager.codec.encode encoding text with
  | .ok data => put site.path (some data)
  | .error exc => do
      put site.path (some [])
      throw exc

def delete (site : Site manager) : Py ObjectMap Unit := do
  let _ ← fetch site
  put site.path none

def copy (source target : Site manager) : Py ObjectMap Unit := do
  let data ← fetch source
  if target.path = source.path then
    throw (.shutilError (source.path.pathRepr ++ " and " ++ target.path.pathRepr ++
      " are the same file"))
  else
    put target.path (some data)

def move (source target : Site manager) : Py ObjectMap Unit := do
  let data ← fetch source
  put source.path none
  put target.path (some data)

/-- The call on the map. -/
def program : ObjectCall manager → Py ObjectMap ObjectAnswer
  | .save site data => (fun _ => .done) <$> put site.path (some data)
  | .saveText site text encoding => (fun _ => .done) <$> saveText site text encoding
  | .load site => .data <$> fetch site
  | .loadText site encoding =>
      .text <$> (fetch site >>= fun data => check (manager.codec.decode encoding data))
  | .objectExists site => .flag <$> (fun objects => (objects site.path).isSome) <$> get
  | .checksum site algorithm =>
      .text <$> (fetch site >>= fun data => check (manager.codec.computeChecksum data algorithm))
  | .delete site => (fun _ => .done) <$> delete site
  | .copy source target _ => (fun _ => .done) <$> copy source target
  | .move source target => (fun _ => .done) <$> move source target

end ObjectMap

def treeStep (manager : StorageManager) (tree : HostTree) (objectCall : ObjectCall manager) :
    Except PyExc ObjectAnswer × HostTree :=
  call objectCall.program tree

def objectStep (manager : StorageManager) (objects : ObjectMap) (objectCall : ObjectCall manager) :
    Except PyExc ObjectAnswer × ObjectMap :=
  call (ObjectMap.program objectCall) objects

/-- The files that stand at the locations, and nothing else of the host. -/
def objectsOf (tree : HostTree) : ObjectMap := fun path =>
  match tree.node path with
  | some (.file data) => some data
  | _ => none

/-- None of the locations is in another. -/
def Scattered (paths : Set HostPath) : Prop :=
  ∀ path ∈ paths, ∀ other ∈ paths, path <+: other → path = other

/-- At its locations the map is what the files are, and each can be written. -/
structure Represents (paths : Set HostPath) (tree : HostTree) (objects : ObjectMap) : Prop where
  clear : ∀ path ∈ paths, tree.blocked path.dropLast = false
  holds : ∀ path ∈ paths, tree.node path = (objects path).map Node.file

section Represented

variable {paths : Set HostPath} {tree : HostTree} {objects : ObjectMap} {path other : HostPath}

theorem Represents.writable (represents : Represents paths tree objects) (listed : path ∈ paths) :
    Writable tree path := by
  refine ⟨represents.clear path listed, ?_⟩
  rw [represents.holds path listed]
  cases objects path with
  | none => exact Option.some_ne_none _ |>.symm
  | some data => exact fun same => nomatch same

theorem represents_objectsOf (writable : ∀ path ∈ paths, Writable tree path) :
    Represents paths tree (objectsOf tree) := by
  refine ⟨fun path listed => (writable path listed).above, fun path listed => ?_⟩
  have leaf := (writable path listed).leaf
  unfold objectsOf
  cases stands : tree.node path with
  | none => rfl
  | some node =>
      cases node with
      | file data => rfl
      | dir => exact absurd stands leaf

theorem Represents.objectsOf (represents : Represents paths tree objects) (listed : path ∈ paths) :
    objectsOf tree path = objects path := by
  rw [Storage.objectsOf, represents.holds path listed]
  cases objects path <;> rfl

/-- No location is above another's parent. -/
theorem Represents.not_above (represents : Represents paths tree objects)
    (scattered : Scattered paths) (listed : path ∈ paths) (listed' : other ∈ paths) :
    ¬ path <+: other.dropLast := by
  intro above
  have same := scattered path listed other listed' (above.trans (List.dropLast_prefix other))
  subst same
  have short := above.length_le
  have root : path = [] := by
    rw [List.length_dropLast] at short
    exact List.length_eq_zero_iff.mp (by omega)
  subst root
  exact (represents.writable listed).leaf tree.rooted

/-- Where a change makes no file but at a location, all locations can still be written. -/
theorem Represents.change (represents : Represents paths tree objects)
    (scattered : Scattered paths) {after : HostTree} {objects' : ObjectMap}
    (fewer : ∀ front, after.fileAt front → front ∈ paths ∨ tree.fileAt front)
    (holds : ∀ path ∈ paths, after.node path = (objects' path).map Node.file) :
    Represents paths after objects' := by
  refine ⟨fun path listed => ?_, holds⟩
  apply FileTree.blocked_false_of_files (represents.clear path listed)
  intro front above file
  rcases fewer front file with inside | stood
  · exact absurd above (represents.not_above scattered inside listed)
  · exact stood

theorem Represents.wrote (represents : Represents paths tree objects)
    (scattered : Scattered paths) (listed : path ∈ paths) (data : Bytes) :
    Represents paths (wrote tree path data) (Function.update objects path (some data)) := by
  apply represents.change scattered
  · intro front file
    rcases FileTree.fileAt_putFile file with rfl | stood
    · exact .inl listed
    · exact .inr (FileTree.fileAt_makeDirs stood)
  · intro other listed'
    by_cases same : other = path
    · rw [same, Function.update_self]
      exact wrote_self (represents.writable listed)
    · have outside : ¬ other <+: path := fun above =>
        same (scattered other listed' path listed above)
      rw [Function.update_of_ne same, wrote_frame (represents.writable listed) outside]
      exact represents.holds other listed'

theorem Represents.remove (represents : Represents paths tree objects)
    (scattered : Scattered paths) (listed : path ∈ paths) :
    Represents paths (tree.remove path) (Function.update objects path none) := by
  apply represents.change scattered
  · intro front file
    exact .inr (FileTree.fileAt_remove file)
  · intro other listed'
    by_cases same : other = path
    · subst same
      have strict : other ≠ [] := by
        rintro rfl
        exact (represents.writable listed).leaf tree.rooted
      rw [Function.update_self]
      exact FileTree.remove_inside strict (List.prefix_refl _)
    · have outside : ¬ path <+: other := fun below =>
        same (scattered path listed other listed' below).symm
      rw [Function.update_of_ne same, FileTree.remove_outside outside]
      exact represents.holds other listed'

variable (represents : Represents paths tree objects) {site : Site manager}
  (listed : site.path ∈ paths)

include represents listed

theorem call_requireExists :
    call (manager.provider.requireExists site.rel) tree =
      ((objects.lookup site).map (fun _ => site.path), tree) := by
  have stands := represents.holds site.path listed
  simp only [FilesystemStorageProvider.requireExists, call_bind, call_check, site.resolved,
    andThen_ok, call_get, ObjectMap.lookup, stands]
  cases objects site.path with
  | none => rfl
  | some data => rfl

theorem call_readBytes :
    call (manager.provider.readBytes site.rel) tree = (objects.lookup site, tree) := by
  have stands := represents.holds site.path listed
  rw [FilesystemStorageProvider.readBytes, call_bind, call_requireExists represents listed]
  unfold ObjectMap.lookup
  cases found : objects site.path with
  | none => rfl
  | some data =>
      rw [found] at stands
      simp only [map_ok, andThen_ok, call_bind, call_get, stands]
      rfl

theorem call_exists :
    call (manager.provider.pathExists site.rel) tree =
      (.ok (objects site.path).isSome, tree) := by
  simp only [FilesystemStorageProvider.pathExists, call_bind, call_check, site.resolved,
    andThen_ok, call_get, call_pure, represents.holds site.path listed, Option.isSome_map]

end Represented

section Programs

variable {paths : Set HostPath}

theorem Site.denotes (site : Site manager) : manager.Denotes site.uri site.path :=
  ⟨site.rel, site.parsed, site.resolved⟩

/-- A call of the manager is the provider's at the site's path. -/
theorem Site.call_within (site : Site manager) {α : Type} (next : List Char → Py HostTree α)
    (tree : HostTree) : call (check (extractPath site.uri) >>= next) tree =
      call (next site.rel) tree := by
  rw [call_bind, call_check, site.parsed, andThen_ok]

theorem put_tracks (scattered : Scattered paths) {site : Site manager}
    (listed : site.path ∈ paths) (data : Bytes) :
    Tracks (Represents paths) (manager.save site.uri data) (ObjectMap.put site.path (some data)) := by
  intro tree objects represents
  rw [StorageManager.call_save_takes site.denotes (represents.writable listed)]
  exact ⟨rfl, represents.wrote scattered listed data⟩

/-- A text that cannot be encoded leaves an empty object. -/
theorem saveText_tracks (scattered : Scattered paths) {site : Site manager}
    (listed : site.path ∈ paths) (text encoding : String) :
    Tracks (Represents paths) (manager.saveText site.uri text encoding)
      (ObjectMap.saveText site text encoding) := by
  intro tree objects represents
  unfold ObjectMap.saveText
  cases encoded : manager.codec.encode encoding text with
  | ok data =>
      rw [StorageManager.call_saveText encoded]
      exact put_tracks scattered listed data tree objects represents
  | error exc =>
      have emptied := call_write (represents.writable listed) []
      have ended : call (manager.saveText site.uri text encoding) tree =
          (.error exc, wrote tree site.path []) := by
        rw [StorageManager.saveText, site.call_within, FilesystemStorageProvider.writeText, call_bind,
          call_check, site.resolved, andThen_ok, encoded]
        dsimp only
        rw [← bind_assoc, call_bind, emptied, andThen_ok, call_throw]
      rw [ended]
      exact ⟨rfl, represents.wrote scattered listed []⟩

theorem fetch_tracks {site : Site manager} (listed : site.path ∈ paths) :
    Tracks (Represents paths) (manager.load site.uri) (ObjectMap.fetch site) := by
  intro tree objects represents
  rw [StorageManager.load, site.call_within, call_readBytes represents listed, ObjectMap.fetch,
    call_bind, call_get, andThen_ok, call_check]
  exact ⟨rfl, represents⟩

/-- What is computed from an object's bytes alone is computed from the map's. -/
theorem fetched_tracks {site : Site manager} (listed : site.path ∈ paths) {α : Type}
    (value : Bytes → Except PyExc α) :
    Tracks (Represents paths)
      (check (extractPath site.uri) >>= fun rel =>
        manager.provider.readBytes rel >>= fun data => check (value data))
      (ObjectMap.fetch site >>= fun data => check (value data)) := by
  intro tree objects represents
  rw [← bind_assoc]
  exact (fetch_tracks listed).bind (fun data tree objects represents => by
    rw [call_check, call_check]
    exact ⟨rfl, represents⟩) tree objects represents

theorem delete_tracks (scattered : Scattered paths) {site : Site manager}
    (listed : site.path ∈ paths) :
    Tracks (Represents paths) (manager.delete site.uri) (ObjectMap.delete site) := by
  intro tree objects represents
  have stands := represents.holds site.path listed
  rw [StorageManager.delete, site.call_within, FilesystemStorageProvider.delete, call_bind,
    call_requireExists represents listed, ObjectMap.delete, call_bind, ObjectMap.fetch, call_bind,
    call_get, andThen_ok, call_check]
  unfold ObjectMap.lookup
  cases found : objects site.path with
  | none => exact ⟨rfl, represents⟩
  | some data =>
      have leaf : tree.node site.path ≠ some .dir := by
        rw [stands, found]
        exact fun same => nomatch same
      simp only [map_ok, andThen_ok, call_bind, call_get, if_neg leaf, Host.unlink, ObjectMap.put,
        call_modify]
      exact ⟨trivial, represents.remove scattered listed⟩

theorem exists_tracks {site : Site manager} (listed : site.path ∈ paths) :
    Tracks (Represents paths) (manager.objectExists site.uri)
      ((fun objects : ObjectMap => (objects site.path).isSome) <$> get) := by
  intro tree objects represents
  rw [StorageManager.objectExists, site.call_within, call_exists represents listed]
  exact ⟨rfl, represents⟩

/-- Before a write to a location its directory is made, which changes no object. -/
theorem call_prepared {tree : HostTree} {objects : ObjectMap} {path : HostPath}
    (represents : Represents paths tree objects) (listed : path ∈ paths) {α : Type}
    (next : Py HostTree α) :
    call (Host.mkdir path.dropLast >>= fun _ => next) tree = call next (ready tree path) := by
  rw [call_bind, call_mkdir_clear (represents.clear path listed), andThen_ok]
  rfl

theorem Represents.ready {tree : HostTree} {objects : ObjectMap} {path : HostPath}
    (represents : Represents paths tree objects) (scattered : Scattered paths)
    (listed : path ∈ paths) : Represents paths (ready tree path) objects := by
  apply represents.change scattered
  · intro front file
    exact .inr (FileTree.fileAt_makeDirs file)
  · intro other listed'
    rw [Storage.ready, FileTree.makeDirs_frame fun above =>
      absurd above (represents.not_above scattered listed' listed)]
    exact represents.holds other listed'

theorem copy_tracks (scattered : Scattered paths) {source target : Site manager}
    (listed : source.path ∈ paths) (listed' : target.path ∈ paths) (endless : Endless) :
    Tracks (Represents paths) (manager.copy source.uri target.uri endless)
      (ObjectMap.copy source target) := by
  intro tree objects represents
  have stands := represents.holds source.path listed
  rw [StorageManager.copy, source.call_within, target.call_within,
    FilesystemStorageProvider.copy, call_bind, call_requireExists represents listed,
    ObjectMap.copy, call_bind, ObjectMap.fetch, call_bind, call_get, andThen_ok, call_check]
  unfold ObjectMap.lookup
  cases found : objects source.path with
  | none => exact ⟨rfl, represents⟩
  | some data =>
      have prepared := represents.ready scattered listed'
      have leaf := (prepared.writable listed').leaf
      rw [found] at stands
      simp only [map_ok, andThen_ok, call_bind, call_check, target.resolved, call_get, stands,
        Option.map_some]
      rw [← call_bind, call_prepared represents listed']
      simp only [Host.copy2, call_bind, call_get, andThen_ok, if_neg leaf, call_ite, call_throw,
        Host.writeFile, call_set]
      by_cases same : target.path = source.path
      · rw [if_pos same, if_pos same]
        exact ⟨rfl, prepared⟩
      · rw [if_neg same, if_neg same]
        exact ⟨rfl, represents.wrote scattered listed' data⟩

theorem move_tracks (scattered : Scattered paths) {source target : Site manager}
    (listed : source.path ∈ paths) (listed' : target.path ∈ paths) :
    Tracks (Represents paths) (manager.move source.uri target.uri)
      (ObjectMap.move source target) := by
  intro tree objects represents
  have prepared := represents.ready scattered listed'
  rw [StorageManager.move, source.call_within, target.call_within,
    FilesystemStorageProvider.move, call_bind, call_requireExists represents listed,
    ObjectMap.move, call_bind, ObjectMap.fetch, call_bind, call_get, andThen_ok, call_check]
  unfold ObjectMap.lookup
  cases found : objects source.path with
  | none => exact ⟨rfl, represents⟩
  | some data =>
      have leaf := (prepared.writable listed').leaf
      have stands := prepared.holds source.path listed
      rw [found] at stands
      simp only [map_ok, andThen_ok, call_bind, call_check, target.resolved]
      rw [← call_bind, call_prepared represents listed']
      simp only [Host.move, call_bind, call_get, andThen_ok, if_neg leaf, Host.rename, stands,
        Option.map_some, call_ite, call_set, call_pure, ObjectMap.put, call_modify]
      by_cases same : target.path = source.path
      · have unchanged : Function.update (Function.update objects source.path none) target.path
            (some data) = objects := by
          rw [same, Function.update_idem, ← found, Function.update_eq_self]
        rw [if_neg (not_not.mpr same), unchanged]
        exact ⟨rfl, prepared⟩
      · have parent : ((Storage.ready tree target.path).remove source.path).node
            target.path.dropLast = some .dir := by
          rw [FileTree.remove_outside (represents.not_above scattered listed listed')]
          exact ready_parent
        have written : wrote ((Storage.ready tree target.path).remove source.path) target.path data =
            ((Storage.ready tree target.path).remove source.path).putFile target.path data := by
          rw [wrote, FileTree.makeDirs_of_dir parent]
        rw [if_pos same, ← written]
        exact ⟨rfl, (prepared.remove scattered listed).wrote scattered listed' data⟩

/-- Every call does on the map what it does on the files. -/
theorem objectCall_tracks (scattered : Scattered paths) (objectCall : ObjectCall manager)
    (listed : ∀ path ∈ objectCall.paths, path ∈ paths) :
    Tracks (Represents paths) objectCall.program (ObjectMap.program objectCall) := by
  have first : ∀ site : Site manager, site.path ∈ objectCall.paths → site.path ∈ paths :=
    fun site => listed site.path
  cases objectCall with
  | save site data => exact (put_tracks scattered (first site (by simp [ObjectCall.paths])) data).map _
  | saveText site text encoding =>
      exact (saveText_tracks scattered (first site (by simp [ObjectCall.paths])) text encoding).map _
  | load site => exact (fetch_tracks (first site (by simp [ObjectCall.paths]))).map _
  | loadText site encoding =>
      exact (fetched_tracks (first site (by simp [ObjectCall.paths])) _).map _
  | objectExists site => exact (exists_tracks (first site (by simp [ObjectCall.paths]))).map _
  | checksum site algorithm =>
      exact (fetched_tracks (first site (by simp [ObjectCall.paths])) _).map _
  | delete site => exact (delete_tracks scattered (first site (by simp [ObjectCall.paths]))).map _
  | copy source target endless =>
      exact (copy_tracks scattered (first source (by simp [ObjectCall.paths]))
        (first target (by simp [ObjectCall.paths])) endless).map _
  | move source target =>
      exact (move_tracks scattered (first source (by simp [ObjectCall.paths]))
        (first target (by simp [ObjectCall.paths]))).map _

/-- Runs of calls on objects answer as the map does, raises included, and leave what it holds. -/
theorem storage_is_map (scattered : Scattered paths) {tree : HostTree}
    (writable : ∀ path ∈ paths, Writable tree path) (calls : List (ObjectCall manager))
    (listed : ∀ objectCall ∈ calls, ∀ path ∈ objectCall.paths, path ∈ paths) :
    (run (treeStep manager) tree calls).1 = (run (objectStep manager) (objectsOf tree) calls).1 ∧
      ∀ path ∈ paths, objectsOf (run (treeStep manager) tree calls).2 path =
        (run (objectStep manager) (objectsOf tree) calls).2 path := by
  have simulates : Simulates (Represents paths)
      (fun _ (objectCall : ObjectCall manager) => ∀ path ∈ objectCall.paths, path ∈ paths)
      (treeStep manager) (objectStep manager) := by
    intro tree objects objectCall represents listed
    exact objectCall_tracks scattered objectCall listed tree objects represents
  obtain ⟨answers, last⟩ := simulates.run (represents_objectsOf writable)
    (along_of_mem listed tree)
  exact ⟨answers, fun path inside => last.objectsOf inside⟩

def report : Site StorageManager.plain where
  uri := "storage://alpha/cases/report.txt"
  rel := "cases/report.txt".toList
  path := ["data".toList, "cases".toList, "report.txt".toList]
  parsed := by decide
  resolved := by decide

def notes : Site StorageManager.plain where
  uri := "storage://beta/notes.txt"
  rel := "notes.txt".toList
  path := ["data".toList, "notes.txt".toList]
  parsed := by decide
  resolved := by decide

/-- A report that is moved is found where it went, and nowhere else. -/
theorem storage_is_map_moved :
    (run (treeStep StorageManager.plain) (FileTree.empty.makeDirs ["data".toList])
      [.save report [1, 2], .move report notes, .load notes, .load report]).1 =
      [.ok .done, .ok .done, .ok (.data [1, 2]),
        .error (.storageNotFound "cases/report.txt")] := by
  have scattered : Scattered {report.path, notes.path} := by
    rintro path (rfl | rfl) other (rfl | rfl) above
    · rfl
    · exact absurd above (by decide)
    · exact absurd above (by decide)
    · rfl
  rw [(storage_is_map scattered ?_ _ ?_).1]
  · decide
  · rintro path (rfl | rfl)
    · exact ⟨by decide, by decide⟩
    · exact ⟨by decide, by decide⟩
  · simp [ObjectCall.paths]

end Programs

end LexMind.Storage
