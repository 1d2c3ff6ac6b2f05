import LexMind.Storage.Isolation

set_option autoImplicit false

/- When a save is carried out, and when it changes nothing. -/
namespace LexMind.Storage

open Lib

section Files

variable {tree : HostTree} {path : HostPath} {data : Bytes}

/-- A file can be written at the path: no file stands above it and no directory at it. -/
structure Writable (tree : HostTree) (path : HostPath) : Prop where
  above : tree.blocked path.dropLast = false
  leaf : tree.node path ≠ some .dir

/-- The tree once the file is written. -/
def wrote (tree : HostTree) (path : HostPath) (data : Bytes) : HostTree :=
  (tree.makeDirs path.dropLast).putFile path data

theorem call_mkdir_clear (clear : tree.blocked path = false) :
    call (Host.mkdir path) tree = (.ok (), tree.makeDirs path) := by
  have file : (tree.node path).any Node.isFile ≠ true :=
    List.any_eq_false.mp clear path ((List.mem_inits path path).mpr (List.prefix_refl path))
  simp only [Host.mkdir, call_bind, call_get, andThen_ok, if_neg file, clear, Bool.false_eq_true,
    if_false, call_set]

theorem call_mkdir_blocked (blocked : tree.blocked path = true) :
    ∃ exc, call (Host.mkdir path) tree = (.error exc, tree) := by
  simp only [Host.mkdir, call_bind, call_get, andThen_ok, blocked, if_true, call_ite, call_throw]
  split
  · exact ⟨_, rfl⟩
  · exact ⟨_, rfl⟩

theorem call_write (writable : Writable tree path) (data : Bytes) :
    call (Host.mkdir path.dropLast >>= fun _ => Host.writeFile path data) tree =
      (.ok (), wrote tree path data) := by
  have leaf : (tree.makeDirs path.dropLast).node path ≠ some .dir := by
    rw [FileTree.makeDirs_dropLast]
    exact writable.leaf
  rw [call_bind, call_mkdir_clear writable.above, andThen_ok]
  simp only [Host.writeFile, call_bind, call_get, andThen_ok, if_neg leaf, call_set]
  rfl

/-- A directory at the path is met when all above it is there, so that nothing has been made. -/
theorem call_write_refused (refused : ¬ Writable tree path) (data : Bytes) :
    ∃ exc, call (Host.mkdir path.dropLast >>= fun _ => Host.writeFile path data) tree =
      (.error exc, tree) := by
  rw [call_bind]
  cases above : tree.blocked path.dropLast with
  | true =>
      obtain ⟨exc, ended⟩ := call_mkdir_blocked above
      rw [ended]
      exact ⟨exc, rfl⟩
  | false =>
      have stands : tree.node path = some .dir := by
        by_contra leaf
        exact refused ⟨above, leaf⟩
      have parent := tree.dir_dropLast (by rw [stands]; exact Option.some_ne_none _)
      rw [call_mkdir_clear above, andThen_ok, FileTree.makeDirs_of_dir parent]
      simp only [Host.writeFile, call_bind, call_get, andThen_ok, if_pos stands, call_throw]
      exact ⟨_, rfl⟩

theorem wrote_self (writable : Writable tree path) :
    (wrote tree path data).node path = some (.file data) := by
  apply FileTree.putFile_self
  rw [FileTree.makeDirs_dropLast]
  exact writable.leaf

/-- What is not above the path is as it was. -/
theorem wrote_frame {other : HostPath} (writable : Writable tree path) (outside : ¬ other <+: path) :
    (wrote tree path data).node other = tree.node other := by
  have leaf : (tree.makeDirs path.dropLast).node path ≠ some .dir := by
    rw [FileTree.makeDirs_dropLast]
    exact writable.leaf
  have differs : path ≠ other := fun same => outside (same ▸ List.prefix_refl _)
  rw [wrote, FileTree.putFile_frame data leaf differs (fun above => absurd above outside),
    FileTree.makeDirs_frame (fun above =>
      absurd (above.trans (List.dropLast_prefix path)) outside)]

/-- Writing a file changes nothing exactly where it is there. -/
theorem wrote_eq_iff (writable : Writable tree path) :
    wrote tree path data = tree ↔ tree.node path = some (.file data) := by
  constructor
  · intro same
    rw [← same]
    exact wrote_self writable
  · intro stands
    have parent := tree.dir_dropLast (by rw [stands]; exact Option.some_ne_none _)
    rw [wrote, FileTree.makeDirs_of_dir parent, FileTree.putFile_of_file stands]

end Files

namespace StorageManager

variable {manager : StorageManager} {uri : String} {tree : HostTree}

/-- A save to the URI is carried out. -/
def Takes (manager : StorageManager) (uri : String) (tree : HostTree) : Prop :=
  ∃ path, manager.Denotes uri path ∧ Writable tree path

/-- The bytes are what the URI loads. -/
def Holds (manager : StorageManager) (uri : String) (data : Bytes) (tree : HostTree) : Prop :=
  (call (manager.load uri) tree).1 = .ok data

theorem call_save_denoted {path : HostPath} (denoted : manager.Denotes uri path) (data : Bytes) :
    call (manager.save uri data) tree =
      call (Host.mkdir path.dropLast >>= fun _ => Host.writeFile path data) tree := by
  obtain ⟨rel, parsed, resolved⟩ := denoted
  rw [save, call_bind, call_check, parsed, andThen_ok, FilesystemStorageProvider.writeBytes,
    call_bind, call_check, resolved, andThen_ok]

theorem call_save_takes {path : HostPath} (denoted : manager.Denotes uri path)
    (writable : Writable tree path) (data : Bytes) :
    call (manager.save uri data) tree = (.ok (), wrote tree path data) := by
  rw [call_save_denoted denoted, call_write writable]

/-- A save that is refused changes nothing. -/
theorem call_save_refused (refused : ¬ manager.Takes uri tree) (data : Bytes) :
    ∃ exc, call (manager.save uri data) tree = (.error exc, tree) := by
  cases parsed : extractPath uri with
  | error exc =>
      refine ⟨exc, ?_⟩
      rw [save, call_bind, call_check, parsed, andThen_error]
  | ok rel =>
      cases resolved : manager.provider.resolve rel with
      | error exc =>
          refine ⟨exc, ?_⟩
          rw [save, call_bind, call_check, parsed, andThen_ok,
            FilesystemStorageProvider.writeBytes, call_bind, call_check, resolved, andThen_error]
      | ok path =>
          have denoted : manager.Denotes uri path := ⟨rel, parsed, resolved⟩
          have blocked : ¬ Writable tree path := fun writable => refused ⟨path, denoted, writable⟩
          rw [call_save_denoted denoted]
          exact call_write_refused blocked data

/-- A text that can be encoded is saved as its bytes are. -/
theorem call_saveText {text encoding : String} {data : Bytes}
    (encoded : manager.codec.encode encoding text = .ok data) :
    call (manager.saveText uri text encoding) tree = call (manager.save uri data) tree := by
  simp only [saveText, save, FilesystemStorageProvider.writeText,
    FilesystemStorageProvider.writeBytes, encoded]

theorem holds_iff {path : HostPath} {data : Bytes} (denoted : manager.Denotes uri path) :
    manager.Holds uri data tree ↔ tree.node path = some (.file data) := by
  rw [Holds, load_ok_iff]
  constructor
  · rintro ⟨other, denotes, stands⟩
    rwa [denoted.eq denotes]
  · intro stands
    exact ⟨path, denoted, stands⟩

end StorageManager

end LexMind.Storage
