import LexMind.Lib.StackWalk
import LexMind.Storage.Isolation
import LexMind.Storage.Listing
import LexMind.Watcher.FileWatcher

set_option autoImplicit false

namespace LexMind.Watcher

open Lib Storage Relation

/-- A watch configuration with the field that only this backend reads. -/
structure PolledConfig extends WatchConfig where
  recursive : Bool

/-- The storage during one poll: what it holds, and which `list` calls fail. -/
structure PolledStorage where
  manager : StorageManager
  tree : StoredTree
  failure : String → Option PyExc

namespace PolledStorage

variable (storage : PolledStorage)

def list (uri : String) : Except PyExc (List (List Char)) :=
  match storage.failure uri with
  | some exc => .error exc
  | none => storage.manager.list storage.tree uri

def stat (uri : String) : Except PyExc StorageStat := storage.manager.stat storage.tree uri

end PolledStorage

/-- A mapping of file URIs to sizes. -/
abbrev Snapshot := Keyed (Prod.fst : String × Nat → String)

/-- Each configuration stands for its callback, too, which takes an event and returns. -/
structure StoragePollingBackend where
  configs : Keyed (fun config : PolledConfig => config.watchId)
  snapshots : Keyed (Prod.fst : String × Snapshot → String)

namespace StoragePollingBackend

section Walk

variable (storage : PolledStorage) (config : PolledConfig)

/-- The loop over the children of a directory. -/
def visit (current : String) :
    List (List Char) → List String × Snapshot → Except PyExc (List String × Snapshot)
  | [], state => .ok state
  | name :: rest, (stack, result) =>
      let child := childUri current name
      match storage.stat child with
      | .error exc => .error exc
      | .ok stat =>
          if stat.isDirectory then
            visit current rest (if config.recursive then child :: stack else stack, result)
          else visit current rest (stack, result.put (child, stat.size))

/-- The loop over the stack, whose top is the head. -/
def walk : Nat → List String → Snapshot → Option (Except PyExc Snapshot)
  | _, [], result => some (.ok result)
  | 0, _ :: _, _ => none
  | fuel + 1, current :: stack, result =>
      match storage.list current with
      | .error _ => walk fuel stack result
      | .ok children =>
          match visit storage config current children (stack, result) with
          | .error exc => some (.error exc)
          | .ok (stack, result) => walk fuel stack result

/-- One iteration for the root and one for each path; `snapshot_spec` shows that they are enough. -/
def snapshot : Option (Except PyExc Snapshot) :=
  walk storage config (storage.tree.paths.length + 1) [config.rootUri] .empty

end Walk

variable (backend : StoragePollingBackend)

/-- Where the snapshot raises, the configuration is there already. -/
def watch (storage : PolledStorage) (config : PolledConfig) :
    Option (Except PyExc Unit × StoragePollingBackend) :=
  (snapshot storage config).map (fun answer =>
    match answer with
    | .error exc => (.error exc, { backend with configs := backend.configs.put config })
    | .ok taken =>
        (.ok (), ⟨backend.configs.put config, backend.snapshots.put (config.watchId, taken)⟩))

def isWatching (watchId : String) : Bool := backend.configs.contains watchId

def unwatch (watchId : String) : StoragePollingBackend :=
  ⟨backend.configs.erase watchId, backend.snapshots.erase watchId⟩

def eventOf (watchId : String) (eventType : FileEventType) (row : String × Nat) :
    BackendFileEvent :=
  ⟨watchId, row.1, String.ofList (PurePath.name row.1.toList), eventType, row.2⟩

/-- What the loop over the current files sends. -/
def changes (watchId : String) (previous current : Snapshot) : List BackendFileEvent :=
  current.rows.filterMap (fun row =>
    match previous.find? row.1 with
    | none => some (eventOf watchId .created row)
    | some (_, size) => if size ≠ row.2 then some (eventOf watchId .modified row) else none)

/-- What the loop over the previous files sends. -/
def deletions (watchId : String) (previous current : Snapshot) : List BackendFileEvent :=
  (previous.rows.filter (fun row => current.find? row.1 = none)).map
    (fun row => eventOf watchId .deleted (row.1, 0))

/-- The snapshot a poll compares with. -/
def previous (watchId : String) : Snapshot :=
  ((backend.snapshots.find? watchId).map Prod.snd).getD .empty

/-- What a poll sends to the callback, and the backend it leaves. -/
def poll (storage : PolledStorage) (watchId : String) :
    Option (Except PyExc (List BackendFileEvent) × StoragePollingBackend) :=
  match backend.configs.find? watchId with
  | none => some (.ok [], backend)
  | some config =>
      (snapshot storage config).map (fun answer =>
        match answer with
        | .error exc => (.error exc, backend)
        | .ok current =>
            let previous := backend.previous watchId
            (.ok (changes watchId previous current ++ deletions watchId previous current),
              { backend with snapshots := backend.snapshots.put (watchId, current) }))

end StoragePollingBackend

end LexMind.Watcher
