import LexMind.Events.EventBus
import LexMind.PurePath

set_option autoImplicit false

namespace LexMind.Watcher

open Lib Events

inductive FileEventType
  | created
  | modified
  | deleted
deriving DecidableEq, Repr

def FileEventType.value : FileEventType → String
  | created => "created"
  | modified => "modified"
  | deleted => "deleted"

/-- What a backend reports about one file. -/
structure BackendFileEvent where
  watchId : String
  uri : String
  name : String
  eventType : FileEventType
  size : Nat
deriving DecidableEq, Repr

/-- The methods of `str` that need the Unicode tables. -/
structure StrMethods where
  lower : String → String
  strip : String → String

/-- Times are in microseconds. -/
structure WatchConfig where
  watchId : String
  workspaceId : String
  rootUri : String
  patterns : List String
  debounceSeconds : Int
  enabled : Bool
  nonNegative : 0 ≤ debounceSeconds
  rooted : rootUri ≠ ""
deriving Repr

def normalizePatterns (str : StrMethods) (patterns : List String) : List String :=
  (patterns.filterMap (fun pattern =>
    let value := str.lower (str.strip pattern)
    if value = "" then none
    else if value.toList.head? = some '.' then some value
    else some ("." ++ value))).dedup

namespace WatchConfig

def create (str : StrMethods) (watchId workspaceId rootUri : String) (patterns : List String)
    (debounceSeconds : Int) (enabled : Bool) : Except PyExc WatchConfig :=
  if nonNegative : 0 ≤ debounceSeconds then
    if rooted : rootUri = "" then .error (.valueError "root_uri must not be empty")
    else .ok ⟨watchId, workspaceId, rootUri, normalizePatterns str patterns, debounceSeconds,
      enabled, nonNegative, rooted⟩
  else .error (.valueError "debounce_seconds must be non-negative")

def acceptsExtension (str : StrMethods) (config : WatchConfig) (uri : String) : Bool :=
  config.patterns = [] ∨
    str.lower (String.ofList (PurePath.suffix (PurePath.name uri.toList))) ∈ config.patterns

end WatchConfig

/-- The slots a `FileEvent` adds to those of every domain event: its `name` is the name
of the file. -/
def fileEvent (config : WatchConfig) (raw : BackendFileEvent) : EventObject :=
  domainEvent "FileEvent" config.workspaceId
    [("workspace_id", .str config.workspaceId), ("watch_id", .str raw.watchId),
      ("uri", .str raw.uri), ("name", .str raw.name), ("event_type", .str raw.eventType.value),
      ("size", .int raw.size)]

/-- A buffered notification. -/
structure Pending where
  timestamp : Int
  event : BackendFileEvent
deriving DecidableEq, Repr

def Pending.uri (pending : Pending) : String := pending.event.uri

structure FileWatcherService where
  configs : Keyed WatchConfig.watchId
  pending : Keyed Pending.uri

/-- The service with the bus its `EventBusDispatcher` was given, if any. -/
abbrev WatcherPy (α : Type) := Py (Wired FileWatcherService) α

namespace FileWatcherService

def register (config : WatchConfig) : WatcherPy Unit :=
  modify (fun wired => { wired with service :=
    { wired.service with configs := wired.service.configs.put config } })

/-- Build the event and hand it to the bus. -/
def dispatch (raw : BackendFileEvent) : WatcherPy Unit := do
  match (← get).service.configs.find? raw.watchId with
  | none => pure ()
  | some config => emit (fileEvent config raw)

def debounceSeconds (service : FileWatcherService) (uri : String) : Int :=
  match service.pending.find? uri with
  | none => 0
  | some pending =>
      match service.configs.find? pending.event.watchId with
      | some config => config.debounceSeconds
      | none => 0

/-- Each due notification leaves the buffer before it is dispatched. -/
def dispatchDue : List Pending → WatcherPy Unit
  | [] => pure ()
  | pending :: rest => do
      modify (fun wired => { wired with service :=
        { wired.service with pending := wired.service.pending.erase pending.uri } })
      dispatch pending.event
      dispatchDue rest

/-- The buffered notifications whose quiet time has passed, oldest key first. -/
def due (service : FileWatcherService) (now : Int) (force : Bool) : List Pending :=
  service.pending.rows.filter (fun pending =>
    force ∨ service.debounceSeconds pending.uri ≤ now - pending.timestamp)

def drain (now : Int) (force : Bool) : WatcherPy Unit := do
  dispatchDue ((← get).service.due now force)

def flush (now : Int) : WatcherPy Unit := drain now true

def onBackendEvent (str : StrMethods) (raw : BackendFileEvent) (now : Int) : WatcherPy Unit := do
  match (← get).service.configs.find? raw.watchId with
  | none => pure ()
  | some config =>
      if config.enabled ∧ config.acceptsExtension str raw.uri then
        modify (fun wired => { wired with service :=
          { wired.service with pending := wired.service.pending.put ⟨now, raw⟩ } })
        drain now false

/-- Without debouncing, a notification that passes the filter is dispatched at once. -/
theorem onBackendEvent_bus (str : StrMethods) (raw : BackendFileEvent) (now : Int)
    (configs : Keyed WatchConfig.watchId) (config : WatchConfig) (bus : EventBus)
    (watched : configs.find? raw.watchId = some config) (enabled : config.enabled = true)
    (accepted : config.acceptsExtension str raw.uri = true) (prompt : config.debounceSeconds = 0) :
    (call (onBackendEvent str raw now) ⟨⟨configs, .empty⟩, some bus⟩).2.bus =
      (call (dispatch raw) ⟨⟨configs, .empty⟩, some bus⟩).2.bus := by
  let buffered : Keyed Pending.uri := Keyed.empty.put ⟨now, raw⟩
  have rows : buffered.rows = [⟨now, raw⟩] := rfl
  have held : buffered.find? raw.uri = some ⟨now, raw⟩ := Keyed.find?_put_self _ _
  have ready : due ⟨configs, buffered⟩ now false = [⟨now, raw⟩] := by
    simp [due, rows, debounceSeconds, Pending.uri, held, watched, prompt]
  simp only [onBackendEvent, drain, dispatch, call_bind, call_get, andThen_ok, watched, enabled,
    accepted, and_self, ↓reduceIte, call_modify, buffered] at ready ⊢
  simp [ready, dispatchDue, dispatch, watched, emit_with_bus]

end FileWatcherService

end LexMind.Watcher
