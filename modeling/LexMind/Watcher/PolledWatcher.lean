import LexMind.Watcher.PollingExact
import LexMind.Watcher.SafeDebouncing
import Mathlib.Data.Finset.Basic

set_option autoImplicit false

/- The watcher service over its polling backend, call by call. -/
namespace LexMind.Watcher

open Lib Events Storage Debounce StoragePollingBackend

/-- The calls on a watcher whose backend polls, each with the storage it finds and the times the
clock shows to its callbacks. -/
inductive PolledCall
  | start (watchId : String) (storage : PolledStorage)
  | poll (watchId : String) (storage : PolledStorage) (clock : Nat → Int)
  | stop (watchId : String) (now : Int)
  | flush (now : Int)

namespace PolledCall

/-- The watch the call is about, if it is about one. -/
def watch? : PolledCall → Option String
  | .start watchId _ => some watchId
  | .poll watchId _ _ => some watchId
  | .stop watchId _ => some watchId
  | .flush _ => none

/-- The call starts or stops the watch. -/
def Switches (watchId : String) : PolledCall → Prop
  | .start other _ => other = watchId
  | .poll _ _ _ => False
  | .stop other _ => other = watchId
  | .flush _ => False

/-- A flush, or a stop, which flushes. -/
def Forced : PolledCall → Prop
  | .start _ _ => False
  | .poll _ _ _ => False
  | .stop _ _ => True
  | .flush _ => True

def Resolved : PolledCall → Prop
  | .start _ storage => storage.Resolved
  | .poll _ storage _ => storage.Resolved
  | .stop _ _ => True
  | .flush _ => True

end PolledCall

/-- A `FileWatcherService`, its backend, and the set `_watching`. -/
structure PolledWatcher where
  backend : StoragePollingBackend
  service : Wired FileWatcherService
  watching : Finset String

namespace PolledWatcher

variable (str : StrMethods) (recursive : String → Bool)

/-- What a poll hands to the callback, one event after another. -/
def notify (clock : Nat → Int) : List (BackendFileEvent × Nat) → WatcherPy Unit
  | [] => pure ()
  | (raw, place) :: rest => do
      FileWatcherService.onBackendEvent str raw (clock place)
      notify clock rest

def start (watchId : String) (storage : PolledStorage) (system : PolledWatcher) :
    Option (Except PyExc Unit × PolledWatcher) :=
  match system.service.service.configs.find? watchId with
  | none => some (.error (.keyError ("Unknown watch_id: " ++ watchId)), system)
  | some config =>
      (system.backend.watch storage ⟨config, recursive watchId⟩).map (fun watched =>
        match watched.1 with
        | .error exc => (.error exc, { system with backend := watched.2 })
        | .ok () => (.ok (),
            { system with backend := watched.2, watching := insert watchId system.watching }))

/-- Where a callback raises, the snapshot is not stored. -/
def poll (watchId : String) (storage : PolledStorage) (clock : Nat → Int) (system : PolledWatcher) :
    Option (Except PyExc Unit × PolledWatcher) :=
  (system.backend.poll storage watchId).map (fun polled =>
    match polled.1 with
    | .error exc => (.error exc, { system with backend := polled.2 })
    | .ok events =>
        let notified := call (notify str clock events.zipIdx) system.service
        match notified.1 with
        | .error exc => (.error exc, { system with service := notified.2 })
        | .ok () => (.ok (), { system with backend := polled.2, service := notified.2 }))

def stop (watchId : String) (now : Int) (system : PolledWatcher) :
    Except PyExc Unit × PolledWatcher :=
  let flushed := call (FileWatcherService.flush now) system.service
  (flushed.1, ⟨system.backend.unwatch watchId, flushed.2, system.watching.erase watchId⟩)

def flush (now : Int) (system : PolledWatcher) : Except PyExc Unit × PolledWatcher :=
  let flushed := call (FileWatcherService.flush now) system.service
  (flushed.1, { system with service := flushed.2 })

def isWatching (system : PolledWatcher) (watchId : String) : Bool := watchId ∈ system.watching

def step (system : PolledWatcher) : PolledCall → Option (Except PyExc Unit × PolledWatcher)
  | .start watchId storage => system.start recursive watchId storage
  | .poll watchId storage clock => system.poll str watchId storage clock
  | .stop watchId now => some (system.stop watchId now)
  | .flush now => some (system.flush now)

/-- The watcher that a call leaves, whether it raises or not. -/
def next (system : PolledWatcher) (polledCall : PolledCall) : Option PolledWatcher :=
  (system.step str recursive polledCall).map Prod.snd

/-- The service with its configurations, before any watch is started. -/
def fresh (configs : Keyed WatchConfig.watchId) (bus : Option EventBus) : PolledWatcher :=
  ⟨⟨.empty, .empty⟩, ⟨⟨configs, .empty⟩, bus⟩, ∅⟩

/-- The events that a call has the backend report. -/
def reports (backend : StoragePollingBackend) : PolledCall → List BackendFileEvent
  | .start _ _ => []
  | .poll watchId storage _ =>
      match backend.poll storage watchId with
      | some (.ok events, _) => events
      | _ => []
  | .stop _ _ => []
  | .flush _ => []

/-- What a call is to the service alone. -/
def serviceCalls (events : List BackendFileEvent) : PolledCall → List WatcherCall
  | .start watchId _ => [.start watchId]
  | .poll _ _ clock => events.zipIdx.map (fun row => .backendEvent row.1 (clock row.2))
  | .stop watchId now => [.stop watchId now]
  | .flush now => [.flush now]

/-- What a run of the watcher is to the service alone. -/
def trace (system : PolledWatcher) : List PolledCall → List WatcherCall
  | [] => []
  | polledCall :: rest =>
      serviceCalls (reports system.backend polledCall) polledCall ++
        match system.next str recursive polledCall with
        | none => []
        | some after => trace after rest

/-- The URI is the root of the watch or below it. -/
def Below (configs : Keyed WatchConfig.watchId) (watchId uri : String) : Prop :=
  ∃ config names, configs.find? watchId = some config ∧ uri = uriBelow config.rootUri names

/-- What a call makes of the backend, and what it has it report, where every snapshot is taken. -/
inductive Turn (configs : Keyed WatchConfig.watchId) (backend : StoragePollingBackend) :
    PolledCall → List BackendFileEvent → StoragePollingBackend → Prop
  | unknown {watchId : String} {storage : PolledStorage} (absent : configs.find? watchId = none) :
      Turn configs backend (.start watchId storage) [] backend
  | start {config : WatchConfig} {storage : PolledStorage} {taken : Snapshot}
      (known : configs.find? config.watchId = some config)
      (walked : snapshot storage ⟨config, recursive config.watchId⟩ = some (.ok taken))
      (inside : ∀ row ∈ taken.rows, Below configs config.watchId row.1) :
      Turn configs backend (.start config.watchId storage) []
        ({ backend with configs := backend.configs.put ⟨config, recursive config.watchId⟩ }.holding
          config.watchId taken)
  | idle {watchId : String} {storage : PolledStorage} {clock : Nat → Int}
      (absent : backend.configs.find? watchId = none) :
      Turn configs backend (.poll watchId storage clock) [] backend
  | poll {config : PolledConfig} {storage : PolledStorage} {clock : Nat → Int} {taken : Snapshot}
      (watched : backend.configs.find? config.watchId = some config)
      (walked : snapshot storage config = some (.ok taken))
      (inside : ∀ row ∈ taken.rows, Below configs config.watchId row.1) :
      Turn configs backend (.poll config.watchId storage clock)
        (changes config.watchId (backend.previous config.watchId) taken ++
          deletions config.watchId (backend.previous config.watchId) taken)
        (backend.holding config.watchId taken)
  | stop {watchId : String} {now : Int} :
      Turn configs backend (.stop watchId now) [] (backend.unwatch watchId)
  | flush {now : Int} : Turn configs backend (.flush now) [] backend

variable {recursive} {configs : Keyed WatchConfig.watchId}

/-- What holds of the backend between calls. -/
structure Tidy (recursive : String → Bool) (configs : Keyed WatchConfig.watchId)
    (backend : StoragePollingBackend) : Prop where
  registered : ∀ watchId config, backend.configs.find? watchId = some config →
    configs.find? watchId = some config.toWatchConfig ∧ config.recursive = recursive watchId
  recalled : ∀ watchId, ∀ row ∈ (backend.previous watchId).rows, Below configs watchId row.1

theorem configs_holding (backend : StoragePollingBackend) (watchId : String) (taken : Snapshot) :
    (backend.holding watchId taken).configs = backend.configs := rfl

theorem previous_holding_of_ne (backend : StoragePollingBackend) {watchId other : String}
    (apart : other ≠ watchId) (taken : Snapshot) :
    (backend.holding watchId taken).previous other = backend.previous other := by
  unfold StoragePollingBackend.previous StoragePollingBackend.holding
  rw [Keyed.find?_put_of_ne _ _ apart.symm]

theorem previous_unwatch (backend : StoragePollingBackend) (watchId other : String) :
    (backend.unwatch watchId).previous other =
      if other = watchId then .empty else backend.previous other := by
  unfold StoragePollingBackend.previous StoragePollingBackend.unwatch
  rw [Keyed.find?_erase]
  split <;> rfl

/-- A snapshot is taken, and what is in it lies below the root. -/
theorem snapshot_taken {storage : PolledStorage} (resolved : storage.Resolved)
    (config : PolledConfig) :
    ∃ taken, snapshot storage config = some (.ok taken) ∧
      ∀ row ∈ taken.rows, ∃ names, row.1 = uriBelow config.rootUri names := by
  by_cases place : ∃ top, storage.manager.Denotes config.rootUri top
  · obtain ⟨top, denoted⟩ := place
    obtain ⟨taken, walked, entries⟩ := @snapshot_spec storage config resolved top denoted
    refine ⟨taken, walked, fun row inside => ?_⟩
    obtain ⟨names, data, _, _, below, _⟩ := (entries row.1 row.2).mp (taken.find?_of_mem inside)
    exact ⟨names, below⟩
  · have undenoted (top : HostPath) : ¬ storage.manager.Denotes config.rootUri top :=
      fun denoted => place ⟨top, denoted⟩
    exact ⟨.empty, snapshot_unresolved undenoted, fun row inside => by cases inside⟩

variable {backend after : StoragePollingBackend} {polledCall : PolledCall}
  {events : List BackendFileEvent}

theorem Turn.tidy (turn : Turn recursive configs backend polledCall events after)
    (tidy : Tidy recursive configs backend) : Tidy recursive configs after := by
  have held {other : String} {taken : Snapshot} (begun : StoragePollingBackend)
      (same : begun.snapshots = backend.snapshots)
      (inside : ∀ row ∈ taken.rows, Below configs other row.1) (watchId : String) :
      ∀ row ∈ ((begun.holding other taken).previous watchId).rows, Below configs watchId row.1 := by
    by_cases own : watchId = other
    · rw [own, previous_holding]
      exact inside
    · rw [previous_holding_of_ne _ own, StoragePollingBackend.previous, same]
      exact tidy.recalled watchId
  cases turn with
  | unknown => exact tidy
  | start known walked inside =>
      refine ⟨fun watchId found watched => ?_, held _ rfl inside⟩
      rw [configs_holding, Keyed.find?_put] at watched
      split at watched
      · rename_i same
        cases watched
        cases same
        exact ⟨known, rfl⟩
      · exact tidy.registered watchId found watched
  | idle => exact tidy
  | poll watched walked inside => exact ⟨tidy.registered, held _ rfl inside⟩
  | @stop other =>
      refine ⟨fun watchId found watched => ?_, fun watchId => ?_⟩
      · rw [StoragePollingBackend.unwatch, Keyed.find?_erase] at watched
        split at watched
        · cases watched
        · exact tidy.registered watchId found watched
      · rw [previous_unwatch]
        split
        · exact fun row inside => by cases inside
        · exact tidy.recalled watchId
  | flush => exact tidy

/-- What is reported is of the watch that is polled, one of the backend's, and below its root. -/
theorem Turn.reported (turn : Turn recursive configs backend polledCall events after)
    (tidy : Tidy recursive configs backend) {event : BackendFileEvent} (sent : event ∈ events) :
    polledCall.watch? = some event.watchId ∧ Below configs event.watchId event.uri ∧
      ∃ config, backend.configs.find? event.watchId = some config := by
  cases turn with
  | unknown => cases sent
  | start => cases sent
  | idle => cases sent
  | @poll config storage clock taken watched walked inside =>
      rcases List.mem_append.mp sent with sent | sent
      · obtain ⟨uri, size, found, ⟨_, rfl⟩ | ⟨_, _, _, rfl⟩⟩ := (mem_changes _ _ _ event).mp sent
        · exact ⟨rfl, inside _ (Keyed.mem_of_find? found), config, watched⟩
        · exact ⟨rfl, inside _ (Keyed.mem_of_find? found), config, watched⟩
      · obtain ⟨uri, size, known, _, rfl⟩ := (mem_deletions _ _ _ event).mp sent
        exact ⟨rfl, tidy.recalled _ _ (Keyed.mem_of_find? known), config, watched⟩
  | stop => cases sent
  | flush => cases sent

/-- A call that is not about a watch leaves what the backend knows of it. -/
theorem Turn.elsewhere (turn : Turn recursive configs backend polledCall events after)
    {watchId : String} (apart : polledCall.watch? ≠ some watchId) :
    after.configs.find? watchId = backend.configs.find? watchId ∧
      after.previous watchId = backend.previous watchId := by
  have other {own : String} (same : polledCall.watch? = some own) : watchId ≠ own :=
    fun equal => apart (equal ▸ same)
  cases turn with
  | unknown => exact ⟨rfl, rfl⟩
  | start known walked inside =>
      refine ⟨Keyed.find?_put_of_ne _ _ (other rfl).symm, ?_⟩
      rw [previous_holding_of_ne _ (other rfl)]
      rfl
  | idle => exact ⟨rfl, rfl⟩
  | poll watched walked inside => exact ⟨rfl, previous_holding_of_ne _ (other rfl) _⟩
  | @stop own =>
      rw [previous_unwatch, if_neg (other rfl), StoragePollingBackend.unwatch, Keyed.find?_erase,
        if_neg (other rfl)]
      exact ⟨rfl, rfl⟩
  | flush => exact ⟨rfl, rfl⟩

variable {str} {allowed : Option EventBus → Prop} {buffer : Buffer (debouncing str configs).key}

/-- The callbacks of a poll are calls on the service, each of which returns. -/
theorem call_notify (quiet : Quiet configs allowed) {bus : Option EventBus} (fits : allowed bus)
    (clock : Nat → Int) {rows : List (BackendFileEvent × Nat)} {numbered : List Numbered}
    (numbers : numbered.map Prod.snd =
      rows.map (fun row => .backendEvent row.1 (clock row.2))) :
    call (notify str clock rows) (wiredOf buffer bus) =
      (.ok (), wiredOf (run (Debounce.step (debouncing str configs)) buffer (opsOf numbered)).2
        (deliver configs (run (Debounce.step (debouncing str configs)) buffer
          (opsOf numbered)).1.flatten bus)) := by
  induction rows generalizing buffer bus numbered with
  | nil =>
      rw [List.map_eq_nil_iff.mp numbers]
      rfl
  | cons row rest ih =>
      obtain ⟨⟨serial, first⟩, later, rfl, same, others⟩ := List.map_eq_cons_iff.mp numbers
      obtain rfl : first = .backendEvent row.1 (clock row.2) := same
      have once := @onBackendEvent_step str configs buffer allowed quiet bus fits serial row.1
        (clock row.2)
      rw [notify, call_bind]
      rw [show call (FileWatcherService.onBackendEvent str row.1 (clock row.2))
        (wiredOf buffer bus) = _ from once, andThen_ok]
      refine (ih (quiet.deliver _ fits) others).trans ?_
      rw [← deliver_append]
      rfl

/-- What holds of the watcher between calls, when its service holds the buffer: what waits is of an
active watch. -/
structure Standing (recursive : String → Bool) (allowed : Option EventBus → Prop)
    (buffer : Buffer (debouncing str configs).key) (system : PolledWatcher) : Prop where
  served : system.service = wiredOf buffer system.service.bus
  fits : allowed system.service.bus
  tidy : Tidy recursive configs system.backend
  active : ∀ watchId, watchId ∈ system.watching ↔
    ∃ config, system.backend.configs.find? watchId = some config
  buffered : ∀ waiting ∈ buffer.rows,
    (∃ config, system.backend.configs.find? waiting.item.raw.watchId = some config) ∧
      Below configs waiting.item.raw.watchId waiting.item.raw.uri

/-- What waits after some calls waited before, or has been reported by them. -/
theorem waiting_after {numbered : List Numbered}
    (numbers : numbered.map Prod.snd = serviceCalls events polledCall)
    {waiting : Waiting Notification}
    (left : waiting ∈
      (run (Debounce.step (debouncing str configs)) buffer (opsOf numbered)).2.rows) :
    waiting ∈ buffer.rows ∨ waiting.item.raw ∈ events := by
  refine (came_of_waiting left).imp_right (fun came => ?_)
  have made : WatcherCall.backendEvent waiting.item.raw waiting.since ∈
      serviceCalls events polledCall :=
    numbers ▸ List.mem_map_of_mem (mem_opsOf.mp came)
  cases polledCall with
  | poll watchId storage clock =>
      obtain ⟨row, inside, same⟩ := List.mem_map.mp made
      rw [← (WatcherCall.backendEvent.inj same).1]
      exact List.fst_mem_of_mem_zipIdx inside
  | start | stop | flush =>
      have single := List.mem_singleton.mp made
      cases single

variable {system : PolledWatcher}

theorem Standing.configs_eq (standing : Standing recursive allowed buffer system) :
    system.service.service.configs = configs := by
  rw [standing.served]
  rfl

/-- What waits stays with an active watch, unless a watch is stopped. -/
theorem buffered_after (standing : Standing recursive allowed buffer system)
    (turn : Turn recursive configs system.backend polledCall events after)
    (steady : ∀ watchId config, system.backend.configs.find? watchId = some config →
      ∃ config, after.configs.find? watchId = some config)
    {numbered : List Numbered}
    (numbers : numbered.map Prod.snd = serviceCalls events polledCall) :
    ∀ waiting ∈ (run (Debounce.step (debouncing str configs)) buffer (opsOf numbered)).2.rows,
      (∃ config, after.configs.find? waiting.item.raw.watchId = some config) ∧
        Below configs waiting.item.raw.watchId waiting.item.raw.uri := by
  intro waiting left
  rcases waiting_after numbers left with before | sent
  · obtain ⟨⟨config, watched⟩, below⟩ := standing.buffered waiting before
    exact ⟨steady _ config watched, below⟩
  · obtain ⟨_, below, config, watched⟩ := turn.reported standing.tidy sent
    exact ⟨steady _ config watched, below⟩

/-- A flush of the service, whose buffer it leaves empty. -/
theorem call_flush (quiet : Quiet configs allowed) {bus : Option EventBus} (fits : allowed bus)
    {now : Int} {numbered : Numbered} (flush : numbered.op? = some (.flush now)) :
    let released := run (Debounce.step (debouncing str configs)) buffer (opsOf [numbered])
    call (FileWatcherService.flush now) (wiredOf buffer bus) =
        (.ok (), wiredOf released.2 (deliver configs released.1.flatten bus)) ∧
      released.2.rows = [] := by
  intro released
  have flushed : released = ([(Debounce.step (debouncing str configs) buffer (.flush now)).1],
      (Debounce.step (debouncing str configs) buffer (.flush now)).2) := by
    have ops : opsOf [numbered] = [.flush now] := by simp [opsOf, flush]
    rw [show released = run (Debounce.step (debouncing str configs)) buffer (opsOf [numbered]) from
      rfl, ops]
    rfl
  have once := @flush_step str configs buffer allowed quiet bus fits now
  rw [flushed]
  refine ⟨?_, List.filter_eq_nil_iff.mpr (by simp [releases])⟩
  rw [List.flatten_singleton]
  exact once

/-- What a call leaves: where the backend has turned and the service stands. -/
structure Leaves (recursive : String → Bool) (allowed : Option EventBus → Prop)
    (buffer : Buffer (debouncing str configs).key) (system : PolledWatcher)
    (polledCall : PolledCall) (numbered : List Numbered) (after : PolledWatcher) : Prop where
  taken : system.next str recursive polledCall = some after
  turn : Turn recursive configs system.backend polledCall (reports system.backend polledCall)
    after.backend
  standing : Standing recursive allowed
    (run (Debounce.step (debouncing str configs)) buffer (opsOf numbered)).2 after
  dispatched : after.service.bus = deliver configs
    (run (Debounce.step (debouncing str configs)) buffer (opsOf numbered)).1.flatten
    system.service.bus
  emptied : polledCall.Forced →
    (run (Debounce.step (debouncing str configs)) buffer (opsOf numbered)).2.rows = []

theorem start_leaves (standing : Standing recursive allowed buffer system) {watchId : String}
    {storage : PolledStorage} (resolved : storage.Resolved) (serial : Nat) :
    ∃ after, Leaves recursive allowed buffer system (.start watchId storage)
      [(serial, .start watchId)] after := by
  cases found : configs.find? watchId with
  | none =>
      refine ⟨system, ?_, .unknown found, standing, rfl, False.elim⟩
      rw [next, step, start, standing.configs_eq, found]
      rfl
  | some config =>
      obtain rfl : config.watchId = watchId := Keyed.key_of_find? found
      obtain ⟨taken, walked, inside⟩ := snapshot_taken resolved ⟨config, recursive config.watchId⟩
      have turn := @Turn.start recursive configs system.backend config storage taken found walked
        (fun row member => (inside row member).elim
          (fun names same => ⟨config, names, found, same⟩))
      have watched (watchId : String) :
          (∃ known, (system.backend.configs.put
            ⟨config, recursive config.watchId⟩).find? watchId = some known) ↔
          watchId = config.watchId ∨
            ∃ known, system.backend.configs.find? watchId = some known := by
        rw [Keyed.find?_put]
        by_cases same : config.watchId = watchId
        · simp [same]
        · simp [same, Ne.symm same]
      refine ⟨⟨_, system.service, insert config.watchId system.watching⟩, ?_, turn,
        ⟨standing.served, standing.fits, turn.tidy standing.tidy, fun watchId => ?_,
          fun waiting before => ?_⟩, rfl, False.elim⟩
      · rw [next, step, start, standing.configs_eq, found]
        simp only
        rw [watch_of_snapshot walked]
        rfl
      · rw [Finset.mem_insert, standing.active]
        exact (watched watchId).symm
      · obtain ⟨active, below⟩ := standing.buffered waiting before
        exact ⟨(watched _).mpr (.inr active), below⟩

theorem poll_leaves (quiet : Quiet configs allowed)
    (standing : Standing recursive allowed buffer system) {watchId : String}
    {storage : PolledStorage} {clock : Nat → Int} (resolved : storage.Resolved)
    {numbered : List Numbered}
    (numbers : numbered.map Prod.snd = serviceCalls
      (reports system.backend (.poll watchId storage clock)) (.poll watchId storage clock)) :
    ∃ after,
      Leaves recursive allowed buffer system (.poll watchId storage clock) numbered after := by
  cases found : system.backend.configs.find? watchId with
  | none =>
      have idle : system.backend.poll storage watchId = some (.ok [], system.backend) := by
        rw [StoragePollingBackend.poll, found]
      have nothing : reports system.backend (.poll watchId storage clock) = [] := by
        simp only [reports, idle]
      rw [nothing] at numbers
      obtain rfl := List.map_eq_nil_iff.mp numbers
      refine ⟨system, ?_, nothing ▸ .idle found, standing, rfl, False.elim⟩
      rw [next, step, poll, idle]
      rfl
  | some config =>
      have named := Keyed.key_of_find? found
      obtain rfl : config.watchId = watchId := named
      obtain ⟨registered, _⟩ := standing.tidy.registered _ config found
      obtain ⟨taken, walked, inside⟩ := snapshot_taken resolved config
      have turn := @Turn.poll recursive configs system.backend config storage clock taken found
        walked (fun row member => (inside row member).elim
          (fun names same => ⟨config.toWatchConfig, names, registered, same⟩))
      have polled := poll_of_snapshot config.watchId found walked
      have sent : reports system.backend (.poll config.watchId storage clock) =
          changes config.watchId (system.backend.previous config.watchId) taken ++
            deletions config.watchId (system.backend.previous config.watchId) taken := by
        simp only [reports, polled]
      have notified := @call_notify str configs allowed buffer quiet _ standing.fits clock _ _
        numbers
      rw [← standing.served, sent] at notified
      rw [← sent] at turn
      refine ⟨⟨_, wiredOf _ (deliver configs (run (Debounce.step (debouncing str configs)) buffer
        (opsOf numbered)).1.flatten system.service.bus), system.watching⟩, ?_, turn,
        ⟨rfl, quiet.deliver _ standing.fits, turn.tidy standing.tidy, standing.active,
          buffered_after standing turn (fun watchId config watched => ⟨config, watched⟩) numbers⟩,
        rfl, False.elim⟩
      rw [next, step, poll, polled]
      simp only [Option.map_some, notified]
      rfl

theorem stop_leaves (quiet : Quiet configs allowed)
    (standing : Standing recursive allowed buffer system) (watchId : String) (now : Int)
    (serial : Nat) :
    ∃ after, Leaves recursive allowed buffer system (.stop watchId now)
      [(serial, .stop watchId now)] after := by
  have turn := @Turn.stop recursive configs system.backend watchId now
  obtain ⟨flushed, emptied⟩ := @call_flush str configs allowed buffer quiet _ standing.fits now
    (serial, .stop watchId now) rfl
  rw [← standing.served] at flushed
  refine ⟨⟨_, wiredOf _ (deliver configs _ system.service.bus), system.watching.erase watchId⟩, ?_,
    turn, ⟨rfl, quiet.deliver _ standing.fits,
    turn.tidy standing.tidy, fun other => ?_, fun waiting left => ?_⟩, rfl,
    fun _ => emptied⟩
  · rw [next, step, stop, flushed]
    rfl
  · show other ∈ system.watching.erase watchId ↔
      ∃ config, (system.backend.configs.erase watchId).find? other = some config
    rw [Finset.mem_erase, standing.active, Keyed.find?_erase]
    by_cases same : other = watchId
    · simp [same]
    · simp [same]
  · rw [emptied] at left
    cases left

theorem flush_leaves (quiet : Quiet configs allowed)
    (standing : Standing recursive allowed buffer system) (now : Int) (serial : Nat) :
    ∃ after, Leaves recursive allowed buffer system (.flush now) [(serial, .flush now)] after := by
  obtain ⟨flushed, emptied⟩ := @call_flush str configs allowed buffer quiet _ standing.fits now
    (serial, .flush now) rfl
  rw [← standing.served] at flushed
  refine ⟨⟨system.backend, wiredOf _ (deliver configs _ system.service.bus), system.watching⟩, ?_,
    .flush, ⟨rfl, quiet.deliver _ standing.fits,
    standing.tidy, standing.active, fun waiting left => ?_⟩, rfl, fun _ => emptied⟩
  · rw [next, step, flush, flushed]
    rfl
  · rw [emptied] at left
    cases left

/-- Each call leaves a standing watcher, with what the buffer makes of it. -/
theorem next_leaves (quiet : Quiet configs allowed)
    (standing : Standing recursive allowed buffer system) (resolved : polledCall.Resolved)
    {numbered : List Numbered}
    (numbers : numbered.map Prod.snd =
      serviceCalls (reports system.backend polledCall) polledCall) :
    ∃ after, Leaves recursive allowed buffer system polledCall numbered after := by
  cases polledCall with
  | start watchId storage =>
      obtain ⟨⟨serial, _⟩, rfl, rfl⟩ := List.map_eq_singleton_iff.mp numbers
      exact start_leaves standing resolved serial
  | poll watchId storage clock => exact poll_leaves quiet standing resolved numbers
  | stop watchId now =>
      obtain ⟨⟨serial, _⟩, rfl, rfl⟩ := List.map_eq_singleton_iff.mp numbers
      exact stop_leaves quiet standing watchId now serial
  | flush now =>
      obtain ⟨⟨serial, _⟩, rfl, rfl⟩ := List.map_eq_singleton_iff.mp numbers
      exact flush_leaves quiet standing now serial

/-- The events that the service is told of by the backend. -/
def received (calls : List WatcherCall) : List BackendFileEvent :=
  calls.filterMap (fun watcherCall =>
    match watcherCall with
    | .backendEvent raw _ => some raw
    | _ => none)

theorem received_append (front back : List WatcherCall) :
    received (front ++ back) = received front ++ received back := List.filterMap_append

theorem received_serviceCalls (backend : StoragePollingBackend) (polledCall : PolledCall) :
    received (serviceCalls (reports backend polledCall) polledCall) =
      reports backend polledCall := by
  cases polledCall with
  | poll watchId storage clock =>
      rw [serviceCalls, received, List.filterMap_map]
      exact (List.filterMap_eq_map (f := Prod.fst) ▸ List.zipIdx_map_fst 0 _)
  | start | stop | flush => rfl

/-- What the calls of a run make of the backend, one after another. -/
inductive Turns (recursive : String → Bool) (configs : Keyed WatchConfig.watchId) :
    StoragePollingBackend → List PolledCall → List BackendFileEvent → StoragePollingBackend → Prop
  | nil (backend : StoragePollingBackend) : Turns recursive configs backend [] [] backend
  | cons {backend middle after : StoragePollingBackend} {polledCall : PolledCall}
      {calls : List PolledCall} {events later : List BackendFileEvent}
      (turn : Turn recursive configs backend polledCall events middle)
      (rest : Turns recursive configs middle calls later after) :
      Turns recursive configs backend (polledCall :: calls) (events ++ later) after

/-- Calls that leave a standing watcher, with what the buffer makes of them. -/
theorem run_leaves (quiet : Quiet configs allowed)
    (standing : Standing recursive allowed buffer system) {calls : List PolledCall}
    (resolved : ∀ polledCall ∈ calls, polledCall.Resolved) {numbered : List Numbered}
    (numbers : numbered.map Prod.snd = trace str recursive system calls) :
    let released := run (Debounce.step (debouncing str configs)) buffer (opsOf numbered)
    ∃ after, calls.foldlM (next str recursive) system = some after ∧
      Turns recursive configs system.backend calls (received (trace str recursive system calls))
        after.backend ∧
      Standing recursive allowed released.2 after ∧
      after.service.bus = deliver configs released.1.flatten system.service.bus ∧
      ∀ last, calls.getLast? = some last → last.Forced → released.2.rows = [] := by
  induction calls generalizing system buffer numbered with
  | nil =>
      obtain rfl := List.map_eq_nil_iff.mp numbers
      exact ⟨system, rfl, .nil _, standing, rfl, fun _ none => by cases none⟩
  | cons polledCall rest ih =>
      obtain ⟨first, later, rfl, own, others⟩ := List.map_eq_append_iff.mp numbers
      obtain ⟨middle, leaves⟩ := next_leaves quiet standing (resolved _ List.mem_cons_self) own
      rw [trace, leaves.taken] at numbers ⊢
      rw [leaves.taken] at others
      obtain ⟨after, ran, turns, stands, delivered, emptied⟩ := ih leaves.standing
        (fun other inside => resolved other (List.mem_cons_of_mem _ inside)) others
      refine ⟨after, ?_, ?_, ?_, ?_, fun last ending forced => ?_⟩
      · rw [List.foldlM_cons, leaves.taken]
        exact ran
      · rw [received_append, received_serviceCalls]
        exact .cons leaves.turn turns
      · rw [opsOf_append, run_append_state]
        exact stands
      · rw [opsOf_append, run_append_answers, List.flatten_append, deliver_append,
          ← leaves.dispatched]
        exact delivered
      · rw [opsOf_append, run_append_state]
        cases rest with
        | nil =>
            obtain rfl := List.map_eq_nil_iff.mp others
            cases ending
            exact leaves.emptied forced
        | cons other more => exact emptied last (List.getLast?_cons_cons ▸ ending) forced

end PolledWatcher

end LexMind.Watcher
