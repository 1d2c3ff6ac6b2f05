import LexMind.Lib.SharedDebounce
import LexMind.Watcher.FileWatcher

set_option autoImplicit false

/- Runs of the watcher service, and the debouncing buffer they are runs of. -/
namespace LexMind.Watcher

open Lib Events Debounce

namespace FileWatcherService

/-- What the backend does to watch is not the service's. -/
def start (watchId : String) : WatcherPy Unit := do
  match (← get).service.configs.find? watchId with
  | none => throw (.keyError ("Unknown watch_id: " ++ watchId))
  | some _ => pure ()

def stop (_ : String) (now : Int) : WatcherPy Unit := flush now

end FileWatcherService

/-- The calls on a service, each with the time its clock shows. -/
inductive WatcherCall
  | backendEvent (raw : BackendFileEvent) (now : Int)
  | start (watchId : String)
  | stop (watchId : String) (now : Int)
  | flush (now : Int)

/-- The watch the call is about, if it is about one. -/
def WatcherCall.watch? : WatcherCall → Option String
  | .backendEvent raw _ => some raw.watchId
  | .start watchId => some watchId
  | .stop watchId _ => some watchId
  | .flush _ => none

def WatcherCall.program (str : StrMethods) : WatcherCall → WatcherPy Unit
  | .backendEvent raw now => FileWatcherService.onBackendEvent str raw now
  | .start watchId => FileWatcherService.start watchId
  | .stop watchId now => FileWatcherService.stop watchId now
  | .flush now => FileWatcherService.flush now

def watcherStep (str : StrMethods) (wired : Wired FileWatcherService) (watcherCall : WatcherCall) :
    Except PyExc Unit × Wired FileWatcherService :=
  call (watcherCall.program str) wired

/-- A raw event as the one object the backend hands over. -/
structure Notification where
  serial : Nat
  raw : BackendFileEvent
deriving DecidableEq

def debouncing (str : StrMethods) (configs : Keyed WatchConfig.watchId) :
    Policy String Notification where
  key := fun notification => notification.raw.uri
  window := fun notification =>
    match configs.find? notification.raw.watchId with
    | none => 0
    | some config => config.debounceSeconds
  accepts := fun notification =>
    match configs.find? notification.raw.watchId with
    | none => false
    | some config => config.enabled ∧ config.acceptsExtension str notification.raw.uri

/-- A call with its number in the run. -/
abbrev Numbered := Nat × WatcherCall

/-- What a call is to the buffer; a start is nothing to it. -/
def Numbered.op? : Numbered → Option (Op Notification)
  | (serial, .backendEvent raw now) => some (.item ⟨serial, raw⟩ now)
  | (_, .start _) => none
  | (_, .stop _ now) => some (.flush now)
  | (_, .flush now) => some (.flush now)

def opsOf (calls : List Numbered) : List (Op Notification) := calls.filterMap Numbered.op?

def number (calls : List WatcherCall) : List Numbered := calls.zipIdx.map Prod.swap

variable (str : StrMethods) (configs : Keyed WatchConfig.watchId)

/-- The notifications that the service has dispatched after a run, in their order. -/
def dispatched (calls : List Numbered) : List Notification :=
  releasedBy (debouncing str configs) (opsOf calls)

def toPending (waiting : Waiting Notification) : Pending := ⟨waiting.since, waiting.item.raw⟩

/-- The table `_pending` of a buffer. -/
def pendingOf (buffer : Buffer (debouncing str configs).key) : Keyed Pending.uri :=
  ⟨buffer.rows.map toPending, by
    rw [List.map_map]
    exact buffer.distinct⟩

/-- What a dispatch answers, and the bus it leaves. -/
def sends (raw : BackendFileEvent) : Option EventBus → Except PyExc Unit × Option EventBus
  | none => (.ok (), none)
  | some bus =>
      match configs.find? raw.watchId with
      | none => (.ok (), some bus)
      | some config =>
          let published := call (EventBus.publish (fileEvent config raw)) bus
          (published.1.map (fun _ => ()), some published.2)

/-- The bus after the notifications have been dispatched one after another. -/
def deliver (notifications : List Notification) (bus : Option EventBus) : Option EventBus :=
  notifications.foldl (fun bus notification => (sends configs notification.raw bus).2) bus

/-- A dispatcher that never raises, however often it is called. -/
def Quiet (allowed : Option EventBus → Prop) : Prop :=
  ∀ raw bus, allowed bus → (sends configs raw bus).1 = .ok () ∧ allowed (sends configs raw bus).2

theorem quiet_without_bus : Quiet configs (fun bus => bus = none) := by
  rintro raw bus rfl
  exact ⟨rfl, rfl⟩

variable {configs}

/-- Dispatching changes the bus only. -/
theorem call_dispatch (raw : BackendFileEvent) (pending : Keyed Pending.uri) (bus : Option EventBus) :
    call (FileWatcherService.dispatch raw) ⟨⟨configs, pending⟩, bus⟩ =
      ((sends configs raw bus).1, ⟨⟨configs, pending⟩, (sends configs raw bus).2⟩) := by
  unfold FileWatcherService.dispatch sends
  cases bus with
  | none => cases found : configs.find? raw.watchId <;> simp [found]
  | some bus => cases found : configs.find? raw.watchId <;> simp [found, emit]

theorem deliver_append (front back : List Notification) (bus : Option EventBus) :
    deliver configs (front ++ back) bus = deliver configs back (deliver configs front bus) :=
  List.foldl_append

theorem Quiet.deliver {allowed : Option EventBus → Prop} (quiet : Quiet configs allowed)
    (notifications : List Notification) {bus : Option EventBus} (fits : allowed bus) :
    allowed (Watcher.deliver configs notifications bus) := by
  induction notifications generalizing bus with
  | nil => exact fits
  | cons notification rest ih => exact ih (quiet notification.raw bus fits).2

/-- Each leaves the buffer, and is dispatched. -/
theorem call_dispatchDue {allowed : Option EventBus → Prop} (quiet : Quiet configs allowed)
    (waiting : List (Waiting Notification)) (pending : Keyed Pending.uri) {bus : Option EventBus}
    (fits : allowed bus) :
    call (FileWatcherService.dispatchDue (waiting.map toPending)) ⟨⟨configs, pending⟩, bus⟩ =
      (.ok (), ⟨⟨configs, (waiting.map toPending).foldl (fun table row => table.erase row.uri) pending⟩,
        deliver configs (waiting.map Waiting.item) bus⟩) := by
  induction waiting generalizing pending bus with
  | nil => rfl
  | cons first rest ih =>
      obtain ⟨answer, after⟩ := quiet first.item.raw bus fits
      simp only [List.map_cons, FileWatcherService.dispatchDue, call_bind, call_modify, andThen_ok]
      rw [show (toPending first).event = first.item.raw from rfl, call_dispatch, answer, andThen_ok,
        ih _ after]
      rfl

variable {str} {buffer : Buffer (debouncing str configs).key}

/-- The window of a buffered notification is that of its own watch. -/
theorem debounceSeconds_pendingOf {waiting : Waiting Notification} (inside : waiting ∈ buffer.rows) :
    FileWatcherService.debounceSeconds ⟨configs, pendingOf str configs buffer⟩
        (toPending waiting).uri =
      (debouncing str configs).window waiting.item := by
  have found : (pendingOf str configs buffer).find? (toPending waiting).uri =
      some (toPending waiting) :=
    Keyed.find?_of_mem _ (List.mem_map_of_mem inside)
  unfold FileWatcherService.debounceSeconds debouncing
  rw [found]
  dsimp only [toPending]
  cases configs.find? waiting.item.raw.watchId <;> rfl

theorem due_pendingOf (now : Int) :
    FileWatcherService.due ⟨configs, pendingOf str configs buffer⟩ now false =
      (buffer.rows.filter (isDue (debouncing str configs) now)).map toPending := by
  show (buffer.rows.map toPending).filter _ = _
  rw [List.filter_map]
  congr 1
  apply List.filter_congr
  intro waiting inside
  have window := debounceSeconds_pendingOf inside
  simp only [Function.comp_apply, Bool.false_eq_true, false_or, isDue]
  rw [window]
  rfl

theorem due_forced (now : Int) :
    FileWatcherService.due ⟨configs, pendingOf str configs buffer⟩ now true =
      (buffer.rows.filter (fun _ => true)).map toPending := by
  show (buffer.rows.map toPending).filter _ = _
  rw [List.filter_map]
  congr 1

/-- The rows that have left the buffer have left the table. -/
theorem pendingOf_erased (free : Waiting Notification → Bool) :
    ((buffer.rows.filter free).map toPending).foldl (fun table row => table.erase row.uri)
        (pendingOf str configs buffer) =
      pendingOf str configs (buffer.restrict (fun waiting => !free waiting)) := by
  apply Keyed.ext_rows
  have erased := congrArg Keyed.rows (buffer.foldl_erase_filter free)
  rw [Keyed.rows_foldl_erase] at erased
  calc (((buffer.rows.filter free).map toPending).foldl (fun table row => table.erase row.uri)
          (pendingOf str configs buffer)).rows
      = (buffer.rows.filter (fun waiting => (debouncing str configs).key waiting.item ∉
          (buffer.rows.filter free).map (fun waiting =>
            (debouncing str configs).key waiting.item))).map toPending := by
        rw [Keyed.rows_foldl_erase]
        show (buffer.rows.map toPending).filter _ = _
        rw [List.filter_map, List.map_map]
        rfl
    _ = (pendingOf str configs (buffer.restrict (fun waiting => !free waiting))).rows :=
        congrArg (List.map toPending) erased

theorem call_drain {allowed : Option EventBus → Prop} (quiet : Quiet configs allowed)
    {bus : Option EventBus} (fits : allowed bus) (now : Int) (force : Bool)
    {free : Waiting Notification → Bool}
    (chosen : FileWatcherService.due ⟨configs, pendingOf str configs buffer⟩ now force =
      (buffer.rows.filter free).map toPending) :
    call (FileWatcherService.drain now force) ⟨⟨configs, pendingOf str configs buffer⟩, bus⟩ =
      (.ok (), ⟨⟨configs, pendingOf str configs (buffer.restrict (fun waiting => !free waiting))⟩,
        deliver configs ((buffer.rows.filter free).map Waiting.item) bus⟩) := by
  rw [FileWatcherService.drain, call_bind, call_get, andThen_ok, chosen,
    call_dispatchDue quiet _ _ fits, pendingOf_erased]

/-- An accepted notification is buffered where the one of its file is. -/
theorem pendingOf_put (serial : Nat) (raw : BackendFileEvent) (now : Int) :
    (pendingOf str configs buffer).put ⟨now, raw⟩ =
      pendingOf str configs (buffer.put ⟨now, ⟨serial, raw⟩⟩) := by
  apply Keyed.ext_rows
  show Keyed.putRows Pending.uri (buffer.rows.map toPending) (toPending ⟨now, ⟨serial, raw⟩⟩) =
    (Keyed.putRows _ buffer.rows _).map toPending
  exact Keyed.putRows_map toPending (fun _ _ => Iff.rfl)

variable {allowed : Option EventBus → Prop}

/-- What a raw event does to the table and the bus is what the buffer does with it. -/
theorem onBackendEvent_step (quiet : Quiet configs allowed) {bus : Option EventBus}
    (fits : allowed bus) (serial : Nat) (raw : BackendFileEvent) (now : Int) :
    let after := Debounce.step (debouncing str configs) buffer (.item ⟨serial, raw⟩ now)
    call (FileWatcherService.onBackendEvent str raw now)
        ⟨⟨configs, pendingOf str configs buffer⟩, bus⟩ =
      (.ok (), ⟨⟨configs, pendingOf str configs after.2⟩, deliver configs after.1 bus⟩) := by
  cases found : configs.find? raw.watchId with
  | none =>
      have rejected : (debouncing str configs).accepts ⟨serial, raw⟩ = false := by
        simp [debouncing, found]
      simp [FileWatcherService.onBackendEvent, found, step_of_rejected rejected, deliver]
  | some config =>
      by_cases fit : config.enabled = true ∧ config.acceptsExtension str raw.uri = true
      · have accepted : (debouncing str configs).accepts ⟨serial, raw⟩ = true := by
          simpa [debouncing, found] using fit
        have drained := call_drain quiet fits now false
          (@due_pendingOf str configs (buffer.put ⟨now, ⟨serial, raw⟩⟩) now)
        rw [step_of_accepted accepted]
        simpa [FileWatcherService.onBackendEvent, found, fit, pendingOf_put serial] using drained
      · have rejected : (debouncing str configs).accepts ⟨serial, raw⟩ = false := by
          simpa [debouncing, found] using fit
        simp [FileWatcherService.onBackendEvent, found, fit, step_of_rejected rejected, deliver]

theorem flush_step (quiet : Quiet configs allowed) {bus : Option EventBus} (fits : allowed bus)
    (now : Int) :
    let after := Debounce.step (debouncing str configs) buffer (.flush now)
    call (FileWatcherService.flush now) ⟨⟨configs, pendingOf str configs buffer⟩, bus⟩ =
      (.ok (), ⟨⟨configs, pendingOf str configs after.2⟩, deliver configs after.1 bus⟩) :=
  call_drain quiet fits now true (due_forced now)

/-- A start changes neither the table nor the bus, whether it raises or not. -/
theorem start_step (watchId : String) (wired : Wired FileWatcherService) :
    (watcherStep str wired (.start watchId)).2 = wired := by
  unfold watcherStep WatcherCall.program FileWatcherService.start
  cases found : wired.service.configs.find? watchId <;> simp [found]

/-- The service that a buffer stands for, with its bus. -/
def wiredOf (buffer : Buffer (debouncing str configs).key) (bus : Option EventBus) :
    Wired FileWatcherService :=
  ⟨⟨configs, pendingOf str configs buffer⟩, bus⟩

/-- A call that is a step of the buffer, before calls that are a run of it. -/
theorem run_cons_dispatches {watcherCall : WatcherCall} {op : Op Notification} {rest : List Numbered}
    {bus : Option EventBus} {after : List Notification × Buffer (debouncing str configs).key}
    (taken : step (debouncing str configs) buffer op = after)
    (first : (watcherStep str (wiredOf buffer bus) watcherCall).2 =
      wiredOf after.2 (deliver configs after.1 bus))
    (later : (run (watcherStep str) (wiredOf after.2 (deliver configs after.1 bus))
        (rest.map Prod.snd)).2 =
      wiredOf (run (step (debouncing str configs)) after.2 (opsOf rest)).2
        (deliver configs (run (step (debouncing str configs)) after.2 (opsOf rest)).1.flatten
          (deliver configs after.1 bus))) :
    (run (watcherStep str) (wiredOf buffer bus) (watcherCall :: rest.map Prod.snd)).2 =
      wiredOf (run (step (debouncing str configs)) buffer (op :: opsOf rest)).2
        (deliver configs (run (step (debouncing str configs)) buffer (op :: opsOf rest)).1.flatten
          bus) := by
  subst taken
  rw [run_cons_state, first, later, ← deliver_append]
  rfl

/-- A run of the service dispatches what the buffer releases, in order. -/
theorem run_dispatches (quiet : Quiet configs allowed) {bus : Option EventBus} (fits : allowed bus)
    (calls : List Numbered) :
    (run (watcherStep str) (wiredOf buffer bus) (calls.map Prod.snd)).2 =
      wiredOf (run (step (debouncing str configs)) buffer (opsOf calls)).2
        (deliver configs (run (step (debouncing str configs)) buffer (opsOf calls)).1.flatten
          bus) := by
  induction calls generalizing buffer bus with
  | nil => rfl
  | cons numbered rest ih =>
      obtain ⟨serial, watcherCall⟩ := numbered
      have flushed (now : Int) :
          (call (FileWatcherService.flush now) (wiredOf buffer bus)).2 =
            wiredOf (step (debouncing str configs) buffer (.flush now)).2
              (deliver configs (step (debouncing str configs) buffer (.flush now)).1 bus) :=
        congrArg Prod.snd (flush_step quiet fits now)
      cases watcherCall with
      | start watchId =>
          rw [List.map_cons, run_cons_state, start_step]
          exact ih fits
      | backendEvent raw now =>
          have first := congrArg Prod.snd
            (@onBackendEvent_step str configs buffer allowed quiet bus fits serial raw now)
          exact run_cons_dispatches rfl first (ih (quiet.deliver _ fits))
      | stop watchId now => exact run_cons_dispatches rfl (flushed now) (ih (quiet.deliver _ fits))
      | flush now => exact run_cons_dispatches rfl (flushed now) (ih (quiet.deliver _ fits))

end LexMind.Watcher
