import LexMind.Lib.DebounceSafety
import LexMind.Watcher.CompletedBursts

set_option autoImplicit false

/- What the watcher dispatches, against what it has accepted. -/
namespace LexMind.Watcher

open Lib Events Debounce

/-- A flush, or a stop, which flushes. -/
def WatcherCall.Forced : WatcherCall → Prop
  | .backendEvent _ _ => False
  | .start _ => False
  | .stop _ _ => True
  | .flush _ => True

/-- What the clock shows at a call that reads it. -/
def WatcherCall.now? : WatcherCall → Option Int
  | .backendEvent _ now => some now
  | .start _ => none
  | .stop _ now => some now
  | .flush now => some now

variable (str : StrMethods) (configs : Keyed WatchConfig.watchId)

/-- The notification belongs to a known and enabled watch, and its file to the types of it. -/
structure Accepted (notification : Notification) (config : WatchConfig) : Prop where
  known : configs.find? notification.raw.watchId = some config
  enabled : config.enabled = true
  matching : config.acceptsExtension str notification.raw.uri = true

/-- The notifications that the service has accepted after a run, in their order. -/
def acceptedIn (calls : List Numbered) : List Notification :=
  admitted (debouncing str configs) (opsOf calls)

/-- A run of the service with a bus, from no pending event on. -/
def served (bus : Option EventBus) (calls : List Numbered) : Wired FileWatcherService :=
  (run (watcherStep str) ⟨⟨configs, .empty⟩, bus⟩ (calls.map Prod.snd)).2

/-- What a run dispatches was accepted in that order, once and after its time or a flush; a flush
leaves nothing, and has dispatched the last of each file. -/
structure DebounceSafe (bus : Option EventBus) (calls : List WatcherCall) : Prop where
  carried : ∀ front, front <+: number calls →
    (served str configs bus front).bus = deliver configs (dispatched str configs front) bus
  accepted : ∀ notification ∈ dispatched str configs (number calls), ∃ config now,
    Accepted str configs notification config ∧
    (notification.serial, .backendEvent notification.raw now) ∈ number calls
  once : (dispatched str configs (number calls)).Nodup
  waited : ∀ front numbered back, number calls = front ++ numbered :: back → ∃ sent,
    dispatched str configs (front ++ [numbered]) = dispatched str configs front ++ sent ∧
    ∀ notification ∈ sent, ∃ config came,
      Accepted str configs notification config ∧
      (notification.serial, .backendEvent notification.raw came) ∈ front ++ [numbered] ∧
      (numbered.2.Forced ∨ ∃ now, numbered.2.now? = some now ∧
        came + config.debounceSeconds ≤ now)
  ordered : ∀ uri,
    ((dispatched str configs (number calls)).filter (fun other => other.raw.uri = uri)).Sublist
      ((acceptedIn str configs (number calls)).filter (fun other => other.raw.uri = uri))
  flushed : ∀ front numbered back, number calls = front ++ numbered :: back → numbered.2.Forced →
    (served str configs bus (front ++ [numbered])).service.pending = .empty ∧
    ∀ uri,
      ((dispatched str configs (front ++ [numbered])).filter
        (fun other => other.raw.uri = uri)).getLast? =
      ((acceptedIn str configs (front ++ [numbered])).filter
        (fun other => other.raw.uri = uri)).getLast?

variable {str configs}

theorem accepts_iff (notification : Notification) :
    (debouncing str configs).accepts notification = true ↔
      ∃ config, Accepted str configs notification config := by
  unfold debouncing
  dsimp only
  cases found : configs.find? notification.raw.watchId with
  | none =>
      refine ⟨nofun, ?_⟩
      rintro ⟨config, known, _, _⟩
      cases found.symm.trans known
  | some config =>
      dsimp only
      constructor
      · intro passes
        obtain ⟨enabled, matching⟩ := of_decide_eq_true passes
        exact ⟨config, found, enabled, matching⟩
      · rintro ⟨other, known, enabled, matching⟩
        cases found.symm.trans known
        exact decide_eq_true ⟨enabled, matching⟩

theorem window_of_accepted {notification : Notification} {config : WatchConfig}
    (accepted : Accepted str configs notification config) :
    (debouncing str configs).window notification = config.debounceSeconds := by
  unfold debouncing
  dsimp only
  rw [accepted.known]

/-- The buffer's item is the backend's call. -/
theorem mem_opsOf {calls : List Numbered} {notification : Notification} {came : Int} :
    Op.item notification came ∈ opsOf calls ↔
      (notification.serial, .backendEvent notification.raw came) ∈ calls := by
  unfold opsOf
  rw [List.mem_filterMap]
  constructor
  · rintro ⟨⟨serial, watcherCall⟩, inside, same⟩
    cases watcherCall with
    | backendEvent raw now =>
        cases same
        exact inside
    | start watchId => cases same
    | stop watchId now => cases same
    | flush now => cases same
  · exact fun inside => ⟨_, inside, rfl⟩

theorem opsOf_append (front back : List Numbered) :
    opsOf (front ++ back) = opsOf front ++ opsOf back := List.filterMap_append

/-- A run dispatches what its calls dispatch one after another. -/
theorem dispatched_snoc (front : List Numbered) (numbered : Numbered) :
    dispatched str configs (front ++ [numbered]) = dispatched str configs front ++
      (run (step (debouncing str configs)) (run (step (debouncing str configs)) .empty
        (opsOf front)).2 (opsOf [numbered])).1.flatten := by
  unfold dispatched releasedBy
  rw [opsOf_append, run_append_answers, List.flatten_append]

/-- What a call dispatches has waited, unless it is forced. -/
theorem waited_of_dispatched {front : List Numbered} {numbered : Numbered}
    {notification : Notification}
    (sent : notification ∈ (run (step (debouncing str configs))
      (run (step (debouncing str configs)) .empty (opsOf front)).2
      (opsOf [numbered])).1.flatten) :
    ∃ came, (notification.serial, .backendEvent notification.raw came) ∈ front ++ [numbered] ∧
      (numbered.2.Forced ∨ ∃ now, numbered.2.now? = some now ∧
        came + (debouncing str configs).window notification ≤ now) := by
  have single {op : Op Notification} (is : opsOf [numbered] = [op])
      (timed : numbered.2.now? = some op.time)
      (forced : ∀ now, op = .flush now → numbered.2.Forced) :
      ∃ came, (notification.serial, .backendEvent notification.raw came) ∈ front ++ [numbered] ∧
        (numbered.2.Forced ∨ ∃ now, numbered.2.now? = some now ∧
          came + (debouncing str configs).window notification ≤ now) := by
    rw [is] at sent
    have released : notification ∈ (step (debouncing str configs)
        (run (step (debouncing str configs)) .empty (opsOf front)).2 op).1 := by
      simpa [run] using sent
    obtain ⟨came, inside, when⟩ := released_after_window released
    rw [← is, ← opsOf_append] at inside
    refine ⟨came, mem_opsOf.mp inside, ?_⟩
    rcases when with ⟨now, same⟩ | passed
    · exact .inl (forced now same)
    · exact .inr ⟨op.time, timed, passed⟩
  obtain ⟨serial, watcherCall⟩ := numbered
  cases watcherCall with
  | backendEvent raw now => exact single rfl rfl (fun _ same => by cases same)
  | start watchId => cases sent
  | stop watchId now => exact single rfl rfl (fun _ _ => trivial)
  | flush now => exact single rfl rfl (fun _ _ => trivial)

theorem accepted_of_dispatched {calls : List Numbered} {notification : Notification}
    (inside : notification ∈ dispatched str configs calls) :
    ∃ config now, Accepted str configs notification config ∧
      (notification.serial, .backendEvent notification.raw now) ∈ calls := by
  obtain ⟨passes, now, came⟩ := mem_admitted.mp (admitted_of_releasedBy inside)
  obtain ⟨config, accepted⟩ := (accepts_iff notification).mp passes
  exact ⟨config, now, accepted, mem_opsOf.mp came⟩

/-- A forced call is a flush of the buffer. -/
theorem opsOf_forced {numbered : Numbered} (forced : numbered.2.Forced) :
    ∃ now, opsOf [numbered] = [.flush now] := by
  obtain ⟨serial, watcherCall⟩ := numbered
  cases watcherCall with
  | backendEvent raw now => exact forced.elim
  | start watchId => exact forced.elim
  | stop watchId now => exact ⟨now, rfl⟩
  | flush now => exact ⟨now, rfl⟩

/-- The service over a run, as the buffer over it. -/
theorem served_eq {allowed : Option EventBus → Prop} (quiet : Quiet configs allowed)
    {bus : Option EventBus} (fits : allowed bus) (calls : List Numbered) :
    served str configs bus calls =
      wiredOf (run (step (debouncing str configs)) .empty (opsOf calls)).2
        (deliver configs (dispatched str configs calls) bus) :=
  @run_dispatches str configs .empty allowed quiet bus fits calls

/-- For all watch configurations, every dispatcher that does not raise, every clock and every
sequence of raw events, starts, stops and flushes, the debouncing is safe. -/
theorem debounce_safe {allowed : Option EventBus → Prop} (quiet : Quiet configs allowed)
    {bus : Option EventBus} (fits : allowed bus) (calls : List WatcherCall) :
    DebounceSafe str configs bus calls where
  carried := fun front _ => congrArg Wired.bus (served_eq quiet fits front)
  accepted := fun _ inside => accepted_of_dispatched inside
  once := by
    have distinct : Distinct (opsOf (number calls)) := distinct_of_serials (number_nodup calls)
    exact List.nodup_iff_count_le_one.mpr (fun item => released_at_most_once distinct item)
  waited := by
    intro front numbered back _
    refine ⟨_, dispatched_snoc front numbered, fun notification sent => ?_⟩
    have inside : notification ∈ dispatched str configs (front ++ [numbered]) := by
      rw [dispatched_snoc]
      exact List.mem_append_right _ sent
    obtain ⟨config, _, accepted, _⟩ := accepted_of_dispatched inside
    obtain ⟨came, call, when⟩ := waited_of_dispatched sent
    rw [window_of_accepted accepted] at when
    exact ⟨config, came, accepted, call, when⟩
  ordered := fun uri =>
    @releasedBy_sublist _ _ _ (debouncing str configs) (opsOf (number calls)) uri
  flushed := by
    intro front numbered back _ forced
    obtain ⟨now, flush⟩ := opsOf_forced forced
    have ending : opsOf (front ++ [numbered]) = opsOf front ++ [.flush now] := by
      rw [opsOf_append, flush]
    obtain ⟨emptied, last⟩ := @run_flush _ _ _ (debouncing str configs) (opsOf front) now
    rw [← ending] at emptied last
    refine ⟨?_, last⟩
    rw [served_eq quiet fits, emptied]
    rfl

/-- Handlers that decide about every event without raising. -/
def Deciding (bus : EventBus) : Prop :=
  ∀ name, ∀ handler ∈ bus.subscriptions.handlersFor name, ∀ event,
    ∃ answer, handler.accepts event = .ok answer

theorem invoke_ok (event : EventObject) (handler : EventHandler) (bus : EventBus) :
    ∃ result after, call (EventBus.invoke event handler) bus = (.ok result, after) ∧
      after.subscriptions = bus.subscriptions := by
  unfold EventBus.invoke
  cases handled : handler.handle event <;> simp

theorem dispatch_ok (event : EventObject) {handlers : List EventHandler}
    (deciding : ∀ handler ∈ handlers, ∃ answer, handler.accepts event = .ok answer)
    (bus : EventBus) :
    ∃ results after, call (EventBus.dispatch event handlers) bus = (.ok results, after) ∧
      after.subscriptions = bus.subscriptions := by
  induction handlers generalizing bus with
  | nil => exact ⟨[], bus, rfl, rfl⟩
  | cons handler rest ih =>
      obtain ⟨answer, decided⟩ := deciding handler List.mem_cons_self
      have later := ih (fun other inside => deciding other (List.mem_cons_of_mem handler inside))
      cases answer with
      | false =>
          obtain ⟨results, after, answered, kept⟩ := later bus
          exact ⟨results, after, by simp [EventBus.dispatch, decided, answered], kept⟩
      | true =>
          obtain ⟨result, between, invoked, same⟩ := invoke_ok event handler bus
          obtain ⟨results, after, answered, kept⟩ := later between
          exact ⟨result :: results, after,
            by simp [EventBus.dispatch, decided, invoked, answered], kept.trans same⟩

/-- What the handlers raise stays in the bus: publishing the event of a file raises nothing. -/
theorem publish_deciding (config : WatchConfig) (raw : BackendFileEvent) {bus : EventBus}
    (deciding : Deciding bus) :
    ∃ results after, call (EventBus.publish (fileEvent config raw)) bus = (.ok results, after) ∧
      after.subscriptions = bus.subscriptions := by
  have named : (fileEvent config raw).getattr "name" = .ok (.str raw.name) := rfl
  by_cases nobody : bus.subscriptions.handlersFor raw.name = []
  · simp [EventBus.publish, named, nobody]
  · obtain ⟨results, after, answered, kept⟩ := dispatch_ok (fileEvent config raw)
      (fun handler inside => deciding raw.name handler inside (fileEvent config raw))
      { bus with
        stats := { bus.stats with published := bus.stats.published + 1 }
        history := bus.history ++ [fileEvent config raw] }
    simp [EventBus.publish, named, nobody, answered, kept]

theorem quiet_deciding : Quiet configs (fun bus => ∃ deciding, bus = some deciding ∧
    Deciding deciding) := by
  rintro raw _ ⟨bus, rfl, deciding⟩
  unfold sends
  dsimp only
  cases configs.find? raw.watchId with
  | none => exact ⟨rfl, bus, rfl, deciding⟩
  | some config =>
      obtain ⟨results, after, answered, kept⟩ := publish_deciding config raw deciding
      refine ⟨?_, after, ?_, ?_⟩
      · simp [answered, Except.map]
      · simp [answered]
      · intro name handler inside
        rw [kept] at inside
        exact deciding name handler inside

/-- A bus with a handler for the events of the one file. -/
def listening : EventBus where
  registry := ["a.pdf"]
  subscriptions := Keyed.empty.put
    ("a.pdf", [functionHandler "index" (fun _ => .ok .null) .normal true none])
  dispatchStats := ⟨0, 0⟩
  stats := ⟨0, 0, 0, 0⟩
  history := []
  calls := []

theorem listening_deciding : Deciding listening := by
  intro name handler inside event
  by_cases own : name = "a.pdf"
  · subst own
    obtain rfl := List.mem_singleton.mp inside
    exact ⟨true, rfl⟩
  · have nobody : listening.subscriptions.handlersFor name = [] := by
      rw [SubscriptionRegistry.handlersFor, listening, Keyed.find?_put_of_ne _ _ (Ne.symm own)]
      rfl
    rw [nobody] at inside
    cases inside

theorem debounce_safe_one_burst :
    DebounceSafe plainStr scansConfigs (some listening) oneBurst :=
  debounce_safe quiet_deciding ⟨listening, rfl, listening_deciding⟩ oneBurst

end LexMind.Watcher
