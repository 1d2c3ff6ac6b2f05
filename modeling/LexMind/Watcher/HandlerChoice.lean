import LexMind.Watcher.FileWatcher

set_option autoImplicit false

namespace LexMind.Watcher

open Lib Events EventBus

/-- Two notifications that differ at most in the file they are about. -/
structure SameKind (first second : BackendFileEvent) : Prop where
  watchId : first.watchId = second.watchId
  eventType : first.eventType = second.eventType
  size : first.size = second.size

/-- Whether the handler takes an event does not depend on the event. -/
def Unfiltered (handler : EventHandler) : Prop :=
  ∀ first second, handler.accepts first = handler.accepts second

theorem functionHandler_unfiltered (name : String) (fn : EventObject → Except PyExc AttrValue)
    (priority : EventPriority) (enabled : Bool) :
    Unfiltered (functionHandler name fn priority enabled none) := by
  intro first second
  cases enabled <;> rfl

theorem willing_unfiltered (first second : EventObject) (handlers : List EventHandler)
    (unfiltered : ∀ handler ∈ handlers, Unfiltered handler) :
    willing first handlers = willing second handlers := by
  induction handlers with
  | nil => rfl
  | cons handler rest ih =>
      have same := unfiltered handler List.mem_cons_self first second
      have later := ih (fun other inside => unfiltered other (List.mem_cons_of_mem _ inside))
      simp only [willing, same, later]

theorem mem_handlersFor {subscriptions : SubscriptionRegistry} {name : String}
    {handler : EventHandler} (inside : handler ∈ subscriptions.handlersFor name) :
    ∃ row ∈ subscriptions.rows, handler ∈ row.2 := by
  unfold SubscriptionRegistry.handlersFor at inside
  cases found : subscriptions.find? name with
  | none => simp [found] at inside
  | some row => exact ⟨row, Keyed.mem_of_find? found, by simpa [found] using inside⟩

/-- The handlers the bus invokes when the watcher publishes a notification, in order. -/
def invokedHandlers (service : FileWatcherService) (bus : EventBus) (raw : BackendFileEvent) :
    List EventHandler :=
  match (call (FileWatcherService.dispatch raw) ⟨service, some bus⟩).2.bus with
  | some after => (after.calls.drop bus.calls.length).map Prod.fst
  | none => []

variable {service : FileWatcherService} {config : WatchConfig}

/-- The watched file's name is looked up as the name of an event. -/
theorem invokedHandlers_eq (bus : EventBus) (raw : BackendFileEvent)
    (watched : service.configs.find? raw.watchId = some config) :
    invokedHandlers service bus raw =
      willing (fileEvent config raw) (bus.subscriptions.handlersFor raw.name) := by
  have published := publish_calls (fileEvent config raw) raw.name rfl bus
  simp only [invokedHandlers, FileWatcherService.dispatch, call_bind, call_get, andThen_ok, watched,
    emit_with_bus, published, List.drop_left, List.map_map]
  exact List.map_id _

/-- The handlers are the same for both files exactly when the subscriptions made under
the two file names are. -/
theorem invoked_same_iff (bus : EventBus) (first second : BackendFileEvent)
    (same : SameKind first second) (watched : service.configs.find? first.watchId = some config)
    (unfiltered : ∀ row ∈ bus.subscriptions.rows, ∀ handler ∈ row.2, Unfiltered handler) :
    invokedHandlers service bus first = invokedHandlers service bus second ↔
      willing (fileEvent config first) (bus.subscriptions.handlersFor first.name) =
        willing (fileEvent config first) (bus.subscriptions.handlersFor second.name) := by
  have alike := willing_unfiltered (fileEvent config second) (fileEvent config first)
    (bus.subscriptions.handlersFor second.name) (fun handler inside => by
      obtain ⟨row, listed, held⟩ := mem_handlersFor inside
      exact unfiltered row listed handler held)
  rw [invokedHandlers_eq bus first watched,
    invokedHandlers_eq bus second (by rw [← same.watchId]; exact watched), alike]

def audit : EventHandler := functionHandler "audit" (fun _ => .ok .null) .normal true none

/-- A handler subscribed under the name of one watched file. -/
def auditBus : EventBus where
  registry := ["invoice.pdf"]
  subscriptions := Keyed.empty.put ("invoice.pdf", [audit])
  dispatchStats := ⟨0, 0⟩
  stats := ⟨0, 0, 0, 0⟩
  history := []
  calls := []

def inbox : WatchConfig :=
  ⟨"inbox", "w1", "storage://w1/inbox", [], 0, true, by decide, by decide⟩

def inboxWatcher : FileWatcherService := ⟨Keyed.empty.put inbox, .empty⟩

def createdFile (name : String) : BackendFileEvent :=
  ⟨"inbox", "storage://w1/inbox/" ++ name, name, .created, 10⟩

theorem invoked_by_file_name :
    SameKind (createdFile "invoice.pdf") (createdFile "notes.pdf") ∧
    (invokedHandlers inboxWatcher auditBus (createdFile "invoice.pdf")).map EventHandler.name =
      ["audit"] ∧
    invokedHandlers inboxWatcher auditBus (createdFile "notes.pdf") = [] ∧
    invokedHandlers inboxWatcher auditBus (createdFile "invoice.pdf") ≠
      invokedHandlers inboxWatcher auditBus (createdFile "notes.pdf") := by
  have audited : (invokedHandlers inboxWatcher auditBus (createdFile "invoice.pdf")).map
      EventHandler.name = ["audit"] := rfl
  have silent : invokedHandlers inboxWatcher auditBus (createdFile "notes.pdf") = [] := rfl
  refine ⟨⟨rfl, rfl, rfl⟩, audited, silent, ?_⟩
  intro same
  rw [same, silent] at audited
  simp at audited

/-- The handler subscribed under the names of both files. -/
def pairBus : EventBus :=
  { auditBus with subscriptions := auditBus.subscriptions.put ("notes.pdf", [audit]) }

theorem invoked_same_iff_both :
    (invokedHandlers inboxWatcher pairBus (createdFile "invoice.pdf")).map EventHandler.name =
      ["audit"] ∧
    invokedHandlers inboxWatcher pairBus (createdFile "invoice.pdf") =
      invokedHandlers inboxWatcher pairBus (createdFile "notes.pdf") := by
  refine ⟨rfl, (invoked_same_iff pairBus (createdFile "invoice.pdf") (createdFile "notes.pdf")
    ⟨rfl, rfl, rfl⟩ (rfl : inboxWatcher.configs.find? "inbox" = some inbox) ?_).mpr rfl⟩
  intro row listed handler held
  have either : row = ("notes.pdf", [audit]) ∨
      row = ("invoice.pdf", [audit]) ∧ row.1 ≠ "notes.pdf" := by
    simpa [pairBus, auditBus, Keyed.mem_put] using listed
  have only : row.2 = [audit] := by
    rcases either with rfl | ⟨rfl, -⟩
    · rfl
    · rfl
  rw [only, List.mem_singleton] at held
  exact held ▸ functionHandler_unfiltered _ _ _ _

end LexMind.Watcher
