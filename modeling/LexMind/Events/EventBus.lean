import LexMind.Python
import Mathlib.Data.List.Sort

set_option autoImplicit false

namespace LexMind.Events

open Lib

/-- The values an event attribute can hold. `generated` stands for what a default
factory fills in (a fresh id, a clock reading) and no code reads. -/
inductive AttrValue
  | null
  | str (text : String)
  | int (value : Int)
  | bool (value : Bool)
  | generated
deriving DecidableEq, Repr

/-- An object handed to the bus: its class and its attributes in slot order. The
bus is duck-typed, so nothing says that one of them is called `name`. -/
structure EventObject where
  className : String
  attributes : List (String × AttrValue)
deriving DecidableEq, Repr

def EventObject.getattr (event : EventObject) (attrName : String) : Except PyExc AttrValue :=
  match event.attributes.lookup attrName with
  | some value => .ok value
  | none => .error (.attributeError event.className attrName)

/-- A frozen, slotted `DomainEvent`: the slots of the base class, then those its
own class adds. -/
def domainEvent (className aggregateId : String) (own : List (String × AttrValue)) : EventObject where
  className := className
  attributes :=
    [("event_id", .generated), ("occurred_at", .generated),
      ("aggregate_id", .str aggregateId), ("caused_by", .null)] ++ own

inductive EventPriority
  | low
  | normal
  | high
  | critical
deriving DecidableEq, Repr

def priorityRank : EventPriority → Nat
  | .low => 0
  | .normal => 1
  | .high => 2
  | .critical => 3

/-- Any object that handles events; `accepts` and `handle` may raise. -/
structure EventHandler where
  name : String
  enabled : Bool
  priority : EventPriority
  accepts : EventObject → Except PyExc Bool
  handle : EventObject → Except PyExc AttrValue

/-- `FunctionHandler`: a callable, taken when it is enabled and its filter lets
the event through. -/
def functionHandler (name : String) (fn : EventObject → Except PyExc AttrValue)
    (priority : EventPriority) (enabled : Bool)
    (eventFilter : Option (EventObject → Except PyExc Bool)) : EventHandler where
  name := name
  enabled := enabled
  priority := priority
  accepts := fun event =>
    if enabled then
      match eventFilter with
      | none => .ok true
      | some filter => filter event
    else .ok false
  handle := fn

/-- Handlers per event name. -/
abbrev SubscriptionRegistry := Keyed (Prod.fst : String × List EventHandler → String)

namespace SubscriptionRegistry

def handlersFor (subscriptions : SubscriptionRegistry) (eventName : String) : List EventHandler :=
  ((subscriptions.find? eventName).map Prod.snd).getD []

/-- Append, then sort by descending priority; equal ranks keep their order. -/
def insertSorted (handlers : List EventHandler) (handler : EventHandler) : List EventHandler :=
  (handlers ++ [handler]).insertionSort
    (fun a b => priorityRank b.priority ≤ priorityRank a.priority)

/-- A duplicate name raises, after `setdefault` has made the event's list. -/
def add (eventName : String) (handler : EventHandler) : Py SubscriptionRegistry Unit := do
  let handlers := (← get).handlersFor eventName
  modify (fun subscriptions => subscriptions.put (eventName, handlers))
  if handlers.any (fun other => other.name = handler.name) then
    throw (.duplicateHandler handler.name eventName)
  modify (fun subscriptions => subscriptions.put (eventName, insertSorted handlers handler))

def remove (subscriptions : SubscriptionRegistry) (eventName handlerName : String) :
    SubscriptionRegistry :=
  subscriptions.put
    (eventName, (subscriptions.handlersFor eventName).filter (fun h => h.name ≠ handlerName))

end SubscriptionRegistry

structure EventResult where
  handlerName : String
  success : Bool
  error : Option String
  output : AttrValue
deriving DecidableEq, Repr

structure DispatchStats where
  total : Nat
  errors : Nat
deriving DecidableEq, Repr

structure BusStatistics where
  published : Nat
  dropped : Nat
  handlerInvocations : Nat
  errors : Nat
deriving DecidableEq, Repr

/-- `calls` records every handler invocation, in order: what subscribers see. -/
structure EventBus where
  registry : List String
  subscriptions : SubscriptionRegistry
  dispatchStats : DispatchStats
  stats : BusStatistics
  history : List EventObject
  calls : List (EventHandler × EventObject)

namespace EventBus

def subscribe (eventName : String) (handler : EventHandler) : Py EventBus Unit := do
  modify (fun bus => { bus with registry := bus.registry.insert eventName })
  onPart EventBus.subscriptions (fun bus subs => { bus with subscriptions := subs })
    (SubscriptionRegistry.add eventName handler)

/-- Invoke one handler; what it raises becomes a failed result. -/
def invoke (event : EventObject) (handler : EventHandler) : Py EventBus EventResult := do
  modify (fun bus => { bus with calls := bus.calls ++ [(handler, event)] })
  match handler.handle event with
  | .error exc =>
      modify (fun bus => { bus with
        dispatchStats := ⟨bus.dispatchStats.total + 1, bus.dispatchStats.errors + 1⟩ })
      return ⟨handler.name, false, some exc.text, .null⟩
  | .ok output =>
      modify (fun bus => { bus with
        dispatchStats := ⟨bus.dispatchStats.total + 1, bus.dispatchStats.errors⟩ })
      return ⟨handler.name, true, none, output⟩

/-- Hand the event to each handler that accepts it. Only `handle` is isolated:
what `accepts` raises ends the loop. -/
def dispatch (event : EventObject) : List EventHandler → Py EventBus (List EventResult)
  | [] => pure []
  | handler :: rest => do
      if ← check (handler.accepts event) then
        let result ← invoke event handler
        let results ← dispatch event rest
        return result :: results
      else dispatch event rest

/-- The event's attribute `name` selects the handlers. -/
def publish (event : EventObject) : Py EventBus (List EventResult) := do
  let eventName ← check (event.getattr "name")
  let subscriptions := (← get).subscriptions
  let handlers := match eventName with
    | .str text => subscriptions.handlersFor text
    | _ => []
  if handlers.isEmpty then
    modify (fun bus => { bus with stats := { bus.stats with dropped := bus.stats.dropped + 1 } })
    return []
  else
    modify (fun bus => { bus with
      stats := { bus.stats with published := bus.stats.published + 1 }
      history := bus.history ++ [event] })
    let results ← dispatch event handlers
    modify (fun bus => { bus with stats := { bus.stats with
      handlerInvocations := bus.stats.handlerInvocations + results.length
      errors := bus.dispatchStats.errors } })
    return results

/-- An object without the attribute never reaches a handler: reading it raises
before the bus changes. -/
theorem publish_unnamed (event : EventObject) (unnamed : event.attributes.lookup "name" = none)
    (bus : EventBus) :
    call (publish event) bus = (.error (.attributeError event.className "name"), bus) := by
  simp [publish, EventObject.getattr, unnamed]

/-- The handlers a dispatch invokes, up to one whose `accepts` raises. -/
def willing (event : EventObject) : List EventHandler → List EventHandler
  | [] => []
  | handler :: rest =>
      match handler.accepts event with
      | .ok true => handler :: willing event rest
      | .ok false => willing event rest
      | .error _ => []

theorem invoke_calls (event : EventObject) (handler : EventHandler) (bus : EventBus) :
    ∃ result after, call (invoke event handler) bus = (.ok result, after) ∧
      after.calls = bus.calls ++ [(handler, event)] := by
  unfold invoke
  cases handled : handler.handle event <;> simp

theorem dispatch_calls (event : EventObject) (handlers : List EventHandler) (bus : EventBus) :
    (call (dispatch event handlers) bus).2.calls =
      bus.calls ++ (willing event handlers).map (fun handler => (handler, event)) := by
  induction handlers generalizing bus with
  | nil => simp [dispatch, willing]
  | cons handler rest ih =>
      cases accepted : handler.accepts event with
      | error exc => simp [dispatch, willing, accepted]
      | ok answer =>
          cases answer with
          | false => simp [dispatch, willing, accepted, ih]
          | true =>
              obtain ⟨result, after, invoked, recorded⟩ := invoke_calls event handler bus
              simp [dispatch, willing, accepted, invoked, ih, recorded]

/-- The event's own `name` decides who is invoked. -/
theorem publish_calls (event : EventObject) (name : String)
    (named : event.attributes.lookup "name" = some (.str name)) (bus : EventBus) :
    (call (publish event) bus).2.calls = bus.calls ++
      (willing event (bus.subscriptions.handlersFor name)).map (fun handler => (handler, event)) := by
  by_cases none : bus.subscriptions.handlersFor name = []
  · simp [publish, EventObject.getattr, named, none, willing]
  · have reached := dispatch_calls event (bus.subscriptions.handlersFor name)
      { bus with
        stats := { bus.stats with published := bus.stats.published + 1 }
        history := bus.history ++ [event] }
    rw [← reached]
    simp only [publish, EventObject.getattr, named, call_bind, call_check, andThen_ok, call_get,
      List.isEmpty_iff, none, ↓reduceIte, call_modify]
    rcases call (dispatch event (bus.subscriptions.handlersFor name)) _ with ⟨answer, after⟩
    cases answer <;> simp

end EventBus

/-- A service with its optional bus. -/
structure Wired (σ : Type) where
  service : σ
  bus : Option EventBus

/-- What a service does without its bus. -/
def onService {σ α : Type} (program : Py σ α) : Py (Wired σ) α :=
  onPart Wired.service (fun wired service => { wired with service := service }) program

/-- `_emit` and `_publish`: every service publishes when it has a bus. -/
def emit {σ : Type} (event : EventObject) : Py (Wired σ) Unit := do
  match (← get).bus with
  | none => pure ()
  | some bus =>
      let _ ← onPart (fun _ => bus) (fun wired after => { wired with bus := some after })
        (EventBus.publish event)

@[simp] theorem call_onService {σ α : Type} (program : Py σ α) (service : σ)
    (bus : Option EventBus) :
    call (onService program) ⟨service, bus⟩ =
      ((call program service).1, ⟨(call program service).2, bus⟩) := by
  simp [onService]

@[simp] theorem emit_without_bus {σ : Type} (event : EventObject) (service : σ) :
    call (emit event) (⟨service, none⟩ : Wired σ) = (.ok (), ⟨service, none⟩) := by
  simp [emit]

/-- Publishing changes the bus and nothing of the service. -/
theorem emit_with_bus {σ : Type} (event : EventObject) (service : σ) (bus : EventBus) :
    (call (emit event) (⟨service, some bus⟩ : Wired σ)).2 =
      ⟨service, some (call (EventBus.publish event) bus).2⟩ := by
  simp [emit]

theorem emit_unnamed {σ : Type} (event : EventObject)
    (unnamed : event.attributes.lookup "name" = none) (service : σ) (bus : EventBus) :
    call (emit event) (⟨service, some bus⟩ : Wired σ) =
      (.error (.attributeError event.className "name"), ⟨service, some bus⟩) := by
  simp [emit, EventBus.publish_unnamed event unnamed]

/-- No slot of a `DomainEvent` is called `name` unless its own class adds one. -/
theorem domainEvent_unnamed (className aggregateId : String) (own : List (String × AttrValue))
    (absent : own.lookup "name" = none) :
    (domainEvent className aggregateId own).attributes.lookup "name" = none := by
  simpa [domainEvent, List.lookup_cons] using absent

end LexMind.Events
