import LexMind.Events.EventDispatcher
import LexMind.Lib.Run
import LexMind.Lib.StableSort

set_option autoImplicit false

namespace LexMind.Events

open Lib

inductive SubscriptionCall
  | add (eventName : String) (handler : EventHandler)
  | remove (eventName handlerName : String)
  | clear

namespace SubscriptionRegistry

def program : SubscriptionCall → Py SubscriptionRegistry Unit
  | .add eventName handler => add eventName handler
  | .remove eventName handlerName =>
      modify (fun subscriptions => subscriptions.remove eventName handlerName)
  | .clear => modify (fun _ => .empty)

def subscriptionStep (subscriptions : SubscriptionRegistry) (made : SubscriptionCall) :
    Except PyExc Unit × SubscriptionRegistry :=
  call (program made) subscriptions

/-- The handlers subscribed to an event, in the order of their subscription. -/
def subscribedNext (eventName : String) (handlers : List EventHandler) :
    SubscriptionCall → List EventHandler
  | .add given handler =>
      if given = eventName ∧ ∀ other ∈ handlers, other.name ≠ handler.name then handlers ++ [handler]
      else handlers
  | .remove given handlerName =>
      if given = eventName then handlers.filter (fun handler => handler.name ≠ handlerName)
      else handlers
  | .clear => []

def subscribed (eventName : String) (calls : List SubscriptionCall) : List EventHandler :=
  calls.foldl (subscribedNext eventName) []

/-- The handlers of the source by descending priority, and those of one rank as they are there. -/
structure Prioritized (source handlers : List EventHandler) : Prop where
  ranked : handlers.Pairwise
    (fun first second => priorityRank second.priority ≤ priorityRank first.priority)
  stable : ∀ rank, handlers.filter (fun handler => priorityRank handler.priority = rank) =
    source.filter (fun handler => priorityRank handler.priority = rank)

variable {source handlers : List EventHandler}

theorem Prioritized.nil : Prioritized [] [] := ⟨.nil, fun _ => rfl⟩

theorem Prioritized.mem_iff (prioritized : Prioritized source handlers) (handler : EventHandler) :
    handler ∈ handlers ↔ handler ∈ source := by
  have both : ∀ list : List EventHandler, handler ∈ list ↔ handler ∈ list.filter (fun other =>
      priorityRank other.priority = priorityRank handler.priority) := by
    intro list
    simp only [List.mem_filter, decide_true, and_true]
  rw [both handlers, both source, prioritized.stable]

theorem Prioritized.filter (prioritized : Prioritized source handlers)
    (keep : EventHandler → Bool) : Prioritized (source.filter keep) (handlers.filter keep) where
  ranked := prioritized.ranked.filter keep
  stable rank := by
    rw [List.filter_comm, prioritized.stable, List.filter_comm]

theorem Prioritized.append (prioritized : Prioritized source handlers)
    (handler : EventHandler) : Prioritized (source ++ [handler]) (insertSorted handlers handler) where
  ranked := List.pairwise_insertionSort _ _
  stable rank := by
    rw [insertSorted, StableSort.filter_insertionSort, List.filter_append, List.filter_append,
      prioritized.stable]
    intro first second left right
    have same := of_decide_eq_true left
    have other := of_decide_eq_true right
    omega

theorem handlersFor_put (subscriptions : SubscriptionRegistry) (given eventName : String)
    (handlers : List EventHandler) :
    handlersFor (subscriptions.put (given, handlers)) eventName =
      if given = eventName then handlers else subscriptions.handlersFor eventName := by
  rw [handlersFor, Keyed.find?_put]
  split <;> rfl

theorem call_add (subscriptions : SubscriptionRegistry) (given : String) (handler : EventHandler) :
    call (add given handler) subscriptions =
      if (subscriptions.handlersFor given).any (fun other => other.name = handler.name) then
        (.error (.duplicateHandler handler.name given),
          subscriptions.put (given, subscriptions.handlersFor given))
      else
        (.ok (), (subscriptions.put (given, subscriptions.handlersFor given)).put
          (given, insertSorted (subscriptions.handlersFor given) handler)) := by
  simp only [add, call_bind, call_get, andThen_ok, call_modify, call_ite, call_throw]
  split <;> rfl

/-- A subscription under a name that is taken leaves the handlers as they were. -/
theorem handlersFor_add (subscriptions : SubscriptionRegistry) (given eventName : String)
    (handler : EventHandler) :
    (call (add given handler) subscriptions).2.handlersFor eventName =
      if given = eventName ∧
          ∀ other ∈ subscriptions.handlersFor eventName, other.name ≠ handler.name then
        insertSorted (subscriptions.handlersFor eventName) handler
      else subscriptions.handlersFor eventName := by
  rw [call_add]
  by_cases same : given = eventName
  · subst same
    split
    · rename_i held
      rw [handlersFor_put, if_pos rfl, if_neg]
      simpa using held
    · rename_i free
      rw [handlersFor_put, if_pos rfl, if_pos]
      simpa using free
  · have apart : ¬ (given = eventName ∧
        ∀ other ∈ subscriptions.handlersFor eventName, other.name ≠ handler.name) :=
      fun holds => same holds.1
    rw [if_neg apart]
    split
    · rw [handlersFor_put, if_neg same]
    · rw [handlersFor_put, if_neg same, handlersFor_put, if_neg same]

/-- One call keeps the handlers of an event prioritized. -/
theorem prioritized_step {subscriptions : SubscriptionRegistry} {eventName : String}
    (prioritized : Prioritized source (subscriptions.handlersFor eventName))
    (made : SubscriptionCall) :
    Prioritized (subscribedNext eventName source made)
      ((subscriptionStep subscriptions made).2.handlersFor eventName) := by
  cases made with
  | add given handler =>
      rw [subscriptionStep, program, handlersFor_add, subscribedNext]
      simp only [prioritized.mem_iff]
      split
      · exact prioritized.append handler
      · exact prioritized
  | remove given handlerName =>
      rw [subscriptionStep, program, call_modify, remove, handlersFor_put, subscribedNext]
      split
      · rename_i same
        rw [same]
        exact prioritized.filter _
      · exact prioritized
  | clear => exact .nil

theorem prioritized_run (eventName : String) (calls : List SubscriptionCall) :
    Prioritized (subscribed eventName calls)
      ((run subscriptionStep .empty calls).2.handlersFor eventName) := by
  have steps : ∀ (subscriptions : SubscriptionRegistry) (source : List EventHandler),
      Prioritized source (subscriptions.handlersFor eventName) →
      Prioritized (calls.foldl (subscribedNext eventName) source)
        ((run subscriptionStep subscriptions calls).2.handlersFor eventName) := by
    induction calls with
    | nil => exact fun _ _ prioritized => prioritized
    | cons made rest ih =>
        intro subscriptions source prioritized
        exact ih _ _ (prioritized_step prioritized made)
  exact steps .empty [] .nil

end SubscriptionRegistry

open SubscriptionRegistry EventDispatcher in
/-- After any subscriptions, a dispatch returns and invokes exactly the handlers that accept the
event, each once, by priority and in the order of subscription, exactly where no `accepts` raises
on the event and the logging hook raises on no result. What `handle` does is never seen by the
other handlers. -/
theorem dispatch_isolation (calls : List SubscriptionCall) (eventName : String)
    (event : EventObject) (dispatcher : EventDispatcher) :
    let handlers := (run subscriptionStep .empty calls).2.handlersFor eventName
    (∃ results after invoked, call (dispatch event handlers) dispatcher = (.ok results, after) ∧
      after.calls = dispatcher.calls ++ invoked.map (fun handler => (handler, event)) ∧
      results = invoked.map (resultOf event) ∧
      Prioritized ((subscribed eventName calls).filter (accepting event)) invoked) ↔
    (∀ handler ∈ subscribed eventName calls, ∃ answer, handler.accepts event = .ok answer) ∧
      dispatcher.HookReturns event (handlers.filter (accepting event)) := by
  intro handlers
  have prioritized : Prioritized (subscribed eventName calls) handlers :=
    prioritized_run eventName calls
  simp only [← prioritized.mem_iff]
  constructor
  · rintro ⟨results, after, invoked, returned, _⟩
    exact dispatch_returned returned
  · rintro ⟨accepts, hooked⟩
    obtain ⟨after, returned, made⟩ := dispatch_returns accepts hooked
    exact ⟨_, after, _, returned, made, rfl, prioritized.filter _⟩

/-- A critical handler whose filter looks for a key that the payload lacks. -/
def filtering : EventHandler :=
  functionHandler "audit" (fun _ => .ok .null) .critical true (some (fun _ => .error (.keyError "kind")))

def plain : EventHandler := functionHandler "store" (fun _ => .ok .null) .normal true none

open SubscriptionRegistry EventDispatcher in
/-- The filter of one handler keeps the event from another that accepts it. -/
theorem dispatch_filter_raises :
    let event : EventObject := ⟨"Event", [("name", .str "job")]⟩
    let handlers := (run subscriptionStep .empty
      [.add "job" plain, .add "job" filtering]).2.handlersFor "job"
    handlers = [filtering, plain] ∧ plain.accepts event = .ok true ∧
      call (dispatch event handlers) ⟨none, ⟨0, 0⟩, []⟩ =
        (.error (.keyError "kind"), ⟨none, ⟨0, 0⟩, []⟩) :=
  ⟨rfl, rfl, rfl⟩

end LexMind.Events
