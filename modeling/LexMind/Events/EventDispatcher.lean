import LexMind.Events.EventBus

set_option autoImplicit false

namespace LexMind.Events

open Lib

/-- A logging hook as what it does at each of its calls. -/
abbrev LoggingHook := Nat → EventObject → EventResult → Except PyExc Unit

/-- `calls` records every handler invocation, in order. -/
structure EventDispatcher where
  hook : Option LoggingHook
  stats : DispatchStats
  calls : List (EventHandler × EventObject)

namespace EventDispatcher

/-- Invoke one handler; what it raises becomes a failed result. -/
def invoke (event : EventObject) (handler : EventHandler) : Py EventDispatcher EventResult := do
  modify (fun dispatcher => { dispatcher with calls := dispatcher.calls ++ [(handler, event)] })
  match handler.handle event with
  | .error exc =>
      modify (fun dispatcher => { dispatcher with
        stats := ⟨dispatcher.stats.total + 1, dispatcher.stats.errors + 1⟩ })
      return ⟨handler.name, false, some exc.text, .null⟩
  | .ok output =>
      modify (fun dispatcher => { dispatcher with
        stats := ⟨dispatcher.stats.total + 1, dispatcher.stats.errors⟩ })
      return ⟨handler.name, true, none, output⟩

/-- `if self._hook is not None: self._hook(event, result)`; the hook has been called once for
each invocation counted. -/
def observe (event : EventObject) (result : EventResult) : Py EventDispatcher Unit := do
  let dispatcher ← get
  match dispatcher.hook with
  | none => pure ()
  | some hook => check (hook dispatcher.stats.total event result)

/-- Only `handle` is isolated: what `accepts` and the hook raise ends the loop. -/
def dispatch (event : EventObject) : List EventHandler → Py EventDispatcher (List EventResult)
  | [] => pure []
  | handler :: rest => do
      if ← check (handler.accepts event) then
        let result ← invoke event handler
        observe event result
        let results ← dispatch event rest
        return result :: results
      else dispatch event rest

/-- The result of an invocation, whether it returns or raises. -/
def resultOf (event : EventObject) (handler : EventHandler) : EventResult :=
  match handler.handle event with
  | .error exc => ⟨handler.name, false, some exc.text, .null⟩
  | .ok output => ⟨handler.name, true, none, output⟩

def accepting (event : EventObject) (handler : EventHandler) : Bool :=
  match handler.accepts event with
  | .ok answer => answer
  | .error _ => false

def hookAnswer (dispatcher : EventDispatcher) (count : Nat) (event : EventObject)
    (result : EventResult) : Except PyExc Unit :=
  match dispatcher.hook with
  | none => .ok ()
  | some hook => hook count event result

/-- The hook returns on the result of each of the handlers, invoked in this order. -/
def HookReturns (dispatcher : EventDispatcher) (event : EventObject)
    (handlers : List EventHandler) : Prop :=
  ∀ index handler, handlers[index]? = some handler →
    dispatcher.hookAnswer (dispatcher.stats.total + index + 1) event (resultOf event handler) =
      .ok ()

/-- The dispatcher after an invocation. -/
def invoked (dispatcher : EventDispatcher) (event : EventObject) (handler : EventHandler) :
    EventDispatcher :=
  (call (invoke event handler) dispatcher).2

variable (event : EventObject) (handler : EventHandler) (dispatcher : EventDispatcher)

theorem call_invoke : call (invoke event handler) dispatcher =
    (.ok (resultOf event handler), dispatcher.invoked event handler) := by
  unfold invoked invoke resultOf
  cases handler.handle event <;> simp

theorem invoked_calls :
    (dispatcher.invoked event handler).calls = dispatcher.calls ++ [(handler, event)] := by
  unfold invoked invoke
  cases handler.handle event <;> simp

theorem invoked_total :
    (dispatcher.invoked event handler).stats.total = dispatcher.stats.total + 1 := by
  unfold invoked invoke
  cases handler.handle event <;> simp

theorem invoked_hook : (dispatcher.invoked event handler).hook = dispatcher.hook := by
  unfold invoked invoke
  cases handler.handle event <;> simp

theorem call_observe (result : EventResult) : call (observe event result) dispatcher =
    (dispatcher.hookAnswer dispatcher.stats.total event result, dispatcher) := by
  unfold observe hookAnswer
  rw [call_bind, call_get, andThen_ok]
  cases dispatcher.hook <;> simp

variable {event handler dispatcher}

/-- One invocation later, the hook has one result behind it. -/
theorem hookReturns_cons {rest : List EventHandler} :
    dispatcher.HookReturns event (handler :: rest) ↔
      dispatcher.hookAnswer (dispatcher.stats.total + 1) event (resultOf event handler) = .ok () ∧
        (dispatcher.invoked event handler).HookReturns event rest := by
  have same (count : Nat) (result : EventResult) :
      (dispatcher.invoked event handler).hookAnswer count event result =
        dispatcher.hookAnswer count event result := by
    rw [hookAnswer, hookAnswer, invoked_hook]
  unfold HookReturns
  simp only [same, invoked_total]
  constructor
  · intro returns
    refine ⟨returns 0 handler rfl, fun index other found => ?_⟩
    have later := returns (index + 1) other (by simpa using found)
    rwa [show dispatcher.stats.total + (index + 1) + 1 = dispatcher.stats.total + 1 + index + 1 by
      omega] at later
  · rintro ⟨first, later⟩ index other found
    cases index with
    | zero =>
        cases Option.some.inj found
        exact first
    | succ index =>
        have next := later index other (by simpa using found)
        rwa [show dispatcher.stats.total + 1 + index + 1 = dispatcher.stats.total + (index + 1) + 1
          by omega] at next

section Turns

variable {rest : List EventHandler}

theorem dispatch_raised {exc : PyExc} (answered : handler.accepts event = .error exc) :
    call (dispatch event (handler :: rest)) dispatcher = (.error exc, dispatcher) := by
  rw [dispatch, call_bind, call_check, answered, andThen_error]

theorem dispatch_declined (answered : handler.accepts event = .ok false) :
    call (dispatch event (handler :: rest)) dispatcher = call (dispatch event rest) dispatcher := by
  rw [dispatch, call_bind, call_check, answered, andThen_ok]
  rfl

/-- A handler that accepts is invoked; whether the others follow is up to the hook. -/
theorem dispatch_accepted (answered : handler.accepts event = .ok true) :
    call (dispatch event (handler :: rest)) dispatcher =
      andThen (dispatcher.hookAnswer (dispatcher.stats.total + 1) event (resultOf event handler),
        dispatcher.invoked event handler)
        (fun _ => (resultOf event handler :: ·) <$> dispatch event rest) := by
  have hook : (dispatcher.invoked event handler).hookAnswer (dispatcher.stats.total + 1) event
      (resultOf event handler) =
        dispatcher.hookAnswer (dispatcher.stats.total + 1) event (resultOf event handler) := by
    rw [hookAnswer, hookAnswer, invoked_hook]
  rw [dispatch, call_bind, call_check, answered, andThen_ok]
  simp only [↓reduceIte, call_bind, call_invoke, andThen_ok, call_observe, invoked_total, hook]
  rfl

end Turns

/-- Where no `accepts` and no call of the hook raises, the accepting handlers are invoked, each
once and in the order of the list, and each result is kept. -/
theorem dispatch_returns {handlers : List EventHandler}
    (accepts : ∀ handler ∈ handlers, ∃ answer, handler.accepts event = .ok answer)
    (hooked : dispatcher.HookReturns event (handlers.filter (accepting event))) :
    ∃ after, call (dispatch event handlers) dispatcher =
        (.ok ((handlers.filter (accepting event)).map (resultOf event)), after) ∧
      after.calls = dispatcher.calls ++
        (handlers.filter (accepting event)).map (fun handler => (handler, event)) := by
  induction handlers generalizing dispatcher with
  | nil => exact ⟨dispatcher, rfl, (List.append_nil _).symm⟩
  | cons handler rest ih =>
      obtain ⟨⟨answer, answered⟩, later⟩ := List.forall_mem_cons.mp accepts
      have own : accepting event handler = answer := by rw [accepting, answered]
      cases answer with
      | false =>
          rw [List.filter_cons_of_neg (by rw [own]; exact Bool.false_ne_true)] at hooked ⊢
          rw [dispatch_declined answered]
          exact ih later hooked
      | true =>
          rw [List.filter_cons_of_pos own] at hooked ⊢
          obtain ⟨first, others⟩ := hookReturns_cons.mp hooked
          obtain ⟨after, looped, calls⟩ := ih later others
          rw [dispatch_accepted answered, first, andThen_ok, call_map, looped]
          refine ⟨after, rfl, ?_⟩
          rw [calls, invoked_calls, List.append_assoc]
          rfl

/-- A dispatch that returns has met no `accepts` and no call of the hook that raises. -/
theorem dispatch_returned {handlers : List EventHandler} {results : List EventResult}
    {after : EventDispatcher}
    (returned : call (dispatch event handlers) dispatcher = (.ok results, after)) :
    (∀ handler ∈ handlers, ∃ answer, handler.accepts event = .ok answer) ∧
      dispatcher.HookReturns event (handlers.filter (accepting event)) := by
  induction handlers generalizing dispatcher results after with
  | nil => exact ⟨nofun, fun index handler found => by cases found⟩
  | cons handler rest ih =>
      cases answered : handler.accepts event with
      | error exc =>
          rw [dispatch_raised answered] at returned
          cases returned
      | ok answer =>
          have own : accepting event handler = answer := by rw [accepting, answered]
          cases answer with
          | false =>
              rw [dispatch_declined answered] at returned
              rw [List.filter_cons_of_neg (by rw [own]; exact Bool.false_ne_true)]
              obtain ⟨accepts, hooked⟩ := ih returned
              exact ⟨List.forall_mem_cons.mpr ⟨⟨_, answered⟩, accepts⟩, hooked⟩
          | true =>
              rw [dispatch_accepted answered] at returned
              rw [List.filter_cons_of_pos own, hookReturns_cons]
              cases first : dispatcher.hookAnswer (dispatcher.stats.total + 1) event
                  (resultOf event handler) with
              | error exc =>
                  rw [first] at returned
                  cases returned
              | ok _ =>
                  rw [first, andThen_ok, call_map] at returned
                  rcases looped : call (dispatch event rest) (dispatcher.invoked event handler) with
                    ⟨exc | others, middle⟩
                  · rw [looped] at returned
                    cases returned
                  · obtain ⟨accepts, hooked⟩ := ih looped
                    exact ⟨List.forall_mem_cons.mpr ⟨⟨_, answered⟩, accepts⟩, rfl, hooked⟩

/-- The dispatcher of a bus, whose hook is a sink. -/
def ofBus (bus : EventBus) : EventDispatcher :=
  ⟨some (fun _ _ _ => .ok ()), bus.dispatchStats, bus.calls⟩

/-- The bus once its dispatcher has changed. -/
def toBus (bus : EventBus) (dispatcher : EventDispatcher) : EventBus :=
  { bus with dispatchStats := dispatcher.stats, calls := dispatcher.calls }

theorem bus_invoke (event : EventObject) (handler : EventHandler) (bus : EventBus) :
    call (EventBus.invoke event handler) bus =
      (.ok (resultOf event handler), toBus bus ((ofBus bus).invoked event handler)) := by
  unfold EventBus.invoke invoked invoke resultOf
  cases handler.handle event <;> simp [toBus, ofBus]

theorem ofBus_invoked (event : EventObject) (handler : EventHandler) (bus : EventBus) :
    ofBus (toBus bus ((ofBus bus).invoked event handler)) = (ofBus bus).invoked event handler := by
  unfold invoked invoke
  cases handler.handle event <;> simp [toBus, ofBus]

/-- A bus hands its events out as its dispatcher does. -/
theorem bus_dispatch (event : EventObject) (handlers : List EventHandler) (bus : EventBus) :
    call (EventBus.dispatch event handlers) bus =
      ((call (dispatch event handlers) (ofBus bus)).1,
        toBus bus (call (dispatch event handlers) (ofBus bus)).2) := by
  induction handlers generalizing bus with
  | nil => rfl
  | cons handler rest ih =>
      cases answered : handler.accepts event with
      | error exc =>
          rw [dispatch_raised answered, EventBus.dispatch, call_bind, call_check, answered]
          rfl
      | ok answer =>
          cases answer with
          | false =>
              rw [dispatch_declined answered, EventBus.dispatch, call_bind, call_check, answered,
                andThen_ok]
              exact ih bus
          | true =>
              have sink : (ofBus bus).hookAnswer ((ofBus bus).stats.total + 1) event
                  (resultOf event handler) = .ok () := rfl
              rw [dispatch_accepted answered, sink, andThen_ok, call_map, EventBus.dispatch,
                call_bind, call_check, answered, andThen_ok]
              simp only [↓reduceIte, call_bind, bus_invoke, andThen_ok, ih, ofBus_invoked,
                andThen_pure]
              rfl

end EventDispatcher

end LexMind.Events
