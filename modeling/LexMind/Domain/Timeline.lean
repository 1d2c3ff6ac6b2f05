import LexMind.Lib.Run
import LexMind.Lib.StableSort
import LexMind.Python
import Mathlib.Data.String.Basic

set_option autoImplicit false

namespace LexMind.Domain

open Lib

/-- The identity, the dates and the number of an event. -/
structure TimelineEvent where
  id : String
  date : Option String
  dateRangeStart : Option String
  eventOrder : Int
deriving DecidableEq, Repr

namespace TimelineEvent

/-- `e.date or ""`. -/
def sortKey (event : TimelineEvent) : String := event.date.getD ""

/-- What the sort compares. -/
def Earlier (first second : TimelineEvent) : Prop := first.sortKey ≤ second.sortKey

instance : DecidableRel Earlier := fun first second =>
  inferInstanceAs (Decidable (first.sortKey ≤ second.sortKey))

instance : Std.Total Earlier := ⟨fun first second => le_total first.sortKey second.sortKey⟩

instance : IsTrans TimelineEvent Earlier := ⟨fun _ _ _ first second => le_trans first second⟩

end TimelineEvent

/-- The events in the order of their insertion. -/
structure Timeline where
  events : Keyed TimelineEvent.id

namespace Timeline

/-- The events as `_reorder` goes through them. -/
def sorted (events : List TimelineEvent) : List TimelineEvent :=
  events.insertionSort TimelineEvent.Earlier

/-- Number the event with the id. -/
def setOrder (id : String) (order : Int) (event : TimelineEvent) : TimelineEvent :=
  if event.id = id then { event with eventOrder := order } else event

/-- The loop over the enumerated events. -/
def numberFrom : Int → List TimelineEvent → List TimelineEvent → List TimelineEvent
  | _, [], events => events
  | idx, event :: rest, events => numberFrom (idx + 1) rest (events.map (setOrder event.id idx))

theorem setOrder_id (id : String) (order : Int) (event : TimelineEvent) :
    (setOrder id order event).id = event.id := by
  unfold setOrder
  split
  · rfl
  · rfl

theorem map_id_numberFrom (idx : Int) (order events : List TimelineEvent) :
    (numberFrom idx order events).map TimelineEvent.id = events.map TimelineEvent.id := by
  induction order generalizing idx events with
  | nil => rfl
  | cons event rest ih =>
      rw [numberFrom, ih, List.map_map]
      exact List.map_congr_left fun other _ => setOrder_id _ _ other

def reorder (timeline : Timeline) : Timeline where
  events :=
    { rows := numberFrom 1 (sorted timeline.events.rows) timeline.events.rows
      distinct := by
        rw [map_id_numberFrom]
        exact timeline.events.distinct }

def addEvent (event : TimelineEvent) : Py Timeline Unit := do
  let timeline ← get
  if timeline.events.contains event.id then
    throw (.invariantViolation ("Event '" ++ event.id ++ "' already on timeline"))
  modify (fun timeline => { timeline with events := timeline.events.put event })
  modify reorder

def removeEvent (eventId : String) : Py Timeline Unit := do
  modify (fun timeline => { timeline with events := timeline.events.erase eventId })
  modify reorder

def orderedEvents (timeline : Timeline) : List TimelineEvent :=
  timeline.events.rows.insertionSort (fun first second => first.eventOrder ≤ second.eventOrder)

end Timeline

inductive TimelineCall
  | add (event : TimelineEvent)
  | remove (eventId : String)

def TimelineCall.program : TimelineCall → Py Timeline Unit
  | .add event => Timeline.addEvent event
  | .remove eventId => Timeline.removeEvent eventId

def timelineStep (timeline : Timeline) (timelineCall : TimelineCall) : Except PyExc Unit × Timeline :=
  call timelineCall.program timeline

end LexMind.Domain
