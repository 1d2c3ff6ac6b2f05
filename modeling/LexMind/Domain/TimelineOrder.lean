import LexMind.Domain.Timeline

set_option autoImplicit false

/- The numbers of a timeline's events: which event comes before which. -/
namespace LexMind.Domain

open Lib StableSort

namespace Timeline

section Numbers

/-- Where an event stands among the sorted ones, from 1 on. -/
def rank (events : List TimelineEvent) (id : String) : Nat :=
  ((sorted events).map TimelineEvent.id).idxOf id + 1

theorem numberFrom_eq {order : List TimelineEvent} (distinct : (order.map TimelineEvent.id).Nodup)
    (idx : Int) (events : List TimelineEvent) :
    numberFrom idx order events = events.map (fun event =>
      if event.id ∈ order.map TimelineEvent.id then
        { event with eventOrder := idx + (order.map TimelineEvent.id).idxOf event.id }
      else event) := by
  induction order generalizing idx events with
  | nil => simp [numberFrom]
  | cons first rest ih =>
      rw [List.map_cons, List.nodup_cons] at distinct
      rw [numberFrom, ih distinct.2, List.map_map, List.map_cons]
      apply List.map_congr_left
      intro event _
      rw [Function.comp_apply, setOrder_id]
      by_cases same : event.id = first.id
      · have listed : event.id ∈ first.id :: rest.map TimelineEvent.id :=
          same ▸ List.mem_cons_self
        have unlisted : event.id ∉ rest.map TimelineEvent.id := same ▸ distinct.1
        rw [if_neg unlisted, if_pos listed, setOrder, if_pos same, same, List.idxOf_cons_self]
        simp
      · have index : (first.id :: rest.map TimelineEvent.id).idxOf event.id =
            (rest.map TimelineEvent.id).idxOf event.id + 1 :=
          List.idxOf_cons_ne _ fun other => same other.symm
        rw [setOrder, if_neg same, index]
        have next : idx + 1 + ((rest.map TimelineEvent.id).idxOf event.id : Int) =
            idx + (((rest.map TimelineEvent.id).idxOf event.id + 1 : Nat) : Int) := by
          omega
        simp only [List.mem_cons, same, false_or, next]

variable (timeline : Timeline)

theorem map_id_sorted_perm (events : List TimelineEvent) :
    ((sorted events).map TimelineEvent.id).Perm (events.map TimelineEvent.id) :=
  (List.perm_insertionSort _ _).map _

/-- Each event gets its rank. -/
theorem reorder_rows : timeline.reorder.events.rows = timeline.events.rows.map (fun event =>
    { event with eventOrder := rank timeline.events.rows event.id }) := by
  have perm := map_id_sorted_perm timeline.events.rows
  refine (numberFrom_eq (perm.nodup_iff.mpr timeline.events.distinct) 1 _).trans ?_
  apply List.map_congr_left
  intro event inside
  have listed : event.id ∈ (sorted timeline.events.rows).map TimelineEvent.id :=
    perm.mem_iff.mpr (List.mem_map_of_mem inside)
  rw [if_pos listed, rank, Nat.add_comm, Int.natCast_add, Int.natCast_one]

/-- The ranks do not depend on the numbers that are there. -/
theorem rank_renumbered (number : TimelineEvent → Int) (events : List TimelineEvent) (id : String) :
    rank (events.map fun event => { event with eventOrder := number event }) id = rank events id := by
  have same := List.map_insertionSort TimelineEvent.Earlier TimelineEvent.Earlier
    (fun event => { event with eventOrder := number event }) events fun _ _ _ _ => Iff.rfl
  rw [rank, sorted, ← same, List.map_map]
  rfl

/-- Which of two events comes before the other: the one with the smaller key, or of equal keys
the one that stands first. -/
theorem rank_lt_iff {events : List TimelineEvent} (distinct : (events.map TimelineEvent.id).Nodup)
    {first second : TimelineEvent} (one : first ∈ events) (other : second ∈ events)
    (differ : first ≠ second) :
    rank events first.id < rank events second.id ↔
      first.Earlier second ∧ (second.Earlier first → [first, second].Sublist events) := by
  have perm := map_id_sorted_perm events
  have nodup : ((sorted events).map TimelineEvent.id).Nodup := perm.nodup_iff.mpr distinct
  have member : ∀ event ∈ events, event ∈ sorted events := fun event inside =>
    (List.mem_insertionSort _).mpr inside
  have apart : first.id ≠ second.id := fun same =>
    differ (List.inj_on_of_nodup_map distinct one other same)
  rw [rank, rank, Nat.add_lt_add_iff_right, idxOf_lt_iff nodup
    (List.mem_map_of_mem (member first one)) (List.mem_map_of_mem (member second other)) apart,
    ← pair_sublist_insertionSort_iff (List.Nodup.of_map _ distinct) one other differ]
  constructor
  · intro before
    rcases pair_sublist_or (member first one) (member second other) differ with sub | reversed
    · exact sub
    · have less := idxOf_lt_of_pair nodup before
      have more := idxOf_lt_of_pair nodup (reversed.map TimelineEvent.id)
      exact absurd more (Nat.lt_asymm less)
  · exact fun before => before.map TimelineEvent.id

/-- Along the sorted events, the ranks are the numbers from 1 on. -/
theorem map_rank_sorted {events : List TimelineEvent}
    (distinct : (events.map TimelineEvent.id).Nodup) :
    (sorted events).map (fun event => rank events event.id) = List.range' 1 events.length := by
  have nodup : ((sorted events).map TimelineEvent.id).Nodup :=
    (map_id_sorted_perm events).nodup_iff.mpr distinct
  apply List.ext_getElem
  · simp [sorted]
  · intro index bound _
    have within : index < ((sorted events).map TimelineEvent.id).length := by
      simpa using bound
    have found := nodup.idxOf_getElem index within
    rw [List.getElem_map] at found
    simp only [List.getElem_map, List.getElem_range', rank, found]
    omega

theorem ranks_perm {events : List TimelineEvent} (distinct : (events.map TimelineEvent.id).Nodup) :
    (events.map fun event => rank events event.id).Perm (List.range' 1 events.length) := by
  rw [← map_rank_sorted distinct]
  exact ((List.perm_insertionSort _ _).map _).symm

end Numbers

end Timeline

namespace TimelineEvent

/-- The date, or else the start of the range; `""` is neither. -/
def effective (event : TimelineEvent) : String :=
  if event.sortKey ≠ "" then event.sortKey else event.dateRangeStart.getD ""

/-- Two events that the sort key puts in the wrong order once the second is added: one with a date
and a range that starts later, or a range and an event that is earlier than its start. -/
def Clash (present added : TimelineEvent) : Prop :=
  present.effective ≠ "" ∧ added.effective ≠ "" ∧
    (present.sortKey ≠ "" ∧ added.sortKey = "" ∧ present.effective < added.effective ∨
      present.sortKey = "" ∧ added.effective < present.effective)

theorem empty_le (text : String) : "" ≤ text := by
  rw [String.le_iff_toList_le]
  exact not_lt.mp (List.not_lt_nil _)

/-- Two events do not clash where the sort puts them as their dates are. -/
theorem not_clash_iff {present added : TimelineEvent} (dated : present.effective ≠ "")
    (dated' : added.effective ≠ "") : ¬ Clash present added ↔
      (present.effective < added.effective → present.Earlier added) ∧
        (added.effective < present.effective → ¬ present.Earlier added) := by
  unfold Clash Earlier
  by_cases key : present.sortKey = ""
  · have first : present.sortKey ≤ added.sortKey := key ▸ empty_le _
    simp [dated, dated', key, empty_le]
  · by_cases key' : added.sortKey = ""
    · have last : ¬ present.sortKey ≤ "" := fun least => key (le_antisymm least (empty_le _))
      simp [dated, dated', key, key', last]
    · have same : present.effective = present.sortKey := if_pos key
      have same' : added.effective = added.sortKey := if_pos key'
      simp only [key, key', false_and, and_false, or_self, not_false_eq_true, true_iff, same, same']
      exact ⟨le_of_lt, not_le_of_gt⟩

end TimelineEvent

open Timeline TimelineEvent

section Contracts

/-- The numbers are 1 to n, and of two events with an effective date the earlier has the smaller. -/
structure Ordered (timeline : Timeline) : Prop where
  numbers : (timeline.events.rows.map TimelineEvent.eventOrder).Perm
    ((List.range' 1 timeline.events.rows.length).map Int.ofNat)
  chronological : ∀ first ∈ timeline.events.rows, ∀ second ∈ timeline.events.rows,
    first.effective ≠ "" → second.effective ≠ "" → first.effective < second.effective →
      first.eventOrder < second.eventOrder

/-- All but the event of an id are there still, and in their order. -/
structure KeepsOrder (eventId : String) (before after : Timeline) : Prop where
  others : after.events.rows.map TimelineEvent.id =
    (before.events.rows.map TimelineEvent.id).filter (· ≠ eventId)
  order : ∀ first ∈ before.events.rows, ∀ second ∈ before.events.rows,
    ∀ first' ∈ after.events.rows, ∀ second' ∈ after.events.rows,
      first'.id = first.id → second'.id = second.id →
        (first'.eventOrder < second'.eventOrder ↔ first.eventOrder < second.eventOrder)

/-- The removal of an event leaves the others in their order. -/
def RemovesInOrder (before : Timeline) : TimelineCall → Prop
  | .add _ => True
  | .remove eventId => KeepsOrder eventId before (timelineStep before (.remove eventId)).2

/-- An event that is added, and not refused, clashes with none that is there. -/
def Fits (before : Timeline) : TimelineCall → Prop
  | .add event => before.events.contains event.id = true ∨
      ∀ present ∈ before.events.rows, ¬ Clash present event
  | .remove _ => True

end Contracts

section Runs

/-- Every event has its rank for a number. -/
def Numbered (timeline : Timeline) : Prop :=
  ∀ event ∈ timeline.events.rows, event.eventOrder = (rank timeline.events.rows event.id : Int)

variable {timeline : Timeline}

/-- Where an event stood before the loop. -/
theorem mem_reorder {event : TimelineEvent} :
    event ∈ timeline.reorder.events.rows ↔
      ∃ old ∈ timeline.events.rows,
        { old with eventOrder := (rank timeline.events.rows old.id : Int) } = event := by
  rw [reorder_rows, List.mem_map]

theorem numbered_reorder (timeline : Timeline) : Numbered timeline.reorder := by
  intro event inside
  obtain ⟨old, _, rfl⟩ := mem_reorder.mp inside
  rw [reorder_rows, rank_renumbered]

theorem Numbered.numbers (numbered : Numbered timeline) :
    (timeline.events.rows.map TimelineEvent.eventOrder).Perm
      ((List.range' 1 timeline.events.rows.length).map Int.ofNat) := by
  have ranks := (ranks_perm timeline.events.distinct).map Int.ofNat
  rw [List.map_map] at ranks
  rwa [List.map_congr_left numbered]

theorem call_addEvent_present {event : TimelineEvent}
    (present : timeline.events.contains event.id = true) :
    timelineStep timeline (.add event) =
      (.error (.invariantViolation ("Event '" ++ event.id ++ "' already on timeline")), timeline) := by
  simp only [timelineStep, TimelineCall.program, addEvent, call_bind, call_get, andThen_ok, present,
    if_true, call_throw, andThen_error]

theorem call_addEvent_fresh {event : TimelineEvent}
    (fresh : timeline.events.contains event.id = false) :
    timelineStep timeline (.add event) =
      (.ok (), Timeline.reorder { timeline with events := timeline.events.put event }) := by
  simp [timelineStep, TimelineCall.program, addEvent, fresh]

theorem call_removeEvent (eventId : String) :
    timelineStep timeline (.remove eventId) =
      (.ok (), Timeline.reorder { timeline with events := timeline.events.erase eventId }) := by
  simp [timelineStep, TimelineCall.program, removeEvent]

theorem numbered_step (timelineCall : TimelineCall) (numbered : Numbered timeline) :
    Numbered (timelineStep timeline timelineCall).2 := by
  cases timelineCall with
  | add event =>
      by_cases present : timeline.events.contains event.id = true
      · rwa [call_addEvent_present present]
      · rw [call_addEvent_fresh (eq_false_of_ne_true present)]
        exact numbered_reorder _
  | remove eventId =>
      rw [call_removeEvent]
      exact numbered_reorder _

theorem Numbered.order_lt_iff (numbered : Numbered timeline) {first second : TimelineEvent}
    (one : first ∈ timeline.events.rows) (other : second ∈ timeline.events.rows) :
    first.eventOrder < second.eventOrder ↔
      rank timeline.events.rows first.id < rank timeline.events.rows second.id := by
  rw [numbered first one, numbered second other, Int.ofNat_lt]

/-- The events are listed in the order in which they were numbered. -/
theorem Numbered.orderedEvents_eq (numbered : Numbered timeline) :
    orderedEvents timeline = sorted timeline.events.rows := by
  have ranks : ((sorted timeline.events.rows).map
      (fun event => rank timeline.events.rows event.id)).Pairwise (· < ·) := by
    rw [map_rank_sorted timeline.events.distinct]
    exact List.pairwise_lt_range' ..
  have placed : (sorted timeline.events.rows).Pairwise
      (fun first second => first.eventOrder < second.eventOrder) :=
    (List.pairwise_map.mp ranks).imp_of_mem fun one other less => (numbered.order_lt_iff
      ((List.mem_insertionSort _).mp one) ((List.mem_insertionSort _).mp other)).mpr less
  have perm := List.perm_insertionSort TimelineEvent.Earlier timeline.events.rows
  have listed : (orderedEvents timeline).Perm (sorted timeline.events.rows) :=
    (List.perm_insertionSort _ _).trans perm.symm
  refine listed.eq_of_pairwise ?_ (List.pairwise_insertionSort _ _) (placed.imp le_of_lt)
  intro first second one other less more
  by_contra differ
  rcases pair_sublist_or (listed.mem_iff.mp one) other differ with before | after
  · have strict := List.pairwise_pair.mp (placed.sublist before)
    omega
  · have strict := List.pairwise_pair.mp (placed.sublist after)
    omega

/-- Events that both stay keep their places. -/
theorem rank_filter_iff {events : List TimelineEvent} (distinct : (events.map TimelineEvent.id).Nodup)
    {keep : TimelineEvent → Bool} {first second : TimelineEvent} (one : first ∈ events.filter keep)
    (other : second ∈ events.filter keep) (differ : first ≠ second) :
    rank (events.filter keep) first.id < rank (events.filter keep) second.id ↔
      rank events first.id < rank events second.id := by
  have kept := List.mem_filter.mp one
  have kept' := List.mem_filter.mp other
  have sub : [first, second].Sublist (events.filter keep) ↔ [first, second].Sublist events := by
    refine ⟨fun inside => inside.trans List.filter_sublist, fun inside => ?_⟩
    have filtered := inside.filter keep
    rwa [List.filter_cons_of_pos kept.2, List.filter_cons_of_pos kept'.2, List.filter_nil] at filtered
  have within : (events.filter keep).Sublist events := List.filter_sublist
  have distinct' := (within.map TimelineEvent.id).nodup distinct
  rw [rank_lt_iff distinct' one other differ, rank_lt_iff distinct kept.1 kept'.1 differ, sub]

theorem Numbered.removesInOrder (numbered : Numbered timeline) (timelineCall : TimelineCall) :
    RemovesInOrder timeline timelineCall := by
  cases timelineCall with
  | add event => trivial
  | remove eventId =>
      rw [RemovesInOrder, call_removeEvent]
      constructor
      · refine (map_id_numberFrom 1 _ _).trans ?_
        rw [List.filter_map]
        rfl
      · intro first one second other first' one' second' other' same same'
        obtain ⟨old, inside, rfl⟩ := mem_reorder.mp one'
        obtain ⟨old', inside', rfl⟩ := mem_reorder.mp other'
        have stood := (List.mem_filter.mp inside).1
        have stood' := (List.mem_filter.mp inside').1
        cases timeline.events.eq_of_key_eq stood one same
        cases timeline.events.eq_of_key_eq stood' other same'
        rw [numbered.order_lt_iff one other]
        by_cases differ : first = second
        · simp [differ]
        · rw [← rank_filter_iff timeline.events.distinct inside inside' differ]
          exact Int.ofNat_lt

/-- What is there keeps its place when an event is added. -/
theorem rank_append_of_lt {events : List TimelineEvent} {event first second : TimelineEvent}
    (distinct : ((events ++ [event]).map TimelineEvent.id).Nodup) (one : first ∈ events)
    (other : second ∈ events) (less : rank events first.id < rank events second.id) :
    rank (events ++ [event]) first.id < rank (events ++ [event]) second.id := by
  have differ : first ≠ second := by
    rintro rfl
    exact Nat.lt_irrefl _ less
  have distinct' : (events.map TimelineEvent.id).Nodup :=
    ((List.sublist_append_left events [event]).map TimelineEvent.id).nodup distinct
  obtain ⟨fits, stable⟩ := (rank_lt_iff distinct' one other differ).mp less
  refine (rank_lt_iff distinct (List.mem_append_left _ one) (List.mem_append_left _ other)
    differ).mpr ⟨fits, fun back => ?_⟩
  exact (stable back).trans (List.sublist_append_left events [event])

/-- What is added comes after all that it is not sorted before. -/
theorem rank_added_iff {events : List TimelineEvent} {event present : TimelineEvent}
    (distinct : ((events ++ [event]).map TimelineEvent.id).Nodup) (inside : present ∈ events) :
    (rank (events ++ [event]) present.id < rank (events ++ [event]) event.id ↔
        present.Earlier event) ∧
      (rank (events ++ [event]) event.id < rank (events ++ [event]) present.id ↔
        ¬ present.Earlier event) := by
  have last : event ∈ events ++ [event] := List.mem_append_right _ List.mem_cons_self
  have front : present ∈ events ++ [event] := List.mem_append_left _ inside
  have pair : [present, event].Sublist (events ++ [event]) :=
    (List.singleton_sublist.mpr inside).append (List.Sublist.refl [event])
  have differ : present ≠ event := by
    rintro rfl
    have twice := List.Nodup.of_map _ distinct
    exact (List.nodup_append.mp twice).2.2 present inside present List.mem_cons_self rfl
  have before := rank_lt_iff distinct front last differ
  have after := rank_lt_iff distinct last front differ.symm
  have fits : rank (events ++ [event]) present.id < rank (events ++ [event]) event.id ↔
      present.Earlier event :=
    ⟨fun less => (before.mp less).1, fun earlier => before.mpr ⟨earlier, fun _ => pair⟩⟩
  refine ⟨fits, fun less earlier => Nat.lt_asymm less (fits.mpr earlier), fun late => ?_⟩
  exact after.mpr ⟨(le_total _ _).resolve_left late, fun earlier => absurd earlier late⟩

/-- The order after an event has been added, by what it was before. -/
theorem chronological_added_iff {events : List TimelineEvent} {event : TimelineEvent}
    (distinct : ((events ++ [event]).map TimelineEvent.id).Nodup)
    (stood : ∀ first ∈ events, ∀ second ∈ events, first.effective ≠ "" → second.effective ≠ "" →
      first.effective < second.effective → rank events first.id < rank events second.id) :
    (∀ first ∈ events ++ [event], ∀ second ∈ events ++ [event], first.effective ≠ "" →
        second.effective ≠ "" → first.effective < second.effective →
          rank (events ++ [event]) first.id < rank (events ++ [event]) second.id) ↔
      ∀ present ∈ events, ¬ Clash present event := by
  have last : event ∈ events ++ [event] := List.mem_append_right _ List.mem_cons_self
  constructor
  · intro chronological present inside
    have front : present ∈ events ++ [event] := List.mem_append_left _ inside
    have added := rank_added_iff distinct inside
    by_contra clash
    have dated := clash.1
    have dated' := clash.2.1
    refine (not_clash_iff dated dated').mpr ⟨fun less => ?_, fun less => ?_⟩ clash
    · exact added.1.mp (chronological present front event last dated dated' less)
    · exact added.2.mp (chronological event last present front dated' dated less)
  · intro apart first one second other dated dated' less
    rcases List.mem_append.mp one with left | single
    · rcases List.mem_append.mp other with right | single'
      · exact rank_append_of_lt distinct left right (stood first left second right dated dated' less)
      · cases List.mem_singleton.mp single'
        exact (rank_added_iff distinct left).1.mpr
          (((not_clash_iff dated dated').mp (apart first left)).1 less)
    · cases List.mem_singleton.mp single
      rcases List.mem_append.mp other with right | single'
      · exact (rank_added_iff distinct right).2.mpr
          (((not_clash_iff dated' dated).mp (apart second right)).2 less)
      · cases List.mem_singleton.mp single'
        exact absurd less (lt_irrefl _)

/-- Read off the ranks. -/
theorem ordered_reorder_iff (timeline : Timeline) :
    Ordered timeline.reorder ↔
      ∀ first ∈ timeline.events.rows, ∀ second ∈ timeline.events.rows, first.effective ≠ "" →
        second.effective ≠ "" → first.effective < second.effective →
          rank timeline.events.rows first.id < rank timeline.events.rows second.id := by
  constructor
  · intro ordered first one second other dated dated' less
    have placed := ordered.chronological _ (mem_reorder.mpr ⟨first, one, rfl⟩) _
      (mem_reorder.mpr ⟨second, other, rfl⟩) dated dated' less
    exact Int.ofNat_lt.mp placed
  · intro chronological
    refine ⟨(numbered_reorder timeline).numbers, ?_⟩
    intro first one second other dated dated' less
    obtain ⟨old, inside, rfl⟩ := mem_reorder.mp one
    obtain ⟨old', inside', rfl⟩ := mem_reorder.mp other
    exact Int.ofNat_lt.mpr (chronological old inside old' inside' dated dated' less)

/-- A step keeps the order exactly where the event it adds clashes with none. -/
theorem ordered_step_iff (timelineCall : TimelineCall) (numbered : Numbered timeline)
    (ordered : Ordered timeline) :
    Ordered (timelineStep timeline timelineCall).2 ↔ Fits timeline timelineCall := by
  have ranked : ∀ first ∈ timeline.events.rows, ∀ second ∈ timeline.events.rows,
      first.effective ≠ "" → second.effective ≠ "" → first.effective < second.effective →
        rank timeline.events.rows first.id < rank timeline.events.rows second.id := by
    intro first one second other dated dated' less
    exact (numbered.order_lt_iff one other).mp
      (ordered.chronological first one second other dated dated' less)
  cases timelineCall with
  | add event =>
      by_cases present : timeline.events.contains event.id = true
      · rw [call_addEvent_present present]
        exact iff_of_true ordered (.inl present)
      · have fresh := eq_false_of_ne_true present
        have rows := timeline.events.rows_put_fresh event fresh
        have distinct := (timeline.events.put event).distinct
        rw [rows] at distinct
        rw [call_addEvent_fresh fresh, ordered_reorder_iff]
        dsimp only
        rw [rows, chronological_added_iff distinct ranked, Fits]
        simp [fresh]
  | remove eventId =>
      rw [call_removeEvent, ordered_reorder_iff]
      refine iff_of_true ?_ trivial
      intro first one second other dated dated' less
      have differ : first ≠ second := by
        rintro rfl
        exact lt_irrefl _ less
      refine (rank_filter_iff timeline.events.distinct one other differ).mpr ?_
      exact ranked first (List.mem_filter.mp one).1 second (List.mem_filter.mp other).1 dated dated'
        less

end Runs

/-- A fresh timeline. -/
def Timeline.empty : Timeline := ⟨.empty⟩

/-- In every run on a fresh timeline, the numbers are 1 to n and go by the effective dates after
every call, and every removal leaves the others in their order, exactly when no event that is added
clashes with one that is there. -/
theorem timeline_ordered_iff (calls : List TimelineCall) :
    (Throughout timelineStep Ordered .empty calls ∧
        Along timelineStep RemovesInOrder .empty calls) ↔
      Along timelineStep Fits .empty calls := by
  have numbered : Numbered .empty := fun event inside => absurd inside List.not_mem_nil
  have ordered : Ordered .empty :=
    ⟨List.Perm.nil, fun event inside => absurd inside List.not_mem_nil⟩
  have removes : Along timelineStep RemovesInOrder .empty calls :=
    Along.of_invariant (fun _ made sound _ => numbered_step made sound)
      (fun _ made sound _ => sound.removesInOrder made) numbered
      (along_of_all (fun _ _ => trivial) _ calls)
  rw [and_iff_left removes]
  exact throughout_iff_along (fun _ made sound _ => numbered_step made sound)
    (fun _ made sound holds => ordered_step_iff made sound holds) numbered ordered calls

/-- A range that starts in March is numbered before an event of February. -/
theorem range_numbered_first :
    ¬ Throughout timelineStep Ordered .empty
      [.add ⟨"hearing", some "2024-02-01", none, 0⟩, .add ⟨"trial", none, some "2024-03-01", 0⟩] := by
  rintro ⟨_, _, ordered⟩
  have placed := ordered.chronological ⟨"hearing", some "2024-02-01", none, 2⟩ (by decide)
    ⟨"trial", none, some "2024-03-01", 1⟩ (by decide) (by decide) (by decide) (by decide)
  exact absurd placed (by decide)

end LexMind.Domain
