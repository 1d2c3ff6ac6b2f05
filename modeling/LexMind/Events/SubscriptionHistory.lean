import LexMind.Events.DispatchIsolation
import LexMind.Lib.Transcript
import Mathlib.Algebra.GroupWithZero.Nat

set_option autoImplicit false

/- The subscriptions of an event against the calls that made them. -/
namespace LexMind.Events

open Lib

namespace SubscriptionRegistry

def count (subscriptions : SubscriptionRegistry) : Nat :=
  (subscriptions.rows.map (fun row => row.2.length)).sum

/-- A call with its answer. -/
abbrev Entry := SubscriptionCall × Except PyExc Unit

/-- The entry is a successful subscription of the handler to the event. -/
def Adds (eventName : String) (handler : EventHandler) (entry : Entry) : Prop :=
  entry = (.add eventName handler, .ok ())

/-- The entry removes the handler's name from the event, or everything. -/
def Drops (eventName : String) (handler : EventHandler) (entry : Entry) : Prop :=
  entry.1 = .remove eventName handler.name ∨ entry.1 = .clear

/-- The handlers are those whose last subscription still stands, in the order of these. -/
structure Tracks (eventName : String) (entries : List Entry) (source : List EventHandler) :
    Prop where
  members : ∀ handler, handler ∈ source ↔
    ∃ index, OpenAt (Adds eventName handler) (Drops eventName handler) entries index
  ordered : source.Pairwise (fun first second => ∀ i j, LatestAt (Adds eventName first) entries i →
    LatestAt (Adds eventName second) entries j → i < j)

section Steps

variable {eventName : String} {entries : List Entry} {source : List EventHandler}

theorem Tracks.nil : Tracks eventName [] [] where
  members handler := by
    refine iff_of_false List.not_mem_nil ?_
    rintro ⟨index, opened⟩
    exact absurd opened.latest.lt_length (Nat.not_lt_zero index)
  ordered := .nil

/-- An entry that subscribes none of the handlers leaves the order of the subscriptions. -/
theorem Tracks.ordered_more (tracks : Tracks eventName entries source) {last : Entry}
    (other : ∀ handler ∈ source, ¬ Adds eventName handler last) :
    source.Pairwise (fun first second => ∀ i j,
      LatestAt (Adds eventName first) (entries ++ [last]) i →
        LatestAt (Adds eventName second) (entries ++ [last]) j → i < j) := by
  apply tracks.ordered.imp_of_mem
  intro first second inside inside' before i j latest latest'
  rcases (latestAt_append_singleton last).mp latest with ⟨old, _⟩ | ⟨_, new⟩
  · rcases (latestAt_append_singleton last).mp latest' with ⟨old', _⟩ | ⟨_, new⟩
    · exact before i j old old'
    · exact absurd new (other second inside')
  · exact absurd new (other first inside)

/-- An entry about other events and handlers changes nothing. -/
theorem Tracks.unchanged (tracks : Tracks eventName entries source) {last : Entry}
    (adds : ∀ handler, ¬ Adds eventName handler last)
    (drops : ∀ handler, ¬ Drops eventName handler last) :
    Tracks eventName (entries ++ [last]) source where
  members handler := by
    rw [tracks.members]
    apply exists_congr
    intro index
    simp [openAt_append_singleton, adds handler, drops handler]
  ordered := tracks.ordered_more (fun handler _ => adds handler)

theorem Tracks.added (tracks : Tracks eventName entries source) {handler : EventHandler}
    (free : ∀ other ∈ source, other.name ≠ handler.name) :
    Tracks eventName (entries ++ [(.add eventName handler, .ok ())]) (source ++ [handler]) := by
  have adds (other : EventHandler) :
      Adds eventName other (.add eventName handler, .ok ()) ↔ other = handler := by
    simp [Adds, eq_comm]
  have drops (other : EventHandler) : ¬ Drops eventName other (.add eventName handler, .ok ()) := by
    simp [Drops]
  have apart : ∀ other ∈ source, other ≠ handler := fun other inside same =>
    free other inside (congrArg EventHandler.name same)
  constructor
  · intro other
    rw [List.mem_append, List.mem_singleton, tracks.members]
    constructor
    · rintro (⟨index, opened⟩ | same)
      · have held := (tracks.members other).mpr ⟨index, opened⟩
        have apart := fun added => apart other held ((adds other).mp added)
        exact ⟨index, (openAt_append_singleton _).mpr (.inl ⟨opened, apart, drops other⟩)⟩
      · exact ⟨_, (openAt_append_singleton _).mpr (.inr ⟨rfl, (adds other).mpr same⟩)⟩
    · rintro ⟨index, opened⟩
      rcases (openAt_append_singleton _).mp opened with ⟨old, _⟩ | ⟨_, added⟩
      · exact .inl ⟨index, old⟩
      · exact .inr ((adds other).mp added)
  · rw [List.pairwise_append]
    have others : ∀ other ∈ source, ¬ Adds eventName other (.add eventName handler, .ok ()) :=
      fun other inside added => apart other inside ((adds other).mp added)
    refine ⟨tracks.ordered_more others, List.pairwise_singleton _ _,
      fun first inside second single i j latest latest' => ?_⟩
    obtain rfl := List.mem_singleton.mp single
    rcases (latestAt_append_singleton _).mp latest with ⟨old, _⟩ | ⟨_, new⟩
    · rcases (latestAt_append_singleton _).mp latest' with ⟨_, none⟩ | ⟨here, _⟩
      · exact absurd ((adds second).mpr rfl) none
      · exact here ▸ old.lt_length
    · exact absurd ((adds first).mp new) (apart first inside)

theorem Tracks.removed (tracks : Tracks eventName entries source) (handlerName : String)
    (answer : Except PyExc Unit) :
    Tracks eventName (entries ++ [(.remove eventName handlerName, answer)])
      (source.filter (fun handler => handler.name ≠ handlerName)) := by
  have adds (other : EventHandler) :
      ¬ Adds eventName other (.remove eventName handlerName, answer) := by simp [Adds]
  have drops (other : EventHandler) :
      Drops eventName other (.remove eventName handlerName, answer) ↔ other.name = handlerName := by
    simp [Drops, eq_comm]
  constructor
  · intro other
    rw [List.mem_filter, tracks.members, decide_eq_true_iff]
    simp only [openAt_append_singleton, adds, drops, not_false_iff, true_and, and_false, or_false,
      exists_and_right]
  · exact (tracks.ordered_more (fun other _ => adds other)).filter _

theorem tracks_cleared (answer : Except PyExc Unit) :
    Tracks eventName (entries ++ [(.clear, answer)]) [] where
  members handler := by
    refine iff_of_false List.not_mem_nil ?_
    rintro ⟨index, opened⟩
    rcases (openAt_append_singleton _).mp opened with ⟨_, _, kept⟩ | ⟨_, added⟩
    · exact kept (.inr rfl)
    · cases added
  ordered := .nil

end Steps

/-- A subscription is answered where no handler of the event has the name, and raises otherwise. -/
theorem add_answer (subscriptions : SubscriptionRegistry) (given : String)
    (handler : EventHandler) :
    (subscriptionStep subscriptions (.add given handler)).1 =
      if ∀ other ∈ subscriptions.handlersFor given, other.name ≠ handler.name then .ok ()
      else .error (.duplicateHandler handler.name given) := by
  rw [subscriptionStep, program, call_add]
  split
  · rename_i held
    rw [if_neg (by simpa using held)]
  · rename_i free
    rw [if_pos (by simpa using free)]

/-- A subscription that raises leaves the registry as it was. -/
theorem add_raised {subscriptions : SubscriptionRegistry} {given : String} {handler : EventHandler}
    {exc : PyExc} (raised : (subscriptionStep subscriptions (.add given handler)).1 = .error exc) :
    (subscriptionStep subscriptions (.add given handler)).2 = subscriptions := by
  rw [subscriptionStep, program, call_add] at raised ⊢
  split at raised
  · rename_i held
    rw [if_pos held]
    apply Keyed.put_of_find?
    unfold handlersFor at held ⊢
    cases found : subscriptions.find? given with
    | none =>
        rw [found] at held
        cases held
    | some row =>
        have own := Keyed.key_of_find? found
        obtain ⟨name, handlers⟩ := row
        cases own
        rfl
  · cases raised

/-- One call, with its answer, keeps the subscriptions tracked. -/
theorem tracks_step {subscriptions : SubscriptionRegistry} {eventName : String}
    {entries : List Entry} {source : List EventHandler}
    (prioritized : Prioritized source (subscriptions.handlersFor eventName))
    (tracks : Tracks eventName entries source) (made : SubscriptionCall) :
    Tracks eventName (entries ++ [(made, (subscriptionStep subscriptions made).1)])
      (subscribedNext eventName source made) := by
  cases made with
  | add given handler =>
      rw [add_answer, subscribedNext]
      by_cases same : given = eventName
      · subst same
        simp only [prioritized.mem_iff, true_and]
        split
        · rename_i free
          exact tracks.added free
        · exact tracks.unchanged (fun other => by simp [Adds]) (fun other => by simp [Drops])
      · have apart : ¬ (given = eventName ∧ ∀ other ∈ source, other.name ≠ handler.name) :=
          fun holds => same holds.1
        rw [if_neg apart]
        exact tracks.unchanged (fun other => by simp [Adds, same]) (fun other => by simp [Drops])
  | remove given handlerName =>
      rw [subscribedNext]
      split
      · rename_i same
        subst same
        exact tracks.removed handlerName _
      · rename_i apart
        exact tracks.unchanged (fun other => by simp [Adds]) (fun other => by simp [Drops, apart])
  | clear => exact tracks_cleared _

theorem tracks_run (eventName : String) (calls : List SubscriptionCall) :
    Tracks eventName (transcript subscriptionStep .empty calls) (subscribed eventName calls) := by
  induction calls using List.reverseRecOn with
  | nil => exact .nil
  | append_singleton calls made ih =>
      rw [transcript_append_singleton, subscribed, List.foldl_append]
      exact tracks_step (prioritized_run eventName calls) ih made

/-- A call keeps the names of an event's handlers distinct. -/
theorem distinct_step {subscriptions : SubscriptionRegistry} {eventName : String}
    (distinct : ((subscriptions.handlersFor eventName).map EventHandler.name).Nodup)
    (made : SubscriptionCall) :
    (((subscriptionStep subscriptions made).2.handlersFor eventName).map
      EventHandler.name).Nodup := by
  cases made with
  | add given handler =>
      rw [subscriptionStep, program, handlersFor_add]
      split
      · rename_i free
        rw [insertSorted, ((List.perm_insertionSort _ _).map EventHandler.name).nodup_iff,
          List.map_append, List.nodup_append]
        refine ⟨distinct, List.nodup_singleton _, fun name held other single => ?_⟩
        obtain ⟨old, inside, rfl⟩ := List.mem_map.mp held
        rw [List.mem_singleton.mp single]
        exact free.2 old inside
      · exact distinct
  | remove given handlerName =>
      rw [subscriptionStep, program, call_modify, remove, handlersFor_put]
      split
      · rename_i same
        rw [same]
        exact (List.filter_sublist.map EventHandler.name).nodup distinct
      · exact distinct
  | clear => exact List.nodup_nil

theorem distinct_run (eventName : String) (calls : List SubscriptionCall) :
    (((run subscriptionStep .empty calls).2.handlersFor eventName).map EventHandler.name).Nodup :=
  @run_invariant _ _ _ subscriptionStep
    (fun subscriptions => ((subscriptions.handlersFor eventName).map EventHandler.name).Nodup)
    (fun _ made distinct => distinct_step distinct made) .empty List.nodup_nil calls

/-- What holds of a registry after some calls, for one event. -/
structure HandlersOf (calls : List SubscriptionCall) (eventName : String)
    (subscriptions : SubscriptionRegistry) : Prop where
  distinct : ((subscriptions.handlersFor eventName).map EventHandler.name).Nodup
  ranked : (subscriptions.handlersFor eventName).Pairwise
    (fun first second => priorityRank second.priority ≤ priorityRank first.priority)
  tied : ∀ first second, [first, second].Sublist (subscriptions.handlersFor eventName) →
    first.priority = second.priority →
      ∀ i j, LatestAt (Adds eventName first) (transcript subscriptionStep .empty calls) i →
        LatestAt (Adds eventName second) (transcript subscriptionStep .empty calls) j → i < j
  members : ∀ handler, handler ∈ subscriptions.handlersFor eventName ↔
    ∃ index, OpenAt (Adds eventName handler) (Drops eventName handler)
      (transcript subscriptionStep .empty calls) index

theorem handlers_of_run (calls : List SubscriptionCall) (eventName : String) :
    HandlersOf calls eventName (run subscriptionStep .empty calls).2 := by
  have prioritized := prioritized_run eventName calls
  have tracks := tracks_run eventName calls
  refine ⟨distinct_run eventName calls, prioritized.ranked, fun first second stands same => ?_,
    fun handler => (prioritized.mem_iff handler).trans (tracks.members handler)⟩
  -- Within one rank, the sort has kept the order of the subscriptions.
  have pair := stands.filter (fun handler =>
    priorityRank handler.priority = priorityRank first.priority)
  rw [prioritized.stable, List.filter_eq_self.mpr (by simp [same])] at pair
  have before := tracks.ordered.sublist (pair.trans List.filter_sublist)
  exact List.rel_of_pairwise_cons before List.mem_cons_self

/-- After any calls, the handlers of each event are those that are subscribed, by priority and then
by their latest subscription, and a subscription that raises changes nothing. -/
theorem subscription_registry (calls : List SubscriptionCall) :
    let subscriptions := (run subscriptionStep .empty calls).2
    (∀ eventName, HandlersOf calls eventName subscriptions) ∧
      ∀ given handler exc, (subscriptionStep subscriptions (.add given handler)).1 = .error exc →
        let after := (subscriptionStep subscriptions (.add given handler)).2
        (∀ eventName, after.handlersFor eventName = subscriptions.handlersFor eventName) ∧
          after.count = subscriptions.count := by
  intro subscriptions
  refine ⟨handlers_of_run calls, fun given handler exc raised => ?_⟩
  rw [add_raised raised]
  exact ⟨fun _ => rfl, rfl⟩

end SubscriptionRegistry

end LexMind.Events
