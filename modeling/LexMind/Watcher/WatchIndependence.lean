import LexMind.Watcher.CompletedBursts

set_option autoImplicit false

/- What one watch's events owe to the calls of another. -/
namespace LexMind.Watcher

open Lib Events Debounce

/-- The calls without those of a watch. -/
def without (watchId : String) (calls : List Numbered) : List Numbered :=
  calls.filter (fun numbered => numbered.2.watch? ≠ some watchId)

/-- What a call is to the shared buffer, and whether it is none of the watch's. -/
def ownedOp? (watchId : String) (numbered : Numbered) : Option (Owned Notification) :=
  numbered.op?.map (fun op => (decide (numbered.2.watch? ≠ some watchId), op))

def ownedOps (watchId : String) (calls : List Numbered) : List (Owned Notification) :=
  calls.filterMap (ownedOp? watchId)

/-- The notification is of another watch. -/
def elsewhere (watchId : String) (notification : Notification) : Bool :=
  notification.raw.watchId ≠ watchId

theorem ownedOps_ops (watchId : String) (calls : List Numbered) :
    (ownedOps watchId calls).map Prod.snd = opsOf calls := by
  rw [ownedOps, opsOf, List.map_filterMap]
  congr 1
  funext numbered
  simp [ownedOp?, Function.comp_def]

theorem ownCalls_ownedOps (watchId : String) (calls : List Numbered) :
    ownCalls (ownedOps watchId calls) = opsOf (without watchId calls) := by
  rw [ownCalls, ownedOps, opsOf, without, List.filter_filterMap, List.map_filterMap,
    List.filterMap_filter]
  congr 1
  funext numbered
  by_cases other : numbered.2.watch? = some watchId
  · cases shape : numbered.op? <;> simp [ownedOp?, shape, other]
  · cases shape : numbered.op? <;> simp [ownedOp?, shape, other]

theorem ownersAgree_ownedOps (watchId : String) (calls : List Numbered) :
    OwnersAgree (elsewhere watchId) (ownedOps watchId calls) := by
  intro owned inside item now same
  obtain ⟨⟨serial, watcherCall⟩, _, shape⟩ := List.mem_filterMap.mp inside
  obtain ⟨op, kind, rfl⟩ := Option.map_eq_some_iff.mp shape
  cases watcherCall with
  | backendEvent raw came =>
      cases kind
      cases same
      simp [elsewhere, WatcherCall.watch?]
  | start => cases kind
  | stop => cases kind; cases same
  | flush => cases kind; cases same

theorem toCome_ownedOps (watchId : String) (calls : List Numbered) :
    toCome (ownedOps watchId calls) = (opsOf calls).filterMap Op.item? := by
  rw [toCome, ownedOps_ops]

theorem number_snoc (body : List WatcherCall) (last : WatcherCall) :
    number (body ++ [last]) = number body ++ [(body.length, last)] := by
  simp [number, List.zipIdx_append]

theorem run_without (watchId : String) (calls : List WatcherCall) :
    (without watchId (number calls)).map Prod.snd =
      calls.filter (fun watcherCall => watcherCall.watch? ≠ some watchId) := by
  have filtered : ((number calls).map Prod.snd).filter
      (fun watcherCall => watcherCall.watch? ≠ some watchId) =
        (without watchId (number calls)).map Prod.snd := List.filter_map
  rw [← filtered, number_calls]

variable (str : StrMethods) (configs : Keyed WatchConfig.watchId)

/-- For the events of watch `a`, the calls of watch `b` might as well not be made. -/
structure WatchIndependent (a b : String) (calls : List WatcherCall) : Prop where
  carried : ∀ allowed, Quiet configs allowed → ∀ bus, allowed bus →
    (run (watcherStep str) ⟨⟨configs, .empty⟩, bus⟩ calls).2.bus =
      deliver configs (dispatched str configs (number calls)) bus ∧
    (run (watcherStep str) ⟨⟨configs, .empty⟩, bus⟩
        (calls.filter (fun watcherCall => watcherCall.watch? ≠ some b))).2.bus =
      deliver configs (dispatched str configs (without b (number calls))) bus
  same : ∀ notification : Notification, notification.raw.watchId = a →
    (notification ∈ dispatched str configs (number calls) ↔
      notification ∈ dispatched str configs (without b (number calls)))
  unhurried : ∀ front serial now back notification came,
    number calls = front ++ (serial, .stop b now) :: back →
    (notification.serial, .backendEvent notification.raw came) ∈ front →
    notification.raw.watchId = a →
    notification ∈ (step (debouncing str configs)
      (run (step (debouncing str configs)) .empty (opsOf front)).2 (.flush now)).1 →
    came + (debouncing str configs).window notification ≤ now

variable {str configs}

/-- Where watch `b` disturbs none of the other watches' events, they are independent of it. -/
theorem watches_independent {a b : String} (apart : a ≠ b) {body : List WatcherCall} {last : Int}
    (clear : Along (shareStep (debouncing str configs))
      (Undisturbed (debouncing str configs) (elsewhere b)) .start
      (ownedOps b (number (body ++ [.flush last])))) :
    WatchIndependent str configs a b (body ++ [.flush last]) := by
  have ending : ownedOps b (number (body ++ [.flush last])) =
      ownedOps b (number body) ++ [(true, .flush last)] := by
    rw [number_snoc, ownedOps, List.filterMap_append]
    simp [ownedOps, ownedOp?, Numbered.op?, WatcherCall.watch?]
  have distinct : (toCome (ownedOps b (number (body ++ [.flush last])))).Nodup := by
    rw [toCome_ownedOps]
    exact distinct_of_serials (number_nodup _)
  have owned := ownersAgree_ownedOps b (number (body ++ [.flush last]))
  have whole := ownedOps_ops b (number (body ++ [.flush last]))
  have alone := ownCalls_ownedOps b (number (body ++ [.flush last]))
  rw [ending] at clear distinct owned whole alone
  have independent := independent distinct owned clear
  refine ⟨?_, ?_, ?_⟩
  · intro allowed quiet bus fits
    have first := @run_carried str configs allowed quiet bus fits (number (body ++ [.flush last]))
    have second := @run_carried str configs allowed quiet bus fits
      (without b (number (body ++ [.flush last])))
    rw [number_calls] at first
    rw [run_without] at second
    exact ⟨first, second⟩
  · intro notification named
    have other : elsewhere b notification = true := by simp [elsewhere, named, apart]
    have same := independent.same notification other
    rwa [whole, alone] at same
  · intro front serial now back notification came split inside named released
    have shared : ownedOps b (number body) ++ [(true, .flush last)] =
        ownedOps b front ++ (false, .flush now) :: ownedOps b back := by
      rw [← ending, split, ownedOps, List.filterMap_append]
      simp [ownedOps, ownedOp?, Numbered.op?, WatcherCall.watch?]
    have came' : (true, .item notification came) ∈ ownedOps b front :=
      List.mem_filterMap.mpr ⟨_, inside, by
        simp [ownedOp?, Numbered.op?, WatcherCall.watch?, named, apart]⟩
    rw [← ownedOps_ops b front] at released
    exact independent.unhurried _ now _ notification came shared came' released

/-- A watch over a directory of which another watches a part. -/
def archive : WatchConfig :=
  ⟨"archive", "w1", "storage://w1/scans", [], 2000000, true, two_seconds, scans_rooted⟩

def overlapping : Keyed WatchConfig.watchId := scansConfigs.put archive

def archived (size : Nat) : BackendFileEvent :=
  ⟨"archive", "storage://w1/scans/a.pdf", "a.pdf", .modified, size⟩

/-- The other watch is stopped, and reports an event, when nothing waits that is not due. -/
def inTurn : List WatcherCall :=
  [.start "scans", .start "archive", .backendEvent (scanned 1) 0, .stop "archive" 3000000,
    .backendEvent (archived 1) 4000000]

theorem in_turn_independent :
    WatchIndependent plainStr overlapping "scans" "archive" (inTurn ++ [.flush 9000000]) := by
  apply watches_independent (by decide)
  refine ⟨?_, ?_, ?_, trivial, trivial⟩
  · intro _ waiting inside
    cases inside
  · intro waiting inside _
    obtain rfl := List.mem_singleton.mp inside
    rfl
  · intro _ waiting inside
    cases inside

/-- An event that both watches report takes the place of the first one's. -/
theorem both_report_one_lost :
    ¬ WatchIndependent plainStr overlapping "scans" "archive"
      [.backendEvent (scanned 1) 0, .backendEvent (archived 1) 500000, .flush 9000000] := by
  intro independent
  have same := independent.same ⟨0, scanned 1⟩ rfl
  exact absurd same (by decide)

end LexMind.Watcher
