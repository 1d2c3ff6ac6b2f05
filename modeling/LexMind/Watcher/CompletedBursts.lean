import LexMind.Watcher.WatcherRun

set_option autoImplicit false

/- Which notifications of completed bursts the watcher dispatches. -/
namespace LexMind.Watcher

open Lib Events Debounce

theorem number_calls (calls : List WatcherCall) : (number calls).map Prod.snd = calls := by
  rw [number, List.map_map]
  exact List.zipIdx_map_fst 0 calls

theorem number_serials (calls : List WatcherCall) :
    (number calls).map Prod.fst = List.range calls.length := by
  rw [number, List.map_map, List.range_eq_range']
  exact List.zipIdx_map_snd 0 calls

/-- The numbers of the notifications are numbers of calls. -/
theorem serials_sublist (calls : List Numbered) :
    (((opsOf calls).filterMap Op.item?).map Notification.serial).Sublist (calls.map Prod.fst) := by
  induction calls with
  | nil => exact .slnil
  | cons numbered rest ih =>
      obtain ⟨serial, watcherCall⟩ := numbered
      cases watcherCall with
      | backendEvent raw now => exact ih.cons_cons serial
      | start watchId => exact ih.cons serial
      | stop watchId now => exact ih.cons serial
      | flush now => exact ih.cons serial

theorem distinct_of_serials {calls : List Numbered} (apart : (calls.map Prod.fst).Nodup) :
    Distinct (opsOf calls) :=
  (apart.sublist (serials_sublist calls)).of_map _

theorem number_nodup (calls : List WatcherCall) : ((number calls).map Prod.fst).Nodup := by
  rw [number_serials]
  exact List.nodup_range

variable (str : StrMethods) (configs : Keyed WatchConfig.watchId)

/-- What a run of the service does: it dispatches what the buffer releases, and every completed
burst once. -/
structure BurstsDispatched (filteredCount : Bool) (calls : List WatcherCall) : Prop where
  carried : ∀ allowed, Quiet configs allowed → ∀ bus, allowed bus →
    (run (watcherStep str) ⟨⟨configs, .empty⟩, bus⟩ calls).2.bus =
      deliver configs (dispatched str configs (number calls)) bus
  bursts : ReleasesBursts (debouncing str configs) filteredCount (opsOf (number calls))

variable {str configs}

theorem run_carried {allowed : Option EventBus → Prop} (quiet : Quiet configs allowed)
    {bus : Option EventBus} (fits : allowed bus) (calls : List Numbered) :
    (run (watcherStep str) ⟨⟨configs, .empty⟩, bus⟩ (calls.map Prod.snd)).2.bus =
      deliver configs (dispatched str configs calls) bus :=
  congrArg Wired.bus (@run_dispatches str configs .empty allowed quiet bus fits calls)

theorem bursts_dispatched {filteredCount : Bool} {calls : List WatcherCall}
    (spares : Along (step (debouncing str configs)) (Spares (debouncing str configs) filteredCount)
      .empty (opsOf (number calls))) :
    BurstsDispatched str configs filteredCount calls where
  carried := by
    intro allowed quiet bus fits
    have carried := @run_carried str configs allowed quiet bus fits (number calls)
    rwa [number_calls] at carried
  bursts := releases_bursts (distinct_of_serials (number_nodup calls)) spares

theorem scans_rooted : "storage://w1/scans" ≠ "" := by decide

theorem two_seconds : (0 : Int) ≤ 2000000 := by decide

/-- A directory with two seconds of quiet time. -/
def scans : WatchConfig :=
  ⟨"scans", "w1", "storage://w1/scans", [], 2000000, true, two_seconds, scans_rooted⟩

def scansConfigs : Keyed WatchConfig.watchId := Keyed.empty.put scans

def scanned (size : Nat) : BackendFileEvent :=
  ⟨"scans", "storage://w1/scans/a.pdf", "a.pdf", .modified, size⟩

/-- The methods on texts without capitals and blanks. -/
def plainStr : StrMethods := ⟨id, id⟩

def oneBurst : List WatcherCall :=
  [.backendEvent (scanned 1) 0, .backendEvent (scanned 2) 500000, .flush 9000000]

theorem one_burst_dispatched : BurstsDispatched plainStr scansConfigs true oneBurst := by
  apply bursts_dispatched
  refine ⟨?_, ?_, trivial, trivial⟩
  · intro waiting inside
    cases inside
  · intro waiting inside same
    obtain rfl := List.mem_singleton.mp inside
    rfl

/-- A burst that comes after the window of the last one has closed takes its place. -/
theorem overdue_replaced :
    ¬ BurstsDispatched plainStr scansConfigs false
      [.backendEvent (scanned 1) 0, .backendEvent (scanned 2) 9000000, .flush 20000000] := by
  intro dispatched
  have once := (dispatched.bursts [] ⟨0, scanned 1⟩ 0 [] (.item ⟨1, scanned 2⟩ 9000000)
    [.flush 20000000] rfl rfl nofun rfl (by decide)).2
  exact absurd once (by decide)

end LexMind.Watcher
