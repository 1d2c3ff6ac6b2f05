import LexMind.Watcher.PollingWalk

set_option autoImplicit false

/- What a poll reports, against what is stored. -/
namespace LexMind.Watcher

open Lib Storage

/-- A created file is added, a modified one gets its size, and a deleted one goes. -/
def replay (snapshot : Snapshot) (event : BackendFileEvent) : Snapshot :=
  match event.eventType with
  | .created => snapshot.put (event.uri, event.size)
  | .modified => snapshot.put (event.uri, event.size)
  | .deleted => snapshot.erase event.uri

/-- The events lead from one snapshot to the other: at most one for each URI, and none for one
whose size is the same or that neither has. -/
structure LeadsTo (previous current : Snapshot) (events : List BackendFileEvent) : Prop where
  replayed : ∀ uri, (events.foldl replay previous).find? uri = current.find? uri
  single : (events.map BackendFileEvent.uri).Nodup
  changed : ∀ event ∈ events, previous.find? event.uri ≠ current.find? event.uri

/-- The snapshot has one entry for each file in scope, with its size, and no other entry. -/
structure Exact (tree : StoredTree) (config : PolledConfig) (top : HostPath) (taken : Snapshot) :
    Prop where
  entries : ∀ uri size, taken.find? uri = some (uri, size) ↔ ∃ names data,
    StoragePollingBackend.InScope tree config top names data ∧
    uri = uriBelow config.rootUri names ∧ size = data.length
  separate : ∀ names data names' data',
    StoragePollingBackend.InScope tree config top names data →
    StoragePollingBackend.InScope tree config top names' data' →
    uriBelow config.rootUri names = uriBelow config.rootUri names' → names = names'

namespace StoragePollingBackend

variable (watchId : String) (previous current : Snapshot)

/-- What one URI's event makes of its entry. -/
theorem find?_replay (snapshot : Snapshot) (event : BackendFileEvent) (uri : String) :
    (replay snapshot event).find? uri =
      if event.uri = uri then
        if event.eventType = .deleted then none else some (event.uri, event.size)
      else snapshot.find? uri := by
  unfold replay
  cases event.eventType with
  | created => simp [Keyed.find?_put]
  | modified => simp [Keyed.find?_put]
  | deleted =>
      rw [Keyed.find?_erase]
      by_cases same : event.uri = uri
      · simp [same]
      · simp [same, Ne.symm same]

/-- Events at different URIs act on one entry each. -/
theorem find?_replayed {events : List BackendFileEvent}
    (single : (events.map BackendFileEvent.uri).Nodup) (snapshot : Snapshot) (uri : String) :
    (∀ event ∈ events, event.uri ≠ uri) ∧
        (events.foldl replay snapshot).find? uri = snapshot.find? uri ∨
      ∃ event ∈ events, event.uri = uri ∧ (events.foldl replay snapshot).find? uri =
        if event.eventType = .deleted then none else some (event.uri, event.size) := by
  induction events generalizing snapshot with
  | nil => exact .inl ⟨nofun, rfl⟩
  | cons event rest ih =>
      obtain ⟨fresh, single⟩ := List.nodup_cons.mp single
      rw [List.foldl_cons]
      rcases ih single (replay snapshot event) with ⟨none, kept⟩ | ⟨other, inside, same, last⟩
      · rw [kept, find?_replay]
        by_cases same : event.uri = uri
        · exact .inr ⟨event, List.mem_cons_self, same, if_pos same⟩
        · rw [if_neg same]
          refine .inl ⟨fun other inside => ?_, rfl⟩
          rcases List.mem_cons.mp inside with rfl | later
          · exact same
          · exact none other later
      · exact .inr ⟨other, List.mem_cons_of_mem _ inside, same, last⟩

theorem mem_changes (event : BackendFileEvent) : event ∈ changes watchId previous current ↔
    ∃ uri size, current.find? uri = some (uri, size) ∧
      (previous.find? uri = none ∧ event = eventOf watchId .created (uri, size) ∨
        ∃ old, previous.find? uri = some (uri, old) ∧ old ≠ size ∧
          event = eventOf watchId .modified (uri, size)) := by
  unfold changes
  rw [List.mem_filterMap]
  constructor
  · rintro ⟨⟨uri, size⟩, inside, sent⟩
    refine ⟨uri, size, current.find?_of_mem inside, ?_⟩
    cases found : previous.find? uri with
    | none =>
        simp only [found, Option.some_inj] at sent
        exact .inl ⟨rfl, sent.symm⟩
    | some row =>
        obtain ⟨key, old⟩ := row
        have named : key = uri := Keyed.key_of_find? found
        subst named
        simp only [found, Option.ite_none_right_eq_some, Option.some_inj] at sent
        exact .inr ⟨old, rfl, sent.1, sent.2.symm⟩
  · rintro ⟨uri, size, found, ⟨fresh, rfl⟩ | ⟨old, known, differs, rfl⟩⟩
    · exact ⟨(uri, size), Keyed.mem_of_find? found, by simp only [fresh]⟩
    · exact ⟨(uri, size), Keyed.mem_of_find? found, by simp only [known, if_pos differs]⟩

theorem mem_deletions (event : BackendFileEvent) : event ∈ deletions watchId previous current ↔
    ∃ uri size, previous.find? uri = some (uri, size) ∧ current.find? uri = none ∧
      event = eventOf watchId .deleted (uri, 0) := by
  unfold deletions
  rw [List.mem_map]
  constructor
  · rintro ⟨⟨uri, size⟩, picked, rfl⟩
    obtain ⟨inside, gone⟩ := List.mem_filter.mp picked
    exact ⟨uri, size, previous.find?_of_mem inside, of_decide_eq_true gone, rfl⟩
  · rintro ⟨uri, size, found, gone, rfl⟩
    exact ⟨(uri, size), List.mem_filter.mpr ⟨Keyed.mem_of_find? found, decide_eq_true gone⟩, rfl⟩

/-- What is made of some of the rows keeps their order. -/
theorem map_filterMap_sublist {α β γ : Type} {pick : α → Option β} {label : β → γ} {key : α → γ}
    (same : ∀ row made, pick row = some made → label made = key row) (rows : List α) :
    ((rows.filterMap pick).map label).Sublist (rows.map key) := by
  induction rows with
  | nil => exact .slnil
  | cons row rest ih =>
      cases made : pick row with
      | none =>
          rw [List.filterMap_cons_none made, List.map_cons]
          exact ih.cons _
      | some event =>
          rw [List.filterMap_cons_some made, List.map_cons, List.map_cons, same row event made]
          exact ih.cons_cons _

theorem events_single :
    ((changes watchId previous current ++ deletions watchId previous current).map
      BackendFileEvent.uri).Nodup := by
  rw [List.map_append]
  refine List.nodup_append.mpr ⟨?_, ?_, ?_⟩
  · refine (map_filterMap_sublist (fun row event sent => ?_) current.rows).nodup current.distinct
    split at sent
    · cases sent
      rfl
    · split at sent
      · cases sent
        rfl
      · cases sent
  · rw [deletions, List.map_map]
    exact (List.filter_sublist.map _).nodup previous.distinct
  · rintro uri early other late rfl
    obtain ⟨event, sent, rfl⟩ := List.mem_map.mp early
    obtain ⟨event', sent', same⟩ := List.mem_map.mp late
    obtain ⟨uri, size, found, kinds⟩ := (mem_changes watchId previous current event).mp sent
    obtain ⟨gone, _, _, absent, rfl⟩ := (mem_deletions watchId previous current event').mp sent'
    have named : event.uri = uri := by
      rcases kinds with ⟨_, rfl⟩ | ⟨_, _, _, rfl⟩ <;> rfl
    have apart : gone = uri := same.trans named
    rw [apart, found] at absent
    cases absent

/-- A URI without an event has the same entry in both snapshots. -/
theorem unreported {uri : String}
    (none : ∀ event ∈ changes watchId previous current ++ deletions watchId previous current,
      event.uri ≠ uri) :
    previous.find? uri = current.find? uri := by
  have unchanged {event : BackendFileEvent} (sent : event ∈ changes watchId previous current) :
      event.uri ≠ uri := none event (List.mem_append_left _ sent)
  cases found : current.find? uri with
  | none =>
      cases known : previous.find? uri with
      | none => rfl
      | some row =>
          obtain ⟨key, size⟩ := row
          have named : key = uri := Keyed.key_of_find? known
          subst named
          have sent := (mem_deletions watchId previous current _).mpr ⟨key, size, known, found, rfl⟩
          exact absurd rfl (none _ (List.mem_append_right _ sent))
  | some row =>
      obtain ⟨key, size⟩ := row
      have named : key = uri := Keyed.key_of_find? found
      subst named
      cases known : previous.find? key with
      | none =>
          have sent := (mem_changes watchId previous current _).mpr
            ⟨key, size, found, .inl ⟨known, rfl⟩⟩
          exact absurd rfl (unchanged sent)
      | some row =>
          obtain ⟨other, old⟩ := row
          have named : other = key := Keyed.key_of_find? known
          subst named
          by_cases differs : old = size
          · rw [differs]
          · have sent := (mem_changes watchId previous current _).mpr
              ⟨other, size, found, .inr ⟨old, known, differs, rfl⟩⟩
            exact absurd rfl (unchanged sent)

theorem leadsTo :
    LeadsTo previous current
      (changes watchId previous current ++ deletions watchId previous current) where
  single := events_single watchId previous current
  changed := fun event inside => by
    rcases List.mem_append.mp inside with sent | sent
    · obtain ⟨uri, size, found, ⟨fresh, rfl⟩ | ⟨old, known, differs, rfl⟩⟩ :=
        (mem_changes watchId previous current event).mp sent
      · show previous.find? uri ≠ current.find? uri
        rw [fresh, found]
        nofun
      · show previous.find? uri ≠ current.find? uri
        rw [known, found]
        exact fun same => differs (Prod.mk.inj (Option.some.inj same)).2
    · obtain ⟨uri, size, known, gone, rfl⟩ :=
        (mem_deletions watchId previous current event).mp sent
      show previous.find? uri ≠ current.find? uri
      rw [known, gone]
      nofun
  replayed := fun uri => by
    rcases find?_replayed (events_single watchId previous current) previous uri with
      ⟨none, kept⟩ | ⟨event, inside, rfl, last⟩
    · rw [kept]
      exact unreported watchId previous current none
    · rw [last]
      rcases List.mem_append.mp inside with sent | sent
      · obtain ⟨uri, size, found, ⟨_, rfl⟩ | ⟨_, _, _, rfl⟩⟩ :=
          (mem_changes watchId previous current event).mp sent
        · exact found.symm
        · exact found.symm
      · obtain ⟨uri, size, _, gone, rfl⟩ :=
          (mem_deletions watchId previous current event).mp sent
        exact gone.symm

/-- Where nothing fails, the snapshot is exact. -/
theorem snapshot_exact {storage : PolledStorage} {config : PolledConfig}
    (resolved : storage.Resolved) (undisturbed : ∀ uri, storage.failure uri = none)
    {children : List (List Char)} (answered : storage.list config.rootUri = .ok children) :
    ∃ top taken, storage.manager.Denotes config.rootUri top ∧
      snapshot storage config = some (.ok taken) ∧ Exact storage.tree config top taken := by
  cases found : dirOf storage config.rootUri with
  | none =>
      obtain ⟨exc, refused⟩ := list_of_dirOf_none found config.rooted
      cases answered.symm.trans refused
  | some top =>
      have denoted := (dirOf_eq_some.mp found).2.1
      obtain ⟨taken, walked, entries⟩ := snapshot_spec resolved denoted
      refine ⟨top, taken, denoted, walked, fun uri size => ?_, ?_⟩
      · rw [entries]
        constructor
        · rintro ⟨names, data, inScope, _, same⟩
          exact ⟨names, data, inScope, same⟩
        · rintro ⟨names, data, inScope, same⟩
          exact ⟨names, data, inScope, fun _ _ _ => undisturbed _, same⟩
      · intro names data names' data' inScope inScope' same
        exact (same_below resolved denoted inScope inScope' same).1

/-- The backend that holds a snapshot for a watch. -/
def holding (backend : StoragePollingBackend) (watchId : String) (taken : Snapshot) :
    StoragePollingBackend :=
  { backend with snapshots := backend.snapshots.put (watchId, taken) }

theorem previous_holding (backend : StoragePollingBackend) (taken : Snapshot) :
    (backend.holding watchId taken).previous watchId = taken := by
  rw [StoragePollingBackend.previous, holding, Keyed.find?_put, if_pos rfl]
  rfl

theorem poll_of_snapshot {backend : StoragePollingBackend} {storage : PolledStorage}
    {config : PolledConfig} {taken : Snapshot}
    (watched : backend.configs.find? watchId = some config)
    (walked : snapshot storage config = some (.ok taken)) :
    backend.poll storage watchId = some (.ok (changes watchId (backend.previous watchId) taken ++
      deletions watchId (backend.previous watchId) taken), backend.holding watchId taken) := by
  rw [poll, watched]
  simp only [walked, Option.map_some]
  rfl

theorem watch_of_snapshot {backend : StoragePollingBackend} {storage : PolledStorage}
    {config : PolledConfig} {taken : Snapshot}
    (walked : snapshot storage config = some (.ok taken)) :
    backend.watch storage config = some (.ok (),
      { backend with configs := backend.configs.put config }.holding config.watchId taken) := by
  rw [watch, walked]
  rfl

end StoragePollingBackend

/-- For every stored tree, every watch and every backend: where the root of the watch can be listed,
watching it and polling it take the exact snapshot, and the events of a poll lead from the
snapshot that the backend held to the new one. -/
theorem polling_exact (root : List Char) (codec : Codec) (tree : StoredTree)
    (config : PolledConfig) (backend : StoragePollingBackend) {children : List (List Char)}
    (answered : (⟨⟨⟨HostPath.locate [] root⟩, codec⟩, tree, fun _ => none⟩ : PolledStorage).list
      config.rootUri = .ok children)
    (watched : backend.configs.find? config.watchId = some config) :
    let storage : PolledStorage := ⟨⟨⟨HostPath.locate [] root⟩, codec⟩, tree, fun _ => none⟩
    ∃ top taken events begun after,
      storage.manager.Denotes config.rootUri top ∧ Exact tree config top taken ∧
      backend.watch storage config = some (.ok (), begun) ∧
      begun.previous config.watchId = taken ∧
      backend.poll storage config.watchId = some (.ok events, after) ∧
      after.previous config.watchId = taken ∧
      LeadsTo (backend.previous config.watchId) taken events := by
  intro storage
  have resolved : storage.Resolved := HostPath.normal_nil.locate root
  obtain ⟨top, taken, denoted, walked, exact⟩ :=
    StoragePollingBackend.snapshot_exact resolved (fun _ => rfl) answered
  exact ⟨top, taken, _, _, _, denoted, exact,
    StoragePollingBackend.watch_of_snapshot walked,
    StoragePollingBackend.previous_holding _ _ taken,
    StoragePollingBackend.poll_of_snapshot config.watchId watched walked,
    StoragePollingBackend.previous_holding _ _ taken,
    StoragePollingBackend.leadsTo config.watchId _ taken⟩

/-- A directory with one file in it. -/
def inboxTree : StoredTree where
  node path :=
    if path = [] ∨ path = [['i', 'n']] then some .dir
    else if path = [['i', 'n'], ['a']] then some (.file [1, 2])
    else none
  rooted := rfl
  nested path name present := by
    rcases path with _ | ⟨first, _ | ⟨second, rest⟩⟩
    · simp
    · simp at present
      simp [present.1]
    · simp at present
  paths := [[], [['i', 'n']], [['i', 'n'], ['a']]]
  listed path present := by
    by_contra absent
    simp at absent
    simp [absent] at present
  legal path name present := by
    rcases path with _ | ⟨first, _ | ⟨second, rest⟩⟩
    · simp at present
      subst present
      constructor <;> decide
    · simp at present
      obtain ⟨rfl, rfl⟩ := present
      constructor <;> decide
    · simp at present

/-- A watch on the root of the storage. -/
def everything : PolledConfig where
  watchId := "w"
  workspaceId := "ws"
  rootUri := "storage://ws"
  patterns := []
  debounceSeconds := 0
  enabled := true
  nonNegative := le_rfl
  rooted := by decide
  recursive := true

/-- The storage of the inbox, where every call answers. -/
def undisturbed : PolledStorage :=
  ⟨⟨⟨HostPath.locate [] ['/']⟩, StorageManager.plain.codec⟩, inboxTree, fun _ => none⟩

def watching : StoragePollingBackend := ⟨Keyed.empty.put everything, .empty⟩

theorem undisturbed_list : undisturbed.list everything.rootUri = .ok [['i', 'n']] := by
  decide +kernel

theorem polling_exact_inbox :
    ∃ top taken events begun after,
      undisturbed.manager.Denotes everything.rootUri top ∧ Exact inboxTree everything top taken ∧
      watching.watch undisturbed everything = some (.ok (), begun) ∧
      begun.previous everything.watchId = taken ∧
      watching.poll undisturbed everything.watchId = some (.ok events, after) ∧
      after.previous everything.watchId = taken ∧
      LeadsTo (watching.previous everything.watchId) taken events :=
  polling_exact ['/'] StorageManager.plain.codec inboxTree everything watching undisturbed_list rfl

end LexMind.Watcher
