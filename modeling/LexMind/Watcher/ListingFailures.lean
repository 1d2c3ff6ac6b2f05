import LexMind.Watcher.PollingExact

set_option autoImplicit false

/- What a poll makes of directories that cannot be listed. -/
namespace LexMind.Watcher

open Lib Storage StoragePollingBackend

/-- A file stands where a URI leads to. -/
def Stands (manager : StorageManager) (tree : StoredTree) (uri : String) : Prop :=
  ∃ path data, manager.Denotes uri path ∧ tree.node path = some (.file data)

/-- No poll takes a failure for a change: what the first one reports as deleted is gone, and what
the next one reports as created has not been there all the time. -/
structure NotMistaken (manager : StorageManager) (before now later : StoredTree)
    (sent next : List BackendFileEvent) : Prop where
  deleted : ∀ event ∈ sent, event.eventType = .deleted → ¬ Stands manager now event.uri
  created : ∀ event ∈ next, event.eventType = .created →
    ¬ (Stands manager before event.uri ∧ Stands manager now event.uri ∧
      Stands manager later event.uri)

/-- The poll lists the root and every directory above a file in scope that the backend knows, or
that is there before, during and after the poll. -/
def HeardOfAll (storage : PolledStorage) (config : PolledConfig) (previous : Snapshot)
    (before later : StoredTree) : Prop :=
  ∀ top names data, storage.manager.Denotes config.rootUri top →
    InScope storage.tree config top names data →
    previous.find? (uriBelow config.rootUri names) ≠ none ∨
      (∃ old, InScope before config top names old) ∧ (∃ new, InScope later config top names new) →
    Heard storage config names

section Scope

variable {manager : StorageManager} {config : PolledConfig} {top names : HostPath} {data : Bytes}

theorem denotes_inScope {tree : StoredTree} (normal : HostPath.Normal manager.provider.root)
    (denoted : manager.Denotes config.rootUri top) (inScope : InScope tree config top names data) :
    manager.Denotes (uriBelow config.rootUri names) (top ++ names) := by
  have resolved : (⟨manager, tree, fun _ => none⟩ : PolledStorage).Resolved := normal
  have present : tree.node (top ++ names) ≠ none := by
    rw [inScope.file]
    nofun
  exact denotes_below resolved denoted present

/-- What stands at a URI that was in scope in another tree is in scope in this one. -/
theorem inScope_of_stands {tree other : StoredTree}
    (normal : HostPath.Normal manager.provider.root)
    (denoted : manager.Denotes config.rootUri top)
    (inScope : InScope other config top names data)
    (stands : Stands manager tree (uriBelow config.rootUri names)) :
    ∃ now, InScope tree config top names now := by
  obtain ⟨path, now, leads, file⟩ := stands
  rw [leads.eq (denotes_inScope normal denoted inScope)] at file
  exact ⟨now, file, inScope.strict, inScope.immediate⟩

theorem stands_of_inScope {tree : StoredTree} (normal : HostPath.Normal manager.provider.root)
    (denoted : manager.Denotes config.rootUri top) (inScope : InScope tree config top names data) :
    Stands manager tree (uriBelow config.rootUri names) :=
  ⟨top ++ names, data, denotes_inScope normal denoted inScope, inScope.file⟩

end Scope

section Snapshots

variable {storage : PolledStorage} {config : PolledConfig} {taken : Snapshot}

/-- A snapshot of a root that names a place in the storage, as `snapshot_spec` describes it. -/
def Describes (storage : PolledStorage) (config : PolledConfig) (top : HostPath)
    (taken : Snapshot) : Prop :=
  ∀ uri size, taken.find? uri = some (uri, size) ↔ ∃ names data,
    InScope storage.tree config top names data ∧ Heard storage config names ∧
    uri = uriBelow config.rootUri names ∧ size = data.length

theorem Describes.of_snapshot (resolved : storage.Resolved) {top : HostPath}
    (denoted : storage.manager.Denotes config.rootUri top)
    (walked : snapshot storage config = some (.ok taken)) : Describes storage config top taken := by
  obtain ⟨other, walked', entries⟩ := snapshot_spec resolved denoted
  cases walked.symm.trans walked'
  exact entries

/-- An entry is about a file in scope. -/
theorem Describes.inScope {top : HostPath} (described : Describes storage config top taken)
    {uri : String} (known : taken.find? uri ≠ none) :
    ∃ names data, uri = uriBelow config.rootUri names ∧
      InScope storage.tree config top names data := by
  obtain ⟨⟨key, size⟩, found⟩ := Option.ne_none_iff_exists'.mp known
  have named : key = uri := Keyed.key_of_find? found
  obtain ⟨names, data, inScope, _, same, _⟩ := (described uri size).mp (named ▸ found)
  exact ⟨names, data, same, inScope⟩

/-- A file in scope has no entry exactly where the poll fails above it. -/
theorem Describes.missing (resolved : storage.Resolved) {top : HostPath}
    (denoted : storage.manager.Denotes config.rootUri top)
    (described : Describes storage config top taken) {names : HostPath} {data : Bytes}
    (inScope : InScope storage.tree config top names data) :
    taken.find? (uriBelow config.rootUri names) = none ↔ ¬ Heard storage config names := by
  constructor
  · intro absent heard
    have found := (described _ data.length).mpr ⟨names, data, inScope, heard, rfl, rfl⟩
    cases absent.symm.trans found
  · intro unheard
    cases found : taken.find? (uriBelow config.rootUri names) with
    | none => rfl
    | some row =>
        obtain ⟨uri, size⟩ := row
        have named : uri = uriBelow config.rootUri names := Keyed.key_of_find? found
        subst named
        obtain ⟨names', data', inScope', heard, same, _⟩ := (described _ size).mp found
        obtain ⟨rfl, _⟩ := same_below resolved denoted inScope inScope' same
        exact absurd heard unheard

end Snapshots

section Events

variable (watchId : String) (previous current : Snapshot)

/-- The events of a poll. -/
def reported : List BackendFileEvent :=
  changes watchId previous current ++ deletions watchId previous current

theorem deleted_iff (uri : String) :
    (∃ event ∈ reported watchId previous current, event.eventType = .deleted ∧ event.uri = uri) ↔
      previous.find? uri ≠ none ∧ current.find? uri = none := by
  constructor
  · rintro ⟨event, sent, kind, rfl⟩
    rcases List.mem_append.mp sent with change | deletion
    · obtain ⟨_, _, _, ⟨_, rfl⟩ | ⟨_, _, _, rfl⟩⟩ := (mem_changes _ _ _ event).mp change
      · cases kind
      · cases kind
    · obtain ⟨uri, size, known, gone, rfl⟩ := (mem_deletions _ _ _ event).mp deletion
      refine ⟨fun absent => ?_, gone⟩
      cases known.symm.trans absent
  · rintro ⟨known, gone⟩
    obtain ⟨⟨key, size⟩, found⟩ := Option.ne_none_iff_exists'.mp known
    have named : key = uri := Keyed.key_of_find? found
    subst named
    have deletion := (mem_deletions watchId previous current _).mpr ⟨key, size, found, gone, rfl⟩
    exact ⟨_, List.mem_append_right _ deletion, rfl, rfl⟩

theorem created_iff (uri : String) :
    (∃ event ∈ reported watchId previous current, event.eventType = .created ∧ event.uri = uri) ↔
      previous.find? uri = none ∧ current.find? uri ≠ none := by
  constructor
  · rintro ⟨event, sent, kind, rfl⟩
    rcases List.mem_append.mp sent with change | deletion
    · obtain ⟨uri, size, found, ⟨fresh, rfl⟩ | ⟨_, _, _, rfl⟩⟩ := (mem_changes _ _ _ event).mp change
      · refine ⟨fresh, fun absent => ?_⟩
        cases found.symm.trans absent
      · cases kind
    · obtain ⟨_, _, _, _, rfl⟩ := (mem_deletions _ _ _ event).mp deletion
      cases kind
  · rintro ⟨fresh, present⟩
    obtain ⟨⟨key, size⟩, found⟩ := Option.ne_none_iff_exists'.mp present
    have named : key = uri := Keyed.key_of_find? found
    subst named
    have change := (mem_changes watchId previous current _).mpr
      ⟨key, size, found, .inl ⟨fresh, rfl⟩⟩
    exact ⟨_, List.mem_append_left _ change, rfl, rfl⟩

end Events

/-- Where the root of the watch names a place in the storage, the polls mistake nothing exactly when
the first one hears of all that matters. -/
theorem notMistaken_iff {manager : StorageManager} (normal : HostPath.Normal manager.provider.root)
    {before now later : StoredTree} {earlier failure : String → Option PyExc}
    {config : PolledConfig} {top : HostPath} (denoted : manager.Denotes config.rootUri top)
    {previous current next : Snapshot} (watchId : String)
    (taken : Describes ⟨manager, before, earlier⟩ config top previous)
    (polled : Describes ⟨manager, now, failure⟩ config top current)
    (recovered : Describes ⟨manager, later, fun _ => none⟩ config top next) :
    NotMistaken manager before now later (reported watchId previous current)
        (reported watchId current next) ↔
      HeardOfAll ⟨manager, now, failure⟩ config previous before later := by
  have resolved : (⟨manager, now, failure⟩ : PolledStorage).Resolved := normal
  have missing {names : HostPath} {data : Bytes} (inScope : InScope now config top names data) :=
    polled.missing resolved denoted inScope
  constructor
  · intro sound place names data denoted' inScope matters
    obtain rfl : place = top := denoted'.eq denoted
    by_contra unheard
    have gone := (missing inScope).mpr unheard
    have here : Stands manager now (uriBelow config.rootUri names) :=
      stands_of_inScope normal denoted inScope
    rcases matters with known | ⟨⟨old, first⟩, new, last⟩
    · obtain ⟨event, sent, kind, same⟩ := (deleted_iff watchId _ _ _).mpr ⟨known, gone⟩
      exact sound.deleted event sent kind (same ▸ here)
    · have answers : Heard ⟨manager, later, fun _ => none⟩ config names := fun _ _ _ => rfl
      have found := (recovered _ new.length).mpr ⟨names, new, last, answers, rfl, rfl⟩
      have present : next.find? (uriBelow config.rootUri names) ≠ none := by
        rw [found]
        nofun
      obtain ⟨event, sent, kind, same⟩ := (created_iff watchId _ _ _).mpr ⟨gone, present⟩
      refine sound.created event sent kind ?_
      rw [same]
      exact ⟨stands_of_inScope normal denoted first, here, stands_of_inScope normal denoted last⟩
  · intro heard
    refine ⟨fun event sent kind stands => ?_, fun event sent kind always => ?_⟩
    · obtain ⟨known, gone⟩ := (deleted_iff watchId _ _ _).mp ⟨event, sent, kind, rfl⟩
      obtain ⟨names, old, same, first⟩ := taken.inScope known
      rw [same] at known gone stands
      obtain ⟨data, inScope⟩ := inScope_of_stands normal denoted first stands
      exact (missing inScope).mp gone (heard top names data denoted inScope (.inl known))
    · obtain ⟨gone, present⟩ := (created_iff watchId _ _ _).mp ⟨event, sent, kind, rfl⟩
      obtain ⟨names, new, same, last⟩ := recovered.inScope present
      obtain ⟨stoodBefore, standsNow, _⟩ := always
      rw [same] at gone stoodBefore standsNow
      obtain ⟨old, first⟩ := inScope_of_stands normal denoted last stoodBefore
      obtain ⟨data, inScope⟩ := inScope_of_stands normal denoted last standsNow
      exact (missing inScope).mp gone
        (heard top names data denoted inScope (.inr ⟨⟨old, first⟩, new, last⟩))

/-- For every stored tree before, during and after a poll, every watch, every snapshot the backend
took of it before, and every pattern of failing `list` calls, then and during the poll: the poll
reports no file as deleted that is there, and the next one, where no call fails, reports no file as
created that was there all the time, exactly when no `list` call fails that the files depend on. -/
theorem failure_not_deletion_iff (root : List Char) (codec : Codec)
    (before now later : StoredTree) (earlier failure : String → Option PyExc)
    (config : PolledConfig) (backend : StoragePollingBackend)
    (watched : backend.configs.find? config.watchId = some config)
    (taken : snapshot ⟨⟨⟨HostPath.locate [] root⟩, codec⟩, before, earlier⟩ config =
      some (.ok (backend.previous config.watchId))) :
    let manager : StorageManager := ⟨⟨HostPath.locate [] root⟩, codec⟩
    ∃ sent polled next recovered,
      backend.poll ⟨manager, now, failure⟩ config.watchId = some (.ok sent, polled) ∧
      polled.poll ⟨manager, later, fun _ => none⟩ config.watchId = some (.ok next, recovered) ∧
      (NotMistaken manager before now later sent next ↔
        HeardOfAll ⟨manager, now, failure⟩ config (backend.previous config.watchId) before
          later) := by
  intro manager
  have normal : HostPath.Normal manager.provider.root := HostPath.normal_nil.locate root
  by_cases place : ∃ top, manager.Denotes config.rootUri top
  · obtain ⟨top, denoted⟩ := place
    have entered := @Describes.of_snapshot ⟨manager, before, earlier⟩ _ _ normal top denoted taken
    obtain ⟨current, walked, entries⟩ :=
      @snapshot_spec ⟨manager, now, failure⟩ config normal top denoted
    obtain ⟨next, walked', entries'⟩ :=
      @snapshot_spec ⟨manager, later, fun _ => none⟩ config normal top denoted
    have polled := poll_of_snapshot config.watchId watched walked
    have again := @poll_of_snapshot config.watchId (backend.holding config.watchId current)
      _ _ _ watched walked'
    rw [previous_holding] at again
    exact ⟨_, _, _, _, polled, again,
      notMistaken_iff normal denoted config.watchId entered entries entries'⟩
  · have undenoted (top : HostPath) : ¬ manager.Denotes config.rootUri top :=
      fun denoted => place ⟨top, denoted⟩
    have empty : backend.previous config.watchId = .empty := by
      have both := taken.symm.trans (snapshot_unresolved undenoted)
      exact Except.ok.inj (Option.some.inj both)
    have polled := poll_of_snapshot config.watchId watched
      (@snapshot_unresolved ⟨manager, now, failure⟩ config undenoted)
    have again := @poll_of_snapshot config.watchId (backend.holding config.watchId .empty)
      _ _ _ watched (@snapshot_unresolved ⟨manager, later, fun _ => none⟩ config undenoted)
    rw [previous_holding] at again
    refine ⟨_, _, _, _, polled, again, iff_of_true ⟨?_, nofun⟩ ?_⟩
    · rw [empty]
      exact nofun
    · intro top names data denoted
      exact absurd denoted (undenoted top)

/-- The storage of the inbox, where the root cannot be listed. -/
def unlisted : PolledStorage :=
  { undisturbed with
    failure := fun uri =>
      if uri = everything.rootUri then some (.storagePermissionDenied uri "list") else none }

/-- The backend that watches the inbox and knows of its file. -/
def informed : StoragePollingBackend :=
  watching.holding everything.watchId (Keyed.empty.put ("storage://ws/in/a", 2))

theorem failure_not_deletion_iff_inbox :
    ∃ sent polled next recovered,
      informed.poll unlisted everything.watchId = some (.ok sent, polled) ∧
      polled.poll undisturbed everything.watchId = some (.ok next, recovered) ∧
      (NotMistaken undisturbed.manager inboxTree inboxTree inboxTree sent next ↔
        HeardOfAll unlisted everything (informed.previous everything.watchId) inboxTree inboxTree) :=
  failure_not_deletion_iff ['/'] StorageManager.plain.codec inboxTree inboxTree inboxTree
    undisturbed.failure unlisted.failure everything informed rfl rfl

/-- Nothing changes in the inbox, and its file is reported as deleted and then as created. -/
theorem unlisted_root_mistaken :
    snapshot undisturbed everything = some (.ok (informed.previous everything.watchId)) ∧
    ∃ sent polled next recovered,
      informed.poll unlisted everything.watchId = some (.ok sent, polled) ∧
      polled.poll undisturbed everything.watchId = some (.ok next, recovered) ∧
      (∃ event ∈ sent, event.eventType = .deleted ∧
        Stands undisturbed.manager inboxTree event.uri) ∧
      (∃ event ∈ next, event.eventType = .created ∧
        Stands undisturbed.manager inboxTree event.uri) := by
  have stands : Stands undisturbed.manager inboxTree "storage://ws/in/a" :=
    ⟨[['i', 'n'], ['a']], [1, 2], ⟨_, rfl, rfl⟩, rfl⟩
  refine ⟨rfl, [⟨"w", "storage://ws/in/a", "a", .deleted, 0⟩], _,
    [⟨"w", "storage://ws/in/a", "a", .created, 2⟩], _, rfl, rfl, ?_, ?_⟩
  · exact ⟨_, List.mem_singleton_self _, rfl, stands⟩
  · exact ⟨_, List.mem_singleton_self _, rfl, stands⟩

end LexMind.Watcher
