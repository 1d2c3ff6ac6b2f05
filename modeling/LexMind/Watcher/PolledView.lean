import LexMind.Watcher.PolledWatcher

set_option autoImplicit false

/- What the dispatched events of the watcher tell of the storage it polls. -/
namespace LexMind.Watcher

open Lib Events Storage Debounce StoragePollingBackend

namespace PolledWatcher

variable {recursive : String → Bool} {configs : Keyed WatchConfig.watchId}
  {backend after : StoragePollingBackend} {polledCall : PolledCall}
  {events : List BackendFileEvent}

/-- An entry after the last event of its URI, if there is one. -/
def told (entry : Option (String × Nat)) : Option BackendFileEvent → Option (String × Nat)
  | none => entry
  | some event => if event.eventType = .deleted then none else some (event.uri, event.size)

theorem find?_foldl_replay (events : List BackendFileEvent) (view : Snapshot) (uri : String) :
    (events.foldl replay view).find? uri =
      told (view.find? uri) (events.filter (fun event => event.uri = uri)).getLast? := by
  induction events using List.reverseRecOn with
  | nil => rfl
  | append_singleton front event ih =>
      rw [List.foldl_append, List.foldl_cons, List.foldl_nil, find?_replay, List.filter_append]
      by_cases same : event.uri = uri
      · simp [same, told]
      · simp [same, ih]

/-- A view that shows a file as the last snapshot of its watch has it does so after any call that
does not switch the watch. -/
theorem Turn.followed (turn : Turn recursive configs backend polledCall events after)
    (tidy : Tidy recursive configs backend) {watchId uri : String}
    (own : ∀ other, Below configs other uri → other = watchId)
    (steady : ¬ polledCall.Switches watchId) {view : Snapshot}
    (current : view.find? uri = (backend.previous watchId).find? uri) :
    (events.foldl replay view).find? uri = (after.previous watchId).find? uri := by
  by_cases about : polledCall.watch? = some watchId
  · cases turn with
    | unknown => exact absurd (Option.some.inj about) steady
    | start => exact absurd (Option.some.inj about) steady
    | idle => exact current
    | @poll config storage clock taken watched walked inside =>
        obtain rfl : config.watchId = watchId := Option.some.inj about
        have replayed :=
          (leadsTo config.watchId (backend.previous config.watchId) taken).replayed uri
        rw [find?_foldl_replay] at replayed ⊢
        rw [current, previous_holding]
        exact replayed
    | stop => exact absurd (Option.some.inj about) steady
    | flush => cases about
  · have none : events.filter (fun event => event.uri = uri) = [] := by
      refine List.filter_eq_nil_iff.mpr (fun event sent same => about ?_)
      obtain ⟨polled, below, _⟩ := turn.reported tidy sent
      rw [of_decide_eq_true same] at below
      rw [polled, own _ below]
    rw [find?_foldl_replay, none, (turn.elsewhere about).2]
    exact current

variable {str : StrMethods} {allowed : Option EventBus → Prop}
  {buffer : Buffer (debouncing str configs).key} {system : PolledWatcher}

section Runs

variable {calls front back : List PolledCall} {watchId uri : String}

theorem Turns.split (turns : Turns recursive configs backend (front ++ back) events after) :
    ∃ middle early late, Turns recursive configs backend front early middle ∧
      Turns recursive configs middle back late after ∧ events = early ++ late := by
  induction front generalizing backend events with
  | nil => exact ⟨backend, [], events, .nil backend, turns, rfl⟩
  | cons polledCall rest ih =>
      cases turns with
      | cons turn later =>
          obtain ⟨middle, early, late, first, second, rfl⟩ := ih later
          exact ⟨middle, _, late, .cons turn first, second, (List.append_assoc _ _ _).symm⟩

theorem Turns.reported (turns : Turns recursive configs backend calls events after)
    (tidy : Tidy recursive configs backend) :
    ∀ event ∈ events, Below configs event.watchId event.uri := by
  induction turns with
  | nil => exact List.forall_mem_nil _
  | cons turn _ ih =>
      intro event sent
      rcases List.mem_append.mp sent with now | later
      · exact (turn.reported tidy now).2.1
      · exact ih (turn.tidy tidy) event later

theorem Turns.followed (turns : Turns recursive configs backend calls events after)
    (tidy : Tidy recursive configs backend)
    (own : ∀ other, Below configs other uri → other = watchId)
    (steady : ∀ polledCall ∈ calls, ¬ polledCall.Switches watchId) {view : Snapshot}
    (current : view.find? uri = (backend.previous watchId).find? uri) :
    (events.foldl replay view).find? uri = (after.previous watchId).find? uri := by
  induction turns generalizing view with
  | nil => exact current
  | cons turn _ ih =>
      obtain ⟨first, others⟩ := List.forall_mem_cons.mp steady
      rw [List.foldl_append]
      exact ih (turn.tidy tidy) others (turn.followed tidy own first current)

theorem Turns.elsewhere (turns : Turns recursive configs backend calls events after)
    (apart : ∀ polledCall ∈ calls, polledCall.watch? ≠ some watchId) :
    after.previous watchId = backend.previous watchId := by
  induction turns with
  | nil => rfl
  | cons turn _ ih =>
      obtain ⟨first, others⟩ := List.forall_mem_cons.mp apart
      exact (ih others).trans (turn.elsewhere first).2

theorem Turn.watched (turn : Turn recursive configs backend polledCall events after)
    (steady : ¬ polledCall.Switches watchId) :
    after.configs.find? watchId = backend.configs.find? watchId := by
  by_cases about : polledCall.watch? = some watchId
  · cases turn with
    | unknown => rfl
    | start => exact absurd (Option.some.inj about) steady
    | idle => rfl
    | poll => rfl
    | stop => exact absurd (Option.some.inj about) steady
    | flush => rfl
  · exact (turn.elsewhere about).1

theorem Turns.watched (turns : Turns recursive configs backend calls events after)
    (steady : ∀ polledCall ∈ calls, ¬ polledCall.Switches watchId) :
    after.configs.find? watchId = backend.configs.find? watchId := by
  induction turns with
  | nil => rfl
  | cons turn _ ih =>
      obtain ⟨first, others⟩ := List.forall_mem_cons.mp steady
      exact (ih others).trans (turn.watched first)

theorem Turn.started {config : WatchConfig} {storage : PolledStorage}
    (turn : Turn recursive configs backend (.start watchId storage) events after)
    (known : configs.find? watchId = some config) :
    events = [] ∧ after.configs.find? watchId = some ⟨config, recursive watchId⟩ ∧
      snapshot storage ⟨config, recursive watchId⟩ = some (.ok (after.previous watchId)) := by
  cases turn with
  | unknown absent => cases known.symm.trans absent
  | start found walked inside =>
      cases known.symm.trans found
      rw [previous_holding]
      exact ⟨rfl, Keyed.find?_put_self _ _, walked⟩

theorem Turn.polled {config : PolledConfig} {storage : PolledStorage} {clock : Nat → Int}
    (turn : Turn recursive configs backend (.poll watchId storage clock) events after)
    (watched : backend.configs.find? watchId = some config) :
    snapshot storage config = some (.ok (after.previous watchId)) := by
  cases turn with
  | idle absent => cases watched.symm.trans absent
  | poll found walked inside =>
      cases watched.symm.trans found
      rw [previous_holding]
      exact walked

theorem Turn.silent (turn : Turn recursive configs backend polledCall events after)
    (forced : polledCall.Forced) : events = [] := by
  cases turn with
  | poll => exact forced.elim
  | unknown | start | idle | stop | flush => rfl

variable {config : WatchConfig} {first current : PolledStorage} {clock : Nat → Int}
  {middle rest : List PolledCall} {last : PolledCall}

/-- From a start of the watch over its last poll to a forced call. -/
def episode (watchId : String) (first : PolledStorage) (middle : List PolledCall)
    (current : PolledStorage) (clock : Nat → Int) (rest : List PolledCall) (last : PolledCall) :
    List PolledCall :=
  .start watchId first :: ((middle ++ .poll watchId current clock :: rest) ++ [last])

/-- What is reported in an episode leads from the first snapshot to the last one. -/
theorem Turns.episode
    (turns : Turns recursive configs backend
      (episode watchId first middle current clock rest last) events after)
    (tidy : Tidy recursive configs backend) (known : configs.find? watchId = some config)
    (steady : ∀ polledCall ∈ middle, ¬ polledCall.Switches watchId)
    (apart : ∀ polledCall ∈ rest, polledCall.watch? ≠ some watchId) (forced : last.Forced) :
    ∃ begun taken, snapshot first ⟨config, recursive watchId⟩ = some (.ok begun) ∧
      snapshot current ⟨config, recursive watchId⟩ = some (.ok taken) ∧
      ∀ uri, (∀ other, Below configs other uri → other = watchId) →
        (events.foldl replay begun).find? uri = taken.find? uri := by
  cases turns with
  | cons start later =>
      obtain ⟨rfl, watched, begun⟩ := start.started known
      obtain ⟨ended, told, _, body, ending, rfl⟩ := later.split
      obtain ⟨polling, early, _, before, polled, rfl⟩ := body.split
      cases polled with
      | cons poll others =>
          have taken := poll.polled ((before.watched steady).trans watched)
          rw [← others.elsewhere apart] at taken
          have unswitched : ∀ polledCall ∈ middle ++ .poll watchId current clock :: rest,
              ¬ polledCall.Switches watchId := by
            intro polledCall inside
            rcases List.mem_append.mp inside with within | within
            · exact steady polledCall within
            · rcases List.mem_cons.mp within with rfl | within
              · exact id
              · intro switches
                apply apart polledCall within
                cases polledCall with
                | start | stop => exact congrArg some switches
                | poll | flush => exact switches.elim
          refine ⟨_, _, begun, taken, fun uri own => ?_⟩
          cases ending with
          | cons turn none =>
              obtain rfl := turn.silent forced
              cases none
              simp only [List.nil_append, List.append_nil]
              exact body.followed (start.tidy tidy) own unswitched rfl

end Runs

section View

variable {calls : List PolledCall} {watchId uri : String}

/-- Nothing waits for a file of a watch that is not active. -/
theorem Standing.none_waiting (standing : Standing recursive allowed buffer system)
    (idle : watchId ∉ system.watching)
    (own : ∀ other, Below configs other uri → other = watchId) : waitingFor buffer uri = [] := by
  refine List.filter_eq_nil_iff.mpr (fun notification inside same => ?_)
  obtain ⟨waiting, member, rfl⟩ := List.mem_map.mp inside
  obtain ⟨active, below⟩ := standing.buffered waiting member
  have named : waiting.item.raw.uri = uri := of_decide_eq_true same
  rw [named] at below
  rw [own _ below] at active
  exact idle ((standing.active watchId).mpr active)

theorem standing_fresh {bus : Option EventBus} (fits : allowed bus) :
    Standing recursive allowed (.empty : Buffer (debouncing str configs).key)
      (fresh configs bus) where
  served := rfl
  fits := fits
  tidy := ⟨fun _ _ found => (Option.some_ne_none _ found.symm).elim, fun _ => List.forall_mem_nil _⟩
  active := fun _ => iff_of_false (Finset.notMem_empty _)
    (fun ⟨_, found⟩ => Option.some_ne_none _ found.symm)
  buffered := List.forall_mem_nil _

/-- Of one file, what the buffer lets in is what is reported. -/
theorem admitted_received {numbered : List Numbered}
    (accepted : ∀ raw ∈ received (numbered.map Prod.snd), raw.uri = uri →
      ∀ serial, (debouncing str configs).accepts ⟨serial, raw⟩ = true) :
    (ofKey (debouncing str configs) uri
        (admitted (debouncing str configs) (opsOf numbered))).map Notification.raw =
      (received (numbered.map Prod.snd)).filter (fun raw => raw.uri = uri) := by
  induction numbered with
  | nil => rfl
  | cons first rest ih =>
      obtain ⟨serial, watcherCall⟩ := first
      cases watcherCall with
      | backendEvent raw now =>
          obtain ⟨own, others⟩ := List.forall_mem_cons.mp accepted
          have told : received (((serial, WatcherCall.backendEvent raw now) :: rest).map Prod.snd) =
            [raw] ++ received (rest.map Prod.snd) := rfl
          have admits : admitted (debouncing str configs)
              (opsOf ((serial, .backendEvent raw now) :: rest)) =
                (admitted? (debouncing str configs) (.item ⟨serial, raw⟩ now)).toList ++
                  admitted (debouncing str configs) (opsOf rest) := by
            show List.filterMap _ (.item ⟨serial, raw⟩ now :: opsOf rest) = _
            rw [List.filterMap_cons]
            cases admitted? (debouncing str configs) (.item ⟨serial, raw⟩ now) <;> rfl
          have once : (ofKey (debouncing str configs) uri (admitted? (debouncing str configs)
              (.item ⟨serial, raw⟩ now)).toList).map Notification.raw =
                [raw].filter (fun raw => raw.uri = uri) := by
            by_cases same : raw.uri = uri
            · rw [admitted?, if_pos (own same serial)]
              simp [ofKey, debouncing, same]
            · rw [admitted?]
              split <;> simp [ofKey, debouncing, same]
          rw [told, admits, ofKey_append, List.map_append, once, ih others, List.filter_append]
      | start | stop | flush => exact ih accepted

/-- The notifications that later calls have dispatched. -/
def dispatchedSince (str : StrMethods) (configs : Keyed WatchConfig.watchId)
    (earlier later : List WatcherCall) : List Notification :=
  (dispatched str configs (number (earlier ++ later))).drop
    (dispatched str configs (number earlier)).length

theorem dispatchedSince_eq (str : StrMethods) (configs : Keyed WatchConfig.watchId)
    (earlier later : List WatcherCall) :
    ∃ numbered : List Numbered, numbered.map Prod.snd = later ∧
      dispatchedSince str configs earlier later =
        (run (Debounce.step (debouncing str configs)) (run (Debounce.step (debouncing str configs))
          .empty (opsOf (number earlier))).2 (opsOf numbered)).1.flatten := by
  have split : number (earlier ++ later) =
      number earlier ++ (later.zipIdx earlier.length).map Prod.swap := by
    simp [number, List.zipIdx_append]
  refine ⟨(later.zipIdx earlier.length).map Prod.swap, ?_, ?_⟩
  · rw [List.map_map]
    exact List.zipIdx_map_fst _ _
  · rw [dispatchedSince, split, dispatched, dispatched, releasedBy, releasedBy, opsOf_append,
      run_append_answers, List.flatten_append, List.drop_left]

end View

end PolledWatcher

open PolledWatcher

/-- From a start of an inactive watch to a forced call, the dispatched events lead from the snapshot
of the start to the one of the last poll, for every file that the watch accepts and that no other
watch could report. Where nothing fails in that poll, its snapshot is exact. -/
theorem view_follows_storage {str : StrMethods} {recursive : String → Bool}
    {configs : Keyed WatchConfig.watchId} {allowed : Option EventBus → Prop}
    (quiet : Quiet configs allowed) {bus : Option EventBus} (fits : allowed bus)
    {front middle rest : List PolledCall} {before : PolledWatcher}
    (reached : front.foldlM (next str recursive) (fresh configs bus) = some before)
    {config : WatchConfig} (known : configs.find? config.watchId = some config)
    (enabled : config.enabled = true) (idle : config.watchId ∉ before.watching)
    (steady : ∀ polledCall ∈ middle, ¬ polledCall.Switches config.watchId)
    (apart : ∀ polledCall ∈ rest, polledCall.watch? ≠ some config.watchId)
    {first current : PolledStorage} {clock : Nat → Int} {last : PolledCall} (forced : last.Forced)
    (resolved : ∀ polledCall ∈ front ++ episode config.watchId first middle current clock rest last,
      polledCall.Resolved) :
    let calls := episode config.watchId first middle current clock rest last
    let sent := dispatchedSince str configs (trace str recursive (fresh configs bus) front)
      (trace str recursive before calls)
    let polled : PolledConfig := ⟨config, recursive config.watchId⟩
    ∃ after begun taken, calls.foldlM (next str recursive) before = some after ∧
      snapshot first polled = some (.ok begun) ∧ snapshot current polled = some (.ok taken) ∧
      after.service.bus = deliver configs sent before.service.bus ∧
      (∀ uri, config.acceptsExtension str uri = true →
        (∀ other, Below configs other uri → other = config.watchId) →
        ((sent.map Notification.raw).foldl replay begun).find? uri = taken.find? uri) ∧
      ((∀ uri, current.failure uri = none) →
        ∀ children, current.list config.rootUri = .ok children →
          ∃ top, current.manager.Denotes config.rootUri top ∧
            Exact current.tree polled top taken) := by
  intro calls sent polled
  have early := fun polledCall inside => resolved polledCall (List.mem_append_left _ inside)
  have late := fun polledCall inside => resolved polledCall (List.mem_append_right _ inside)
  obtain ⟨same, ran, _, standing, _, _⟩ := run_leaves quiet (standing_fresh fits) early
    (number_calls (trace str recursive (fresh configs bus) front))
  obtain rfl : same = before := Option.some.inj (ran.symm.trans reached)
  obtain ⟨numbered, numbers, released⟩ := dispatchedSince_eq str configs
    (trace str recursive (fresh configs bus) front) (trace str recursive same calls)
  have since : sent = _ := released
  obtain ⟨after, ended, turns, _, delivered, emptied⟩ := run_leaves quiet standing late numbers
  have heard := turns.reported standing.tidy
  obtain ⟨begun, taken, walked, walked', followed⟩ :=
    turns.episode standing.tidy known steady apart forced
  refine ⟨after, begun, taken, ended, walked, walked', since ▸ delivered, ?_, ?_⟩
  · intro uri accepts own
    have ending : calls.getLast? = some last := by
      rw [show calls = (.start config.watchId first ::
        (middle ++ .poll config.watchId current clock :: rest)) ++ [last] from rfl]
      exact List.getLast?_concat
    have settled : (ofKey (debouncing str configs) uri sent).getLast? =
        (ofKey (debouncing str configs) uri
          (admitted (debouncing str configs) (opsOf numbered))).getLast? :=
      since ▸ last_released (standing.none_waiting idle own)
        (emptied last ending forced)
    have accepted : ∀ raw ∈ received (numbered.map Prod.snd), raw.uri = uri →
        ∀ serial, (debouncing str configs).accepts ⟨serial, raw⟩ = true := by
      intro raw inside same serial
      have below := heard raw (numbers ▸ inside)
      rw [same] at below
      refine (accepts_iff _).mpr ⟨config, ?_, enabled, ?_⟩
      · show configs.find? raw.watchId = some config
        rw [own _ below]
        exact known
      · show config.acceptsExtension str raw.uri = true
        rw [same]
        exact accepts
    have single : (sent.map Notification.raw).filter (fun raw => raw.uri = uri) =
        (ofKey (debouncing str configs) uri sent).map Notification.raw := List.filter_map
    rw [← followed uri own, find?_foldl_replay, find?_foldl_replay, single, List.getLast?_map,
      settled, ← List.getLast?_map, admitted_received accepted, numbers]
  · intro undisturbed children answered
    have sound : current.Resolved := late (.poll config.watchId current clock) (by simp [episode])
    obtain ⟨top, found, denoted, again, exact⟩ :=
      @snapshot_exact current polled sound undisturbed children answered
    cases (Option.some.inj (again.symm.trans walked'))
    exact ⟨top, denoted, exact⟩

/-- A storage with nothing in it. -/
def vacantTree : StoredTree where
  node path := if path = [] then some .dir else none
  rooted := rfl
  nested path name present := by simp at present
  paths := [[]]
  listed path present := by
    by_contra absent
    simp at absent
    simp [absent] at present
  legal path name present := by simp at present

/-- The inbox is watched before its file comes, and polled after. -/
theorem view_follows_storage_inbox :
    let calls := episode "w" { undisturbed with tree := vacantTree } [] undisturbed (fun _ => 0) []
      (.flush 1)
    let inbox := Keyed.empty.put everything.toWatchConfig
    let sent := dispatchedSince plainStr inbox [] (trace plainStr (fun _ => true)
      (fresh inbox none) calls)
    ∃ begun taken, snapshot { undisturbed with tree := vacantTree } everything = some (.ok begun) ∧
      snapshot undisturbed everything = some (.ok taken) ∧
      ((sent.map Notification.raw).foldl replay begun).find? "storage://ws/in/a" =
        taken.find? "storage://ws/in/a" := by
  intro calls inbox sent
  have own : ∀ other, Below inbox other "storage://ws/in/a" → other = "w" := by
    rintro other ⟨config, _, found, _⟩
    obtain rfl := List.mem_singleton.mp (Keyed.mem_of_find? found)
    exact (Keyed.key_of_find? found).symm
  have resolved : ∀ polledCall ∈ [] ++ calls, polledCall.Resolved := by
    intro polledCall inside
    have normal : undisturbed.Resolved := HostPath.normal_nil.locate _
    rcases List.mem_cons.mp inside with rfl | inside
    · exact normal
    · rcases List.mem_cons.mp inside with rfl | inside
      · exact normal
      · obtain rfl := List.mem_singleton.mp inside
        trivial
  obtain ⟨_, begun, taken, _, walked, walked', _, followed, _⟩ :=
    @view_follows_storage plainStr (fun _ => true) inbox _ (quiet_without_bus inbox) none rfl
      [] [] [] _ rfl everything.toWatchConfig rfl rfl (Finset.notMem_empty _)
      (List.forall_mem_nil _) (List.forall_mem_nil _) _ _ _ (.flush 1) trivial resolved
  exact ⟨begun, taken, walked, walked', followed "storage://ws/in/a" rfl own⟩

end LexMind.Watcher
