import LexMind.Events.EventBus
import LexMind.Ocr.CacheBookkeeping
import LexMind.Storage.Filesystem

set_option autoImplicit false

/- The cache service: content-addressed keys, the in-memory backend and the events, against a
memory of what was put last. -/
namespace LexMind.Ocr

open Lib Lib.Nested Events Storage

/-- `hashlib.new(algorithm)`, fed the data: its digest, or what an unknown name raises. -/
abbrev Hexdigest := (algorithm : String) → Bytes → Except PyExc String

def CacheKey.fromBytes (hexdigest : Hexdigest) (data : Bytes) (algorithm : String) :
    Except PyExc CacheKey :=
  if data = [] then .error (.valueError "data must not be empty")
  else
    match hexdigest algorithm data with
    | .error exc => .error exc
    | .ok digest =>
        if hasAlgorithm : algorithm = "" then
          .error (.valueError "algorithm must not be empty")
        else if hasDigest : digest = "" then .error (.valueError "digest must not be empty")
        else .ok ⟨algorithm, digest, hasAlgorithm, hasDigest⟩

/-- The service with the options of its in-memory backend. -/
structure OcrCacheService where
  options : OcrCacheOptions
  defaultAlgorithm : String
  hexdigest : Hexdigest

namespace OcrCacheService

variable (service : OcrCacheService) (now : Timestamp) (data : Bytes)

def keyFromData : Except PyExc CacheKey :=
  CacheKey.fromBytes service.hexdigest data service.defaultAlgorithm

def get : Py (Wired InMemoryOcrCacheBackend) (Option CachedOcrResult) := do
  let key ← check (service.keyFromData data)
  match ← onService (modifyGet (fun backend => backend.get service.options now key)) with
  | some result =>
      emit (domainEvent "OcrCacheHit" key.digest [])
      return some result
  | none =>
      emit (domainEvent "OcrCacheMiss" key.digest [])
      return none

/-- The result is created now; its confidence is checked before anything is stored. -/
def put (text : String) (confidence : Rat) (metadata : Option (Entries String JsonScalar)) :
    Py (Wired InMemoryOcrCacheBackend) CachedOcrResult := do
  let key ← check (service.keyFromData data)
  let result ← check (CachedOcrResult.create key text confidence now (metadata.getD .nil))
  onService (modify (fun backend => backend.put service.options key result))
  emit (domainEvent "OcrCacheStored" key.digest [])
  return result

def has : Py (Wired InMemoryOcrCacheBackend) Bool := do
  let key ← check (service.keyFromData data)
  onService (modifyGet (fun backend => backend.has service.options now key))

def invalidate : Py (Wired InMemoryOcrCacheBackend) Bool := do
  let key ← check (service.keyFromData data)
  onService (modifyGet (fun backend => backend.invalidate key))

def clear : Py (Wired InMemoryOcrCacheBackend) Unit :=
  onService (modify (fun _ => InMemoryOcrCacheBackend.clear))

end OcrCacheService

/-- A call of the service. -/
inductive CacheUse
  | get (data : Bytes)
  | put (data : Bytes) (text : String) (confidence : Rat)
      (metadata : Option (Entries String JsonScalar))
  | has (data : Bytes)
  | invalidate (data : Bytes)
  | clear

def CacheUse.program (service : OcrCacheService) (now : Timestamp) :
    CacheUse → Py (Wired InMemoryOcrCacheBackend) CacheAnswer
  | get data => .found <$> service.get now data
  | put data text confidence metadata =>
      (.found ∘ some) <$> service.put now data text confidence metadata
  | has data => .holds <$> service.has now data
  | invalidate data => .holds <$> service.invalidate data
  | clear => (fun _ => .unit) <$> OcrCacheService.clear

def cacheUseStep (service : OcrCacheService) (wired : Wired InMemoryOcrCacheBackend)
    (timed : Timestamp × CacheUse) : Except PyExc CacheAnswer × Wired InMemoryOcrCacheBackend :=
  call (timed.2.program service timed.1) wired

/-- What was put last for each digest and neither invalidated nor cleared since. -/
abbrev CacheMemory := String → Option CachedOcrResult

/-- The memory after a call: a put is remembered whether or not its event can be published. -/
def OcrCacheService.remember (service : OcrCacheService) (memory : CacheMemory)
    (timed : Timestamp × CacheUse) : CacheMemory :=
  match timed.2 with
  | .put data text confidence metadata =>
      match service.keyFromData data with
      | .error _ => memory
      | .ok key =>
          match CachedOcrResult.create key text confidence timed.1 (metadata.getD .nil) with
          | .ok result => Function.update memory key.digest (some result)
          | .error _ => memory
  | .invalidate data =>
      match service.keyFromData data with
      | .ok key => Function.update memory key.digest none
      | .error _ => memory
  | .clear => fun _ => none
  | .get _ | .has _ => memory

section Calls

@[simp] theorem call_modifyGet {ε σ α : Type} (change : σ → α × σ) (state : σ) :
    call (modifyGet change : EStateM ε σ α) state = (.ok (change state).1, (change state).2) := rfl

/-- Publishing leaves the service, and returns where there is no bus. -/
theorem emit_frame {σ : Type} (event : EventObject) (wired : Wired σ) :
    (call (emit event) wired).2.service = wired.service ∧
      (wired.bus = none → call (emit event) wired = (.ok (), wired)) := by
  obtain ⟨service, bus⟩ := wired
  cases bus with
  | none => exact ⟨by rw [emit_without_bus], fun _ => emit_without_bus event service⟩
  | some bus => exact ⟨by rw [emit_with_bus], fun unwired => by cases unwired⟩

/-- What is announced and then returned: the service stays, and nothing else is returned. -/
theorem announced_frame {σ α : Type} (event : EventObject) (value : α) (wired : Wired σ) :
    let ended := call (do emit event; return value) wired
    ended.2.service = wired.service ∧ (∀ answer, ended.1 = .ok answer → answer = value) ∧
      (wired.bus = none → ended = (.ok value, wired)) := by
  obtain ⟨stays, quiet⟩ := emit_frame event wired
  intro ended
  have split : ended = andThen (call (emit event) wired) (fun _ => pure value) := call_bind _ _ _
  rcases told : call (emit event) wired with ⟨reason | _, after⟩
  · rw [told] at stays split quiet
    rw [andThen_error] at split
    refine ⟨by rw [split, stays], fun answer returned => ?_, fun unwired => ?_⟩
    · rw [split] at returned
      cases returned
    · cases quiet unwired
  · rw [told] at stays split quiet
    rw [andThen_ok, call_pure] at split
    refine ⟨by rw [split, stays], fun answer returned => ?_, fun unwired => ?_⟩
    · rw [split] at returned
      exact (Except.ok.inj returned).symm
    · rw [split, (Prod.mk.inj (quiet unwired)).2]

variable (service : OcrCacheService) (now : Timestamp) {data : Bytes} {key : CacheKey}
  (keyed : service.keyFromData data = .ok key) (wired : Wired InMemoryOcrCacheBackend)

include keyed

/-- A get asks the backend under the key of the data; without a bus it answers as the backend. -/
theorem call_get_spec :
    (call (service.get now data) wired).2.service =
        (wired.service.get service.options now key).2 ∧
      (∀ answer, (call (service.get now data) wired).1 = .ok answer →
        answer = (wired.service.get service.options now key).1) ∧
      (wired.bus = none → (call (service.get now data) wired).1 =
        .ok (wired.service.get service.options now key).1) := by
  obtain ⟨backend, bus⟩ := wired
  unfold OcrCacheService.get
  rw [keyed]
  simp only [call_bind, call_check, andThen_ok, call_onService, call_modifyGet]
  cases (backend.get service.options now key).1 with
  | none =>
      obtain ⟨stays, only, quiet⟩ := announced_frame
        (domainEvent "OcrCacheMiss" key.digest []) (none : Option CachedOcrResult)
        ⟨(backend.get service.options now key).2, bus⟩
      exact ⟨stays, only, fun unwired => congrArg Prod.fst (quiet unwired)⟩
  | some result =>
      obtain ⟨stays, only, quiet⟩ := announced_frame
        (domainEvent "OcrCacheHit" key.digest []) (some result)
        ⟨(backend.get service.options now key).2, bus⟩
      exact ⟨stays, only, fun unwired => congrArg Prod.fst (quiet unwired)⟩

theorem call_put_spec (text : String) (confidence : Rat)
    (metadata : Option (Entries String JsonScalar)) :
    (call (service.put now data text confidence metadata) wired).2.service =
      match CachedOcrResult.create key text confidence now (metadata.getD .nil) with
      | .error _ => wired.service
      | .ok result => wired.service.put service.options key result := by
  obtain ⟨backend, bus⟩ := wired
  unfold OcrCacheService.put
  rw [keyed]
  simp only [call_bind, call_check, andThen_ok]
  cases CachedOcrResult.create key text confidence now (metadata.getD .nil) with
  | error exc => rfl
  | ok result =>
      rw [andThen_ok, call_bind, call_onService, call_modify, andThen_ok]
      exact (announced_frame (domainEvent "OcrCacheStored" key.digest []) result ⟨_, bus⟩).1

theorem call_has_spec : call (service.has now data) wired =
    (.ok (wired.service.has service.options now key).1,
      { wired with service := (wired.service.has service.options now key).2 }) := by
  obtain ⟨backend, bus⟩ := wired
  simp [OcrCacheService.has, keyed]

theorem call_invalidate_spec : call (service.invalidate data) wired =
    (.ok (wired.service.invalidate key).1,
      { wired with service := (wired.service.invalidate key).2 }) := by
  obtain ⟨backend, bus⟩ := wired
  simp [OcrCacheService.invalidate, keyed]

end Calls

section Memory

open InMemoryOcrCacheBackend

/-- The backend holds nothing but what is remembered, under its own key. -/
structure Recalls (service : OcrCacheService) (memory : CacheMemory)
    (backend : InMemoryOcrCacheBackend) : Prop where
  held : ∀ row ∈ backend.store.rows, memory row.digest = some row.result
  own : ∀ digest result, memory digest = some result →
    result.key.digest = digest ∧ result.key.algorithm = service.defaultAlgorithm

/-- Nothing expires and nothing is evicted. -/
def Unlimited (options : OcrCacheOptions) : Prop :=
  options.ttlSeconds = none ∧ options.maxEntries = none

/-- The backend holds all that is remembered. -/
def Complete (memory : CacheMemory) (backend : InMemoryOcrCacheBackend) : Prop :=
  ∀ digest result, memory digest = some result →
    backend.store.find? digest = some ⟨digest, result⟩

variable {service : OcrCacheService} {memory : CacheMemory} {backend : InMemoryOcrCacheBackend}
  {now : Timestamp} {key : CacheKey}

theorem live_of_unlimited (unlimited : Unlimited service.options) (result : CachedOcrResult) :
    service.options.isExpired now result = false := by
  rw [OcrCacheOptions.isExpired, unlimited.1]

/-- A get and a has leave the same entries. -/
theorem has_store : (backend.has service.options now key).2.store =
    (backend.get service.options now key).2.store := by
  unfold InMemoryOcrCacheBackend.has InMemoryOcrCacheBackend.get
  cases backend.store.find? key.digest with
  | none => rfl
  | some stored => cases expired : service.options.isExpired now stored.result <;> simp [expired]

/-- A get takes out at most the entry it looks for, and none where nothing expires. -/
theorem get_store : (backend.get service.options now key).2.store = backend.store ∨
    ¬ Unlimited service.options ∧
      (backend.get service.options now key).2.store = backend.store.erase key.digest := by
  unfold InMemoryOcrCacheBackend.get
  cases backend.store.find? key.digest with
  | none => exact .inl rfl
  | some stored =>
      cases expired : service.options.isExpired now stored.result with
      | false => exact .inl (by simp [expired])
      | true =>
          refine .inr ⟨fun unlimited => ?_, by simp [expired]⟩
          rw [live_of_unlimited unlimited] at expired
          cases expired

theorem Recalls.of_subset (recalls : Recalls service memory backend)
    {after : InMemoryOcrCacheBackend}
    (fewer : ∀ row ∈ after.store.rows, row ∈ backend.store.rows) :
    Recalls service memory after :=
  ⟨fun row inside => recalls.held row (fewer row inside), recalls.own⟩

/-- A lookup keeps what is held, and where nothing expires all of it. -/
theorem Recalls.lookup (recalls : Recalls service memory backend) {after : InMemoryOcrCacheBackend}
    (same : after.store = (backend.get service.options now key).2.store) :
    Recalls service memory after ∧
      (Unlimited service.options → Complete memory backend → Complete memory after) := by
  rcases @get_store service backend now key with kept | ⟨limited, erased⟩
  · have equal : after.store = backend.store := same.trans kept
    refine ⟨recalls.of_subset fun row inside => equal ▸ inside, fun _ complete => ?_⟩
    intro digest result remembered
    rw [equal]
    exact complete digest result remembered
  · have equal : after.store = backend.store.erase key.digest := same.trans erased
    refine ⟨recalls.of_subset fun row inside => ?_, fun unlimited => absurd unlimited limited⟩
    rw [equal] at inside
    exact ((Keyed.mem_erase _ _ _).mp inside).1

/-- A put replaces what is remembered for its digest, whatever it takes out to make room. -/
theorem Recalls.put (recalls : Recalls service memory backend) {result : CachedOcrResult}
    (own : result.key = key) (algorithm : key.algorithm = service.defaultAlgorithm) :
    Recalls service (Function.update memory key.digest (some result))
        (backend.put service.options key result) ∧
      (Unlimited service.options → Complete memory backend →
        Complete (Function.update memory key.digest (some result))
          (backend.put service.options key result)) := by
  refine ⟨⟨fun row inside => ?_, fun digest other remembered => ?_⟩, fun unlimited complete => ?_⟩
  · rcases (Keyed.mem_put _ _ _).mp inside with rfl | ⟨old, apart⟩
    · exact Function.update_self _ _ _
    · have before : row ∈ backend.store.rows := by
        unfold evicted at old
        split at old
        · exact old
        · exact (Keyed.shrink_sublist _ _).subset old
      rw [Function.update_of_ne apart]
      exact recalls.held row before
  · by_cases same : digest = key.digest
    · rw [same, Function.update_self] at remembered
      rw [← Option.some.inj remembered, own]
      exact ⟨same.symm, algorithm⟩
    · rw [Function.update_of_ne same] at remembered
      exact recalls.own digest other remembered
  · intro digest other remembered
    have roomy : evicted service.options backend.store = backend.store := by
      rw [evicted, unlimited.2]
    show ((evicted service.options backend.store).put ⟨key.digest, result⟩).find? digest = _
    rw [roomy, Keyed.find?_put]
    by_cases same : key.digest = digest
    · rw [← same, Function.update_self] at remembered
      rw [if_pos same, ← same, Option.some.inj remembered]
    · rw [Function.update_of_ne (Ne.symm same)] at remembered
      rw [if_neg same]
      exact complete digest other remembered

theorem Recalls.invalidate (recalls : Recalls service memory backend) :
    Recalls service (Function.update memory key.digest none) (backend.invalidate key).2 ∧
      (Complete memory backend →
        Complete (Function.update memory key.digest none) (backend.invalidate key).2) := by
  have erased : (backend.invalidate key).2.store = backend.store.erase key.digest := by
    unfold InMemoryOcrCacheBackend.invalidate
    split
    · rfl
    · rename_i absent
      apply Keyed.ext_rows
      refine (List.filter_eq_self.mpr fun row inside => ?_).symm
      rw [Keyed.contains_eq_true_iff] at absent
      rw [decide_eq_true_iff]
      exact fun same => absent ⟨row, same ▸ backend.store.find?_of_mem inside⟩
  refine ⟨⟨fun row inside => ?_, fun digest other remembered => ?_⟩, fun complete => ?_⟩
  · rw [erased] at inside
    obtain ⟨old, apart⟩ := (Keyed.mem_erase _ _ _).mp inside
    rw [Function.update_of_ne apart]
    exact recalls.held row old
  · by_cases same : digest = key.digest
    · rw [same, Function.update_self] at remembered
      cases remembered
    · rw [Function.update_of_ne same] at remembered
      exact recalls.own digest other remembered
  · intro digest other remembered
    rw [erased, Keyed.find?_erase]
    by_cases same : digest = key.digest
    · rw [same, Function.update_self] at remembered
      cases remembered
    · rw [Function.update_of_ne same] at remembered
      rw [if_neg same]
      exact complete digest other remembered

end Memory

section Runs

variable {service : OcrCacheService} {memory : CacheMemory}
  {wired : Wired InMemoryOcrCacheBackend}

theorem algorithm_of_key {data : Bytes} {key : CacheKey}
    (keyed : service.keyFromData data = .ok key) : key.algorithm = service.defaultAlgorithm := by
  unfold OcrCacheService.keyFromData CacheKey.fromBytes at keyed
  split at keyed
  · cases keyed
  · split at keyed
    · cases keyed
    · split at keyed
      · cases keyed
      · split at keyed
        · cases keyed
        · cases keyed
          rfl

theorem key_of_create {key : CacheKey} {text : String} {confidence : Rat} {now : Timestamp}
    {metadata : Entries String JsonScalar} {result : CachedOcrResult}
    (made : CachedOcrResult.create key text confidence now metadata = .ok result) :
    result.key = key := by
  unfold CachedOcrResult.create at made
  split at made
  · cases made
    rfl
  · cases made

/-- A call without a key leaves the backend. -/
theorem unkeyed_frame {α : Type} {data : Bytes} {exc : PyExc}
    (unkeyed : service.keyFromData data = .error exc)
    (next : CacheKey → Py (Wired InMemoryOcrCacheBackend) α) :
    call (check (service.keyFromData data) >>= next) wired = (.error exc, wired) := by
  rw [unkeyed, call_bind, call_check, andThen_error]

theorem recalls_step (recalls : Recalls service memory wired.service)
    (timed : Timestamp × CacheUse) :
    Recalls service (service.remember memory timed) (cacheUseStep service wired timed).2.service ∧
      (Unlimited service.options → Complete memory wired.service →
        Complete (service.remember memory timed)
          (cacheUseStep service wired timed).2.service) := by
  obtain ⟨now, use⟩ := timed
  rw [cacheUseStep]
  cases use with
  | get data =>
      rw [CacheUse.program, call_map]
      cases keyed : service.keyFromData data with
      | error exc =>
          rw [OcrCacheService.get, unkeyed_frame keyed]
          exact ⟨recalls, fun _ complete => complete⟩
      | ok key => exact recalls.lookup (congrArg _ (call_get_spec service now keyed wired).1)
  | put data text confidence metadata =>
      rw [CacheUse.program, call_map, OcrCacheService.remember]
      dsimp only
      cases keyed : service.keyFromData data with
      | error exc =>
          rw [OcrCacheService.put, unkeyed_frame keyed]
          exact ⟨recalls, fun _ complete => complete⟩
      | ok key =>
          dsimp only
          rw [call_put_spec service now keyed wired]
          cases made : CachedOcrResult.create key text confidence now (metadata.getD .nil) with
          | error exc => exact ⟨recalls, fun _ complete => complete⟩
          | ok result => exact recalls.put (key_of_create made) (algorithm_of_key keyed)
  | has data =>
      rw [CacheUse.program, call_map]
      cases keyed : service.keyFromData data with
      | error exc =>
          rw [OcrCacheService.has, unkeyed_frame keyed]
          exact ⟨recalls, fun _ complete => complete⟩
      | ok key =>
          rw [call_has_spec service now keyed wired]
          exact recalls.lookup has_store
  | invalidate data =>
      rw [CacheUse.program, call_map, OcrCacheService.remember]
      dsimp only
      cases keyed : service.keyFromData data with
      | error exc =>
          rw [OcrCacheService.invalidate, unkeyed_frame keyed]
          exact ⟨recalls, fun _ complete => complete⟩
      | ok key =>
          rw [call_invalidate_spec service keyed wired]
          exact ⟨recalls.invalidate.1, fun _ => recalls.invalidate.2⟩
  | clear =>
      obtain ⟨backend, bus⟩ := wired
      rw [CacheUse.program, call_map, OcrCacheService.clear, call_onService, call_modify]
      refine ⟨⟨List.forall_mem_nil _, ?_⟩, fun _ _ => ?_⟩
      · rintro digest result ⟨⟩
      · rintro digest result ⟨⟩

/-- The memory of a run. -/
def OcrCacheService.remembered (service : OcrCacheService)
    (calls : List (Timestamp × CacheUse)) : CacheMemory :=
  calls.foldl service.remember (fun _ => none)

theorem recalls_run (service : OcrCacheService) (bus : Option EventBus)
    (calls : List (Timestamp × CacheUse)) :
    let backend := (run (cacheUseStep service) ⟨.create, bus⟩ calls).2.service
    Recalls service (service.remembered calls) backend ∧
      (Unlimited service.options → Complete (service.remembered calls) backend) := by
  induction calls using List.reverseRecOn with
  | nil =>
      refine ⟨⟨List.forall_mem_nil _, ?_⟩, fun _ => ?_⟩
      · rintro digest result ⟨⟩
      · rintro digest result ⟨⟩
  | append_singleton calls timed ih =>
      obtain ⟨recalls, complete⟩ := ih
      obtain ⟨recalls, completes⟩ := recalls_step recalls timed
      rw [run_append_state, OcrCacheService.remembered, List.foldl_append]
      exact ⟨recalls, fun unlimited => completes unlimited (complete unlimited)⟩

/-- What the backend finds for the data is remembered, under its own key. -/
theorem Recalls.found (recalls : Recalls service memory wired.service) {data : Bytes}
    {key : CacheKey} (keyed : service.keyFromData data = .ok key) {row : StoredResult}
    (found : wired.service.store.find? key.digest = some row) :
    row.result.key = key ∧ memory key.digest = some row.result := by
  have remembered := recalls.held row (Keyed.mem_of_find? found)
  rw [Keyed.key_of_find? found] at remembered
  obtain ⟨digest, algorithm⟩ := recalls.own _ _ remembered
  exact ⟨CacheKey.ext (algorithm.trans (algorithm_of_key keyed).symm) digest, remembered⟩

/-- A backend that holds all that is remembered finds exactly that. -/
theorem Recalls.mirrored {backend : InMemoryOcrCacheBackend}
    (recalls : Recalls service memory backend) (complete : Complete memory backend)
    (digest : String) : backend.store.find? digest = (memory digest).map (⟨digest, ·⟩) := by
  cases remembered : memory digest with
  | some result => exact complete digest result remembered
  | none =>
      cases found : backend.store.find? digest with
      | none => rfl
      | some row =>
          have held := recalls.held row (Keyed.mem_of_find? found)
          rw [Keyed.key_of_find? found, remembered] at held
          cases held

/-- Where nothing expires, it answers with what is remembered. -/
theorem Recalls.answers {backend : InMemoryOcrCacheBackend}
    (recalls : Recalls service memory backend) (complete : Complete memory backend)
    (unlimited : Unlimited service.options) (now : Timestamp) (key : CacheKey) :
    (backend.get service.options now key).1 = memory key.digest ∧
      (backend.has service.options now key).1 = (memory key.digest).isSome ∧
      (backend.invalidate key).1 = (memory key.digest).isSome := by
  have mirrored := recalls.mirrored complete key.digest
  unfold InMemoryOcrCacheBackend.get InMemoryOcrCacheBackend.has
    InMemoryOcrCacheBackend.invalidate Keyed.contains
  rw [mirrored]
  cases memory key.digest with
  | none => exact ⟨rfl, rfl, rfl⟩
  | some result => simp [live_of_unlimited unlimited result]

abbrev Unwired (wired : Wired InMemoryOcrCacheBackend) : Prop := wired.bus = none

theorem onService_unwired {α : Type} (program : Py InMemoryOcrCacheBackend α) :
    Ensures Unwired (fun _ => True) (onService program) := by
  intro wired unwired
  rw [onService, call_onPart]
  exact ⟨fun _ _ => trivial, unwired⟩

theorem emit_unwired (event : EventObject) :
    Ensures Unwired (fun _ => True) (emit event : Py (Wired InMemoryOcrCacheBackend) Unit) := by
  intro wired unwired
  rw [(emit_frame event wired).2 unwired]
  exact ⟨fun _ _ => trivial, unwired⟩

/-- Without a bus, a call ends without one. -/
theorem use_unwired (service : OcrCacheService) (now : Timestamp) (use : CacheUse) :
    Ensures Unwired (fun _ => True) (use.program service now) := by
  have keyed {α : Type} {data : Bytes} {next : CacheKey → Py (Wired InMemoryOcrCacheBackend) α}
      (later : ∀ key, Ensures Unwired (fun _ => True) (next key)) :
      Ensures Unwired (fun _ => True) (check (service.keyFromData data) >>= next) :=
    Ensures.bind (.check fun _ _ => trivial) fun key _ => later key
  cases use with
  | get data =>
      refine .map (keyed fun key => (onService_unwired _).bind fun found _ => ?_)
      cases found with
      | none => exact (emit_unwired _).bind fun _ _ => .pure trivial
      | some result => exact (emit_unwired _).bind fun _ _ => .pure trivial
  | put data text confidence metadata =>
      refine .map (keyed fun key => Ensures.bind (.check fun _ _ => trivial) fun _ _ => ?_)
      exact (onService_unwired _).bind fun _ _ => (emit_unwired _).bind fun _ _ => .pure trivial
  | has data => exact .map (keyed fun key => onService_unwired _)
  | invalidate data => exact .map (keyed fun key => onService_unwired _)
  | clear => exact .map (onService_unwired _)

theorem run_unwired (service : OcrCacheService) (calls : List (Timestamp × CacheUse)) :
    (run (cacheUseStep service) ⟨.create, none⟩ calls).2.bus = none :=
  @run_invariant _ _ _ (cacheUseStep service) Unwired
    (fun wired timed unwired => (use_unwired service timed.1 timed.2 wired unwired).2)
    ⟨.create, none⟩ rfl calls

end Runs

/-- Whatever was called before, at any times and with any options, and with or without a bus: what a
get returns is the result put last for the digest of the data, under its own key, not invalidated
or cleared since and not expired, and `has` finds nothing else. Where nothing expires or is
evicted, and there is no bus, `get`, `has` and `invalidate` answer exactly so. -/
theorem cache_sound (service : OcrCacheService) (bus : Option EventBus)
    (calls : List (Timestamp × CacheUse)) (now : Timestamp) (data : Bytes) :
    let wired := (run (cacheUseStep service) ⟨.create, bus⟩ calls).2
    let memory := service.remembered calls
    (∀ result, (call (service.get now data) wired).1 = .ok (some result) →
      service.keyFromData data = .ok result.key ∧ memory result.key.digest = some result ∧
        service.options.isExpired now result = false) ∧
    ((call (service.has now data) wired).1 = .ok true →
      ∃ result, service.keyFromData data = .ok result.key ∧
        memory result.key.digest = some result ∧
          service.options.isExpired now result = false) ∧
    (Unlimited service.options → bus = none → ∀ key, service.keyFromData data = .ok key →
      (call (service.get now data) wired).1 = .ok (memory key.digest) ∧
      (call (service.has now data) wired).1 = .ok (memory key.digest).isSome ∧
      (call (service.invalidate data) wired).1 = .ok (memory key.digest).isSome) := by
  intro wired memory
  obtain ⟨recalls, complete⟩ := recalls_run service bus calls
  cases keyed : service.keyFromData data with
  | error exc =>
      refine ⟨fun result returned => ?_, fun returned => ?_, nofun⟩
      · rw [OcrCacheService.get, unkeyed_frame keyed] at returned
        cases returned
      · rw [OcrCacheService.has, unkeyed_frame keyed] at returned
        cases returned
  | ok key =>
      have looked := call_get_spec service now keyed wired
      have asked := call_has_spec service now keyed wired
      have taken := call_invalidate_spec service keyed wired
      refine ⟨fun result returned => ?_, fun returned => ?_, fun unlimited unwired other same => ?_⟩
      · rcases InMemoryOcrCacheBackend.get_cases service.options wired.service now key with
          ⟨row, found, alive, answer⟩ | ⟨-, store, -, answer⟩
        · have same := looked.2.1 _ returned
          rw [answer] at same
          cases same
          obtain ⟨own, remembered⟩ := recalls.found keyed found
          rw [own]
          refine ⟨rfl, remembered, ?_⟩
          simpa [OcrCacheOptions.live] using alive
        · have same := looked.2.1 _ returned
          rw [answer] at same
          cases same
      · rw [asked] at returned
        unfold InMemoryOcrCacheBackend.has at returned
        cases found : wired.service.store.find? key.digest with
        | none =>
            rw [found] at returned
            cases returned
        | some row =>
            rw [found] at returned
            obtain ⟨own, remembered⟩ := recalls.found keyed found
            refine ⟨row.result, by rw [own], by rw [own]; exact remembered, ?_⟩
            cases expired : service.options.isExpired now row.result with
            | false => rfl
            | true => simp [expired] at returned
      · cases same
        subst unwired
        have quiet : wired.bus = none := run_unwired service calls
        obtain ⟨found, present, removed⟩ := recalls.answers (complete unlimited) unlimited now key
        rw [looked.2.2 quiet, asked, taken]
        exact ⟨congrArg Except.ok found, congrArg Except.ok present, congrArg Except.ok removed⟩

end LexMind.Ocr
