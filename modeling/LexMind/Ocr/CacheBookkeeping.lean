import LexMind.Lib.Transcript
import LexMind.Ocr.CacheRefinement

set_option autoImplicit false

/- The counters and bounds of the in-memory cache. -/
namespace LexMind.Ocr

open Lib

structure CacheStats where
  hits : Nat
  misses : Nat
  size : Nat
deriving DecidableEq

namespace InMemoryOcrCacheBackend

/-- The age of an entry that `stats` counts; the comparison is its own. -/
def counts (options : OcrCacheOptions) (now : Timestamp) (result : CachedOcrResult) : Bool :=
  match options.ttlSeconds with
  | none => true
  | some ttl => (now : Int) - result.createdAt ≤ (ttl * 1000000 : Int)

def stats (options : OcrCacheOptions) (backend : InMemoryOcrCacheBackend) (now : Timestamp) :
    CacheStats where
  hits := backend.hits
  misses := backend.misses
  size := (backend.store.rows.filter (fun row => counts options now row.result)).length

/-- `popitem(last=False)`. -/
def popitem (store : Store) : Except PyExc Store :=
  match store.rows with
  | [] => .error (.keyError "dictionary is empty")
  | _ :: _ => .ok store.popFirst

/-- The turns of the eviction loop, as far as they are followed. -/
def evictLoop (limit : Nat) : Nat → Store → Except PyExc (Option Store)
  | 0, _ => .ok none
  | turns + 1, store =>
      if store.rows.length ≥ limit then do
        let rest ← popitem store
        evictLoop limit turns rest
      else .ok (some store)

end InMemoryOcrCacheBackend

/-- The calls of the refinement, and `stats`. -/
inductive CacheOperation
  | call (made : CacheCall)
  | stats

inductive OperationAnswer
  | call (answer : CacheAnswer)
  | stats (stats : CacheStats)
deriving DecidableEq

def operationStep (options : OcrCacheOptions) (backend : InMemoryOcrCacheBackend)
    (timed : Timestamp × CacheOperation) : OperationAnswer × InMemoryOcrCacheBackend :=
  match timed.2 with
  | .call made => (cacheStep options backend (timed.1, made)).map .call id
  | .stats => (.stats (backend.stats options timed.1), backend)

/-- An operation with its answer. -/
abbrev OperationEntry := (Timestamp × CacheOperation) × OperationAnswer

def isClear (entry : OperationEntry) : Bool :=
  match entry.1.2 with
  | .call .clear => true
  | _ => false

def isGet (entry : OperationEntry) : Bool :=
  match entry.1.2 with
  | .call (.get _) => true
  | _ => false

/-- A get that returned a value. -/
def isHit (entry : OperationEntry) : Bool :=
  match entry.1.2, entry.2 with
  | .call (.get _), .call (.found (some _)) => true
  | _, _ => false

/-- What came after the last clear. -/
def sinceClear (entries : List OperationEntry) : List OperationEntry :=
  entries.foldl (fun since entry => if isClear entry then [] else since ++ [entry]) []

theorem sinceClear_append_singleton (entries : List OperationEntry) (entry : OperationEntry) :
    sinceClear (entries ++ [entry]) = if isClear entry then [] else sinceClear entries ++ [entry] :=
  List.foldl_append

namespace InMemoryOcrCacheBackend

variable {options : OcrCacheOptions}

/-- The two comparisons of the age complement each other. -/
theorem counts_eq_live (now : Timestamp) (result : CachedOcrResult) :
    counts options now result = options.live now result := by
  unfold counts OcrCacheOptions.live OcrCacheOptions.isExpired
  cases options.ttlSeconds with
  | none => rfl
  | some ttl =>
      dsimp only
      rw [← decide_not]
      exact decide_eq_decide.mpr Int.not_lt.symm

/-- With more turns than entries, the loop ends, and every pop finds an entry. -/
theorem evictLoop_returns {limit : Nat} (positive : 0 < limit) {turns : Nat} (store : Store)
    (enough : store.rows.length < turns) :
    evictLoop limit turns store = .ok (some (store.makeRoom limit)) := by
  induction turns generalizing store with
  | zero => cases enough
  | succ turns ih =>
      rw [evictLoop]
      split
      · rename_i full
        cases split : store.rows with
        | nil =>
            rw [split] at full
            exact absurd full (Nat.not_le.mpr positive)
        | cons row rest =>
            have popped : popitem store = .ok store.popFirst := by rw [popitem, split]
            have shorter : store.popFirst.rows.length < turns := by
              rw [Keyed.rows_popFirst, split, List.tail_cons]
              rw [split, List.length_cons] at enough
              omega
            rw [popped]
            refine (ih store.popFirst shorter).trans ?_
            have same : store.popFirst.makeRoom limit = store.makeRoom limit := by
              apply Keyed.ext_rows
              rw [split] at full
              rw [Keyed.rows_makeRoom, Keyed.rows_makeRoom, Keyed.rows_popFirst, split,
                Keyed.shrink, if_pos full, List.tail_cons]
            rw [same]
      · rename_i room
        have same : store.makeRoom limit = store :=
          Keyed.ext_rows (Keyed.shrink_eq_self (Nat.not_le.mp room))
        rw [same]

/-- No larger than allowed, with the digests of keys. -/
structure Stored (options : OcrCacheOptions) (store : Store) : Prop where
  bounded : ∀ limit, options.maxEntries = some limit → store.rows.length ≤ limit
  named : ∀ row ∈ store.rows, row.digest ≠ ""

theorem Stored.empty : Stored options .empty := ⟨fun _ _ => Nat.zero_le _, List.forall_mem_nil _⟩

theorem Stored.erase {store : Store} (stored : Stored options store) (digest : String) :
    Stored options (store.erase digest) where
  bounded limit bound := (List.length_filter_le _ _).trans (stored.bounded limit bound)
  named row inside := stored.named row ((Keyed.mem_erase _ _ _).mp inside).1

theorem Stored.put {backend : InMemoryOcrCacheBackend} (stored : Stored options backend.store)
    (key : CacheKey) (result : CachedOcrResult) :
    Stored options (backend.put options key result).store where
  bounded _ bound := put_bounded backend.store ⟨key.digest, result⟩ bound
  named row inside := by
    rcases (Keyed.mem_put _ _ _).mp inside with rfl | ⟨old, _⟩
    · exact key.hasDigest
    · apply stored.named row
      unfold evicted at old
      split at old
      · exact old
      · exact (Keyed.shrink_sublist _ _).subset old

/-- What a get does: it finds and counts, or it misses and counts. -/
theorem get_cases (options : OcrCacheOptions) (backend : InMemoryOcrCacheBackend) (now : Timestamp)
    (key : CacheKey) :
    (∃ stored, backend.store.find? key.digest = some stored ∧
        options.live now stored.result = true ∧
        backend.get options now key =
          (some stored.result, { backend with hits := backend.hits + 1 })) ∨
      ((∀ stored, backend.store.find? key.digest = some stored →
          options.live now stored.result = false) ∧
        ∃ store, (store = backend.store ∨ store = backend.store.erase key.digest) ∧
          backend.get options now key = (none, ⟨store, backend.hits, backend.misses + 1⟩)) := by
  unfold get
  cases found : backend.store.find? key.digest with
  | none =>
      refine .inr ⟨fun stored same => ?_, backend.store, .inl rfl, rfl⟩
      cases same
  | some stored =>
      dsimp only
      cases expired : options.isExpired now stored.result with
      | true =>
          refine .inr ⟨fun other same => ?_, _, .inr rfl, if_pos rfl⟩
          cases same
          simp [OcrCacheOptions.live, expired]
      | false => exact .inl ⟨stored, rfl, by simp [OcrCacheOptions.live, expired], if_neg (by simp)⟩

end InMemoryOcrCacheBackend

open InMemoryOcrCacheBackend

/-- The store is within its bounds and the counters are those of the gets since the last clear. -/
structure Tallied (options : OcrCacheOptions) (entries : List OperationEntry)
    (backend : InMemoryOcrCacheBackend) : Prop where
  stored : Stored options backend.store
  hits : backend.hits = (sinceClear entries).countP isHit
  gets : backend.hits + backend.misses = (sinceClear entries).countP isGet

section Steps

variable {options : OcrCacheOptions} {entries : List OperationEntry}
  {backend : InMemoryOcrCacheBackend} (tallied : Tallied options entries backend)

include tallied

/-- An operation that neither gets nor clears leaves the counters. -/
theorem Tallied.silent {entry : OperationEntry} {store : Store} (stored : Stored options store)
    (clears : isClear entry = false) (gets : isGet entry = false) (hits : isHit entry = false) :
    Tallied options (entries ++ [entry]) { backend with store := store } where
  stored := stored
  hits := by
    rw [sinceClear_append_singleton, if_neg (by simp [clears]), List.countP_append,
      List.countP_singleton, hits]
    exact tallied.hits
  gets := by
    rw [sinceClear_append_singleton, if_neg (by simp [clears]), List.countP_append,
      List.countP_singleton, gets]
    exact tallied.gets

theorem Tallied.get (now : Timestamp) (key : CacheKey) :
    Tallied options (entries ++
        [((now, .call (.get key)), .call (.found (backend.get options now key).1))])
      (backend.get options now key).2 := by
  have since (answer : OperationAnswer) :
      sinceClear (entries ++ [((now, .call (.get key)), answer)]) =
        sinceClear entries ++ [((now, .call (.get key)), answer)] := by
    rw [sinceClear_append_singleton]
    rfl
  rcases get_cases options backend now key with ⟨stored, _, _, hit⟩ | ⟨_, store, same, missed⟩
  · rw [hit]
    refine ⟨tallied.stored, ?_, ?_⟩
    · rw [since, List.countP_append, ← tallied.hits]
      rfl
    · rw [since, List.countP_append, ← tallied.gets]
      show backend.hits + 1 + backend.misses = backend.hits + backend.misses + 1
      omega
  · rw [missed]
    refine ⟨?_, ?_, ?_⟩
    · rcases same with rfl | rfl
      · exact tallied.stored
      · exact tallied.stored.erase key.digest
    · rw [since, List.countP_append, ← tallied.hits]
      rfl
    · rw [since, List.countP_append, ← tallied.gets]
      rfl

/-- One operation, with its answer, keeps the books. -/
theorem Tallied.step (timed : Timestamp × CacheOperation) :
    Tallied options (entries ++ [(timed, (operationStep options backend timed).1)])
      (operationStep options backend timed).2 := by
  obtain ⟨now, operation⟩ := timed
  cases operation with
  | stats => exact tallied.silent tallied.stored rfl rfl rfl
  | call made =>
      cases made with
      | get key => exact tallied.get now key
      | put key result => exact tallied.silent (tallied.stored.put key result) rfl rfl rfl
      | has key =>
          show Tallied options (entries ++
              [((now, .call (.has key)), .call (.holds (backend.has options now key).1))])
            (backend.has options now key).2
          unfold InMemoryOcrCacheBackend.has
          cases backend.store.find? key.digest with
          | none => exact tallied.silent tallied.stored rfl rfl rfl
          | some stored =>
              dsimp only
              split
              · exact tallied.silent (tallied.stored.erase key.digest) rfl rfl rfl
              · exact tallied.silent tallied.stored rfl rfl rfl
      | invalidate key =>
          show Tallied options (entries ++
              [((now, .call (.invalidate key)), .call (.holds (backend.invalidate key).1))])
            (backend.invalidate key).2
          unfold InMemoryOcrCacheBackend.invalidate
          split
          · exact tallied.silent (tallied.stored.erase key.digest) rfl rfl rfl
          · exact tallied.silent tallied.stored rfl rfl rfl
      | clear =>
          have none (answer : OperationAnswer) :
              sinceClear (entries ++ [((now, .call .clear), answer)]) = [] := by
            rw [sinceClear_append_singleton]
            rfl
          refine ⟨.empty, ?_, ?_⟩
          · rw [none]
            rfl
          · rw [none]
            rfl

end Steps

theorem tallied_run (options : OcrCacheOptions) (calls : List (Timestamp × CacheOperation)) :
    Tallied options (transcript (operationStep options) .create calls)
      (run (operationStep options) .create calls).2 := by
  induction calls using List.reverseRecOn with
  | nil => exact ⟨.empty, rfl, rfl⟩
  | append_singleton calls timed ih =>
      rw [transcript_append_singleton, run_append_state]
      exact ih.step timed

/-- The keys that are stored and that a get would find at a time. -/
def Hitting (options : OcrCacheOptions) (backend : InMemoryOcrCacheBackend) (now : Timestamp)
    (digest : String) : Prop :=
  digest ∈ backend.store.rows.map StoredResult.digest ∧
    ∃ key : CacheKey, key.digest = digest ∧ (backend.get options now key).1.isSome = true

/-- The size that is told is the number of the keys that a get would find. -/
theorem size_counts_hits {options : OcrCacheOptions} {backend : InMemoryOcrCacheBackend}
    (named : ∀ row ∈ backend.store.rows, row.digest ≠ "") (now : Timestamp) :
    ∃ hitting : List String, hitting.Nodup ∧
      (∀ digest, digest ∈ hitting ↔ Hitting options backend now digest) ∧
        (backend.stats options now).size = hitting.length := by
  refine ⟨(backend.store.rows.filter (fun row => counts options now row.result)).map
    StoredResult.digest, ?_, fun digest => ?_, ?_⟩
  · exact (List.filter_sublist.map StoredResult.digest).nodup backend.store.distinct
  · have found (row : StoredResult) (inside : row ∈ backend.store.rows) :
        backend.store.find? row.digest = some row := backend.store.find?_of_mem inside
    constructor
    · intro listed
      obtain ⟨row, held, rfl⟩ := List.mem_map.mp listed
      obtain ⟨inside, counted⟩ := List.mem_filter.mp held
      rw [counts_eq_live] at counted
      let key : CacheKey := ⟨"sha256", row.digest, by decide, named row inside⟩
      refine ⟨List.mem_map_of_mem inside, key, rfl, ?_⟩
      rcases get_cases options backend now key with
        ⟨_, _, _, hit⟩ | ⟨dead, _⟩
      · rw [hit]
        rfl
      · rw [dead row (found row inside)] at counted
        cases counted
    · rintro ⟨listed, key, rfl, hit⟩
      obtain ⟨row, inside, same⟩ := List.mem_map.mp listed
      rcases get_cases options backend now key with ⟨stored, there, alive, _⟩ | ⟨_, _, _, missed⟩
      · rw [← same, found row inside] at there
        cases there
        rw [← same]
        refine List.mem_map_of_mem (List.mem_filter.mpr ⟨inside, ?_⟩)
        rw [counts_eq_live, alive]
      · rw [missed] at hit
        cases hit
  · rw [List.length_map]
    rfl

/-- The books of the cache after some operations: its bound, the eviction loop, the counters and the
size. -/
structure Books (options : OcrCacheOptions) (entries : List OperationEntry)
    (backend : InMemoryOcrCacheBackend) : Prop where
  bounded : ∀ limit, options.maxEntries = some limit → backend.store.rows.length ≤ limit
  evicts : ∀ limit turns, options.maxEntries = some limit → backend.store.rows.length < turns →
    evictLoop limit turns backend.store = .ok (some (evicted options backend.store))
  hits : backend.hits = (sinceClear entries).countP isHit
  gets : backend.hits + backend.misses = (sinceClear entries).countP isGet
  size : ∀ now, ∃ hitting : List String, hitting.Nodup ∧
    (∀ digest, digest ∈ hitting ↔ Hitting options backend now digest) ∧
      (backend.stats options now).size = hitting.length

/-- After any operations at any times, the books are right. -/
theorem cache_books (options : OcrCacheOptions) (calls : List (Timestamp × CacheOperation)) :
    Books options (transcript (operationStep options) .create calls)
      (run (operationStep options) .create calls).2 := by
  have tallied := tallied_run options calls
  refine ⟨tallied.stored.bounded, fun limit turns bound enough => ?_, tallied.hits, tallied.gets,
    size_counts_hits tallied.stored.named⟩
  rw [evictLoop_returns (options.maxPositive limit bound) _ enough, evicted, bound]

end LexMind.Ocr
