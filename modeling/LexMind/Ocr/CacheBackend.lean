import LexMind.Json
import LexMind.Lib.FifoMap
import Mathlib.Algebra.Order.Ring.Rat

set_option autoImplicit false

namespace LexMind.Ocr

open Lib Lib.Nested

/-- Equality of keys compares both parts. -/
@[ext] structure CacheKey where
  algorithm : String
  digest : String
  hasAlgorithm : algorithm ≠ ""
  hasDigest : digest ≠ ""

instance : DecidableEq CacheKey := fun _ _ => decidable_of_iff _ CacheKey.ext_iff.symm

/-- The confidence is the value of a float. -/
structure CachedOcrResult where
  key : CacheKey
  text : String
  confidence : Rat
  createdAt : Timestamp
  metadata : Entries String JsonScalar
  fraction : 0 ≤ confidence ∧ confidence ≤ 1
deriving DecidableEq

/-- The constructor, with the check of `__post_init__`. -/
def CachedOcrResult.create (key : CacheKey) (text : String) (confidence : Rat)
    (createdAt : Timestamp) (metadata : Entries String JsonScalar) :
    Except PyExc CachedOcrResult :=
  if fraction : 0 ≤ confidence ∧ confidence ≤ 1 then
    .ok ⟨key, text, confidence, createdAt, metadata, fraction⟩
  else .error (.valueError "confidence must be between 0 and 1")

structure OcrCacheOptions where
  ttlSeconds : Option Nat
  maxEntries : Option Nat
  ttlPositive : ∀ ttl, ttlSeconds = some ttl → 0 < ttl
  maxPositive : ∀ limit, maxEntries = some limit → 0 < limit

/-- The elapsed time is compared without the rounding of a float. -/
def OcrCacheOptions.isExpired (options : OcrCacheOptions) (now : Timestamp)
    (result : CachedOcrResult) : Bool :=
  match options.ttlSeconds with
  | none => false
  | some ttl => (ttl * 1000000 : Int) < (now : Int) - result.createdAt

/-- An entry of the ordered dictionary `_store`. -/
structure StoredResult where
  digest : String
  result : CachedOcrResult
deriving DecidableEq

abbrev Store := Keyed StoredResult.digest

structure InMemoryOcrCacheBackend where
  store : Store
  hits : Nat
  misses : Nat

namespace InMemoryOcrCacheBackend

def create : InMemoryOcrCacheBackend := ⟨.empty, 0, 0⟩

variable (options : OcrCacheOptions) (backend : InMemoryOcrCacheBackend) (now : Timestamp)
  (key : CacheKey)

def get : Option CachedOcrResult × InMemoryOcrCacheBackend :=
  match backend.store.find? key.digest with
  | none => (none, { backend with misses := backend.misses + 1 })
  | some stored =>
      if options.isExpired now stored.result then
        (none, { backend with
          store := backend.store.erase key.digest, misses := backend.misses + 1 })
      else (some stored.result, { backend with hits := backend.hits + 1 })

/-- `while len(self._store) >= max_entries: self._store.popitem(last=False)`. -/
def evicted (store : Store) : Store :=
  match options.maxEntries with
  | none => store
  | some limit => store.makeRoom limit

def put (result : CachedOcrResult) : InMemoryOcrCacheBackend :=
  { backend with store := (evicted options backend.store).put ⟨key.digest, result⟩ }

def has : Bool × InMemoryOcrCacheBackend :=
  match backend.store.find? key.digest with
  | none => (false, backend)
  | some stored =>
      if options.isExpired now stored.result then
        (false, { backend with store := backend.store.erase key.digest })
      else (true, backend)

def invalidate : Bool × InMemoryOcrCacheBackend :=
  if backend.store.contains key.digest then
    (true, { backend with store := backend.store.erase key.digest })
  else (false, backend)

def clear : InMemoryOcrCacheBackend := ⟨.empty, 0, 0⟩

end InMemoryOcrCacheBackend

inductive CacheCall
  | get (key : CacheKey)
  | put (key : CacheKey) (result : CachedOcrResult)
  | has (key : CacheKey)
  | invalidate (key : CacheKey)
  | clear

inductive CacheAnswer
  | unit
  | found (result : Option CachedOcrResult)
  | holds (present : Bool)
deriving DecidableEq

/-- A call and the time at which it is made. -/
abbrev TimedCall := Timestamp × CacheCall

def cacheStep (options : OcrCacheOptions) (backend : InMemoryOcrCacheBackend) (timed : TimedCall) :
    CacheAnswer × InMemoryOcrCacheBackend :=
  match timed.2 with
  | .get key => (backend.get options timed.1 key).map .found id
  | .put key result => (.unit, backend.put options key result)
  | .has key => (backend.has options timed.1 key).map .holds id
  | .invalidate key => (backend.invalidate key).map .holds id
  | .clear => (.unit, .clear)

end LexMind.Ocr
