import LexMind.Lib.Run
import LexMind.Ocr.CacheBackend
import Mathlib.Data.List.Find

set_option autoImplicit false

/- The in-memory cache against a bounded map from keys to the values put last. -/
namespace LexMind.Ocr

open Lib

namespace OcrCacheOptions

variable (options : OcrCacheOptions)

def live (now : Timestamp) (result : CachedOcrResult) : Bool := !options.isExpired now result

/-- What has expired stays expired. -/
theorem live_of_later {now later : Timestamp} (order : now ≤ later) {result : CachedOcrResult}
    (alive : options.live later result = true) : options.live now result = true := by
  unfold live isExpired at *
  cases ttl : options.ttlSeconds with
  | none => simp
  | some seconds =>
      have passed : (now : Int) ≤ later := Int.ofNat_le.mpr order
      simp only [ttl, Bool.not_eq_true', decide_eq_false_iff_not] at alive ⊢
      omega

end OcrCacheOptions

/-- An entry of the map. -/
structure CacheEntry where
  key : CacheKey
  result : CachedOcrResult

/-- Keys with their values, in the order of the keys' insertion. -/
abbrev CacheMap := Keyed CacheEntry.key

namespace CacheMap

variable (options : OcrCacheOptions) (now : Timestamp)

/-- The entries that have not expired. -/
def current (map : CacheMap) : CacheMap := map.restrict (fun entry => options.live now entry.result)

def value (map : CacheMap) (key : CacheKey) : Option CachedOcrResult :=
  ((current options now map).find? key).map CacheEntry.result

/-- A key is put that is not there, and as many entries as are allowed are. -/
def Evicts (map : CacheMap) (key : CacheKey) : Prop :=
  map.contains key = false ∧ ∃ limit, options.maxEntries = some limit ∧ limit ≤ map.rows.length

instance (map : CacheMap) (key : CacheKey) : Decidable (Evicts options map key) :=
  match bound : options.maxEntries with
  | none => .isFalse (by rintro ⟨_, limit, some, _⟩; rw [bound] at some; cases some)
  | some limit =>
      decidable_of_iff (map.contains key = false ∧ limit ≤ map.rows.length) (by
        simp [Evicts, bound])

def put (map : CacheMap) (key : CacheKey) (result : CachedOcrResult) : CacheMap :=
  (if Evicts options map key then map.popFirst else map).put ⟨key, result⟩

end CacheMap

/-- The specification: expired entries are absent, and a put evicts the first entry only where it
needs the room for a new key. -/
def mapStep (options : OcrCacheOptions) (map : CacheMap) (timed : TimedCall) :
    CacheAnswer × CacheMap :=
  let current := CacheMap.current options timed.1 map
  match timed.2 with
  | .get key => (.found ((current.find? key).map CacheEntry.result), current)
  | .put key result => (.unit, CacheMap.put options current key result)
  | .has key => (.holds (current.contains key), current)
  | .invalidate key => (.holds (current.contains key), current.erase key)
  | .clear => (.unit, .empty)

/-- How the backend stores an entry. -/
def CacheEntry.stored (entry : CacheEntry) : StoredResult := ⟨entry.key.digest, entry.result⟩

/-- What has not expired is in both, in the same order, and the store is no larger than allowed. -/
structure Related (options : OcrCacheOptions) (now : Timestamp) (store : Store) (map : CacheMap) :
    Prop where
  same : store.rows.filter (fun row => options.live now row.result) =
    (CacheMap.current options now map).rows.map CacheEntry.stored
  bounded : ∀ limit, options.maxEntries = some limit → store.rows.length ≤ limit

/-- The key is the only one of its digest under which a result is current. -/
def SoleAlgorithm (options : OcrCacheOptions) (now : Timestamp) (map : CacheMap) (key : CacheKey) :
    Prop :=
  ∀ entry ∈ (CacheMap.current options now map).rows,
    entry.key.digest = key.digest → entry.key = key

/-- In a full store, the first entry has expired; or none has, and the key is not stored; or the
first is the key's own, and the others have expired. -/
def RoomFits (options : OcrCacheOptions) (now : Timestamp) (rows : List StoredResult)
    (key : CacheKey) : Prop :=
  ∀ first rest, rows = first :: rest → options.maxEntries = some rows.length →
    options.isExpired now first.result = true ∨
    (∀ row ∈ rows, row.digest ≠ key.digest ∧ options.isExpired now row.result = false) ∨
    first.digest = key.digest ∧ ∀ row ∈ rest, options.isExpired now row.result = true

/-- Behind an expired entry that is overwritten, all have expired. -/
def PlaceFits (options : OcrCacheOptions) (now : Timestamp) (rows : List StoredResult)
    (key : CacheKey) : Prop :=
  ∀ front old back, rows = front ++ old :: back → old.digest = key.digest →
    options.isExpired now old.result = true →
      ∀ row ∈ back, options.isExpired now row.result = true

/-- The calls on which the backend does as the map. -/
def CacheFits (options : OcrCacheOptions) (state : InMemoryOcrCacheBackend × CacheMap)
    (timed : TimedCall) : Prop :=
  match timed.2 with
  | .get key | .has key => SoleAlgorithm options timed.1 state.2 key
  | .put key _ => SoleAlgorithm options timed.1 state.2 key ∧
      RoomFits options timed.1 state.1.store.rows key ∧
      PlaceFits options timed.1 (InMemoryOcrCacheBackend.evicted options state.1.store).rows key
  | .invalidate key => SoleAlgorithm options timed.1 state.2 key ∧
      ∀ row ∈ state.1.store.rows, row.digest = key.digest →
        options.isExpired timed.1 row.result = false
  | .clear => True

section Decidable

variable (options : OcrCacheOptions) (now : Timestamp) (key : CacheKey)

theorem placeFits_cons (row : StoredResult) (rest : List StoredResult) :
    PlaceFits options now (row :: rest) key ↔
      (row.digest = key.digest → options.isExpired now row.result = true →
        ∀ later ∈ rest, options.isExpired now later.result = true) ∧
      PlaceFits options now rest key := by
  constructor
  · intro fits
    refine ⟨fits [] row rest rfl, fun front old back split => ?_⟩
    exact fits (row :: front) old back (congrArg (row :: ·) split)
  · rintro ⟨first, later⟩ front old back split
    cases front with
    | nil =>
        cases split
        exact first
    | cons head front =>
        cases split
        exact later front old back rfl

instance (map : CacheMap) : Decidable (SoleAlgorithm options now map key) :=
  inferInstanceAs (Decidable (∀ entry ∈ (CacheMap.current options now map).rows,
    entry.key.digest = key.digest → entry.key = key))

instance (rows : List StoredResult) : Decidable (RoomFits options now rows key) :=
  match rows with
  | [] => .isTrue (fun _ _ split => nomatch split)
  | first :: rest =>
      decidable_of_iff (options.maxEntries = some (first :: rest).length →
        options.isExpired now first.result = true ∨
        (∀ row ∈ first :: rest, row.digest ≠ key.digest ∧
          options.isExpired now row.result = false) ∨
        first.digest = key.digest ∧ ∀ row ∈ rest, options.isExpired now row.result = true)
        ⟨fun fits _ _ split => by cases split; exact fits, fun fits => fits first rest rfl⟩

instance decidablePlaceFits : ∀ rows, Decidable (PlaceFits options now rows key)
  | [] => .isTrue (fun front _ _ split => by cases front <;> cases split)
  | row :: rest =>
      have := decidablePlaceFits rest
      decidable_of_iff' _ (placeFits_cons options now key row rest)

instance (state : InMemoryOcrCacheBackend × CacheMap) (timed : TimedCall) :
    Decidable (CacheFits options state timed) := by
  unfold CacheFits
  split <;> infer_instance

end Decidable

/-- The backend and the map, on the same calls. -/
def jointStep (options : OcrCacheOptions) (state : InMemoryOcrCacheBackend × CacheMap)
    (timed : TimedCall) : (CacheAnswer × CacheAnswer) × InMemoryOcrCacheBackend × CacheMap :=
  (((cacheStep options state.1 timed).1, (mapStep options state.2 timed).1),
    (cacheStep options state.1 timed).2, (mapStep options state.2 timed).2)

variable {options : OcrCacheOptions} {now : Timestamp} {store : Store}
  {map : CacheMap} {key : CacheKey}

theorem CacheMap.current_live {entry : CacheEntry}
    (inside : entry ∈ (CacheMap.current options now map).rows) :
    options.live now entry.result = true := (List.mem_filter.mp inside).2

theorem CacheMap.current_eq_self (alive : ∀ entry ∈ map.rows, options.live now entry.result = true) :
    CacheMap.current options now map = map :=
  Keyed.ext_rows (List.filter_eq_self.mpr alive)

theorem CacheMap.current_current {later : Timestamp} (order : now ≤ later) :
    CacheMap.current options later (CacheMap.current options now map) =
      CacheMap.current options later map := by
  apply Keyed.ext_rows
  rw [CacheMap.current, CacheMap.current, CacheMap.current, Keyed.rows_restrict, Keyed.rows_restrict,
    Keyed.rows_restrict, List.filter_filter]
  apply List.filter_congr
  intro entry _
  rw [Bool.and_eq_left_iff_imp]
  exact options.live_of_later order

/-- What corresponds now, corresponds later. -/
theorem Related.later (related : Related options now store map) {later : Timestamp}
    (order : now ≤ later) : Related options later store map where
  same := by
    calc store.rows.filter (fun row => options.live later row.result)
        = (store.rows.filter (fun row => options.live now row.result)).filter
            (fun row => options.live later row.result) := by
          rw [List.filter_filter]
          apply List.filter_congr
          intro row _
          exact (Bool.and_eq_left_iff_imp.mpr (options.live_of_later order)).symm
      _ = (CacheMap.current options later (CacheMap.current options now map)).rows.map
            CacheEntry.stored := by
          rw [related.same, List.filter_map]
          rfl
      _ = (CacheMap.current options later map).rows.map CacheEntry.stored := by
          rw [CacheMap.current_current order]
  bounded := related.bounded

theorem SoleAlgorithm.digest_iff (sole : SoleAlgorithm options now map key) {entry : CacheEntry}
    (inside : entry ∈ (CacheMap.current options now map).rows) :
    entry.stored.digest = key.digest ↔ entry.key = key :=
  ⟨sole entry inside, fun same => congrArg CacheKey.digest same⟩

/-- A key that is the only one of its digest is found where its digest is, unless expired. -/
theorem Related.find? (related : Related options now store map)
    (sole : SoleAlgorithm options now map key) :
    (store.find? key.digest).filter (fun row => options.live now row.result) =
      ((CacheMap.current options now map).find? key).map CacheEntry.stored := by
  calc (store.find? key.digest).filter (fun row => options.live now row.result)
      = ((CacheMap.current options now map).rows.map CacheEntry.stored).find?
          (fun row => row.digest = key.digest) := by
        rw [← Keyed.find?_restrict, ← related.same]
        rfl
    _ = ((CacheMap.current options now map).find? key).map CacheEntry.stored := by
        rw [List.find?_map]
        congr 1
        apply List.find?_congr
        intro entry inside
        simp [sole.digest_iff inside]

/-- Taking the key out of both. -/
theorem Related.erase (related : Related options now store map)
    (sole : SoleAlgorithm options now map key) :
    Related options now (store.erase key.digest)
      ((CacheMap.current options now map).erase key) where
  same := by
    have alive : ∀ entry ∈ ((CacheMap.current options now map).erase key).rows,
        options.live now entry.result = true := fun entry inside =>
      CacheMap.current_live ((Keyed.mem_erase _ key entry).mp inside).1
    calc (store.rows.filter (fun row => row.digest ≠ key.digest)).filter
            (fun row => options.live now row.result)
        = ((CacheMap.current options now map).rows.map CacheEntry.stored).filter
            (fun row => row.digest ≠ key.digest) := by
          rw [List.filter_comm, related.same]
      _ = ((CacheMap.current options now map).erase key).rows.map CacheEntry.stored :=
          Keyed.filter_map_ne CacheEntry.stored (fun _ inside => sole.digest_iff inside)
      _ = (CacheMap.current options now ((CacheMap.current options now map).erase key)).rows.map
            CacheEntry.stored := by
          rw [CacheMap.current_eq_self alive]
  bounded := by
    intro limit bound
    exact Nat.le_trans (List.length_filter_le _ _) (related.bounded limit bound)

/-- The entries that have not expired, among which all are. -/
theorem Related.current (related : Related options now store map) :
    Related options now store (CacheMap.current options now map) where
  same := by rw [CacheMap.current_current (Nat.le_refl now), related.same]
  bounded := related.bounded

/-- A get or a has takes the entry out only where it has expired. -/
theorem Related.erase_expired (related : Related options now store map)
    (sole : SoleAlgorithm options now map key) {row : StoredResult}
    (found : store.find? key.digest = some row)
    (expired : options.live now row.result = false) :
    Related options now (store.erase key.digest)
      (CacheMap.current options now map) := by
  have absent : (CacheMap.current options now map).find? key = none := by
    simpa [found, Option.filter, expired] using (related.find? sole).symm
  have kept : (CacheMap.current options now map).erase key = CacheMap.current options now map := by
    apply Keyed.ext_rows
    apply List.filter_eq_self.mpr
    intro entry inside
    simpa using (Keyed.find?_eq_none_iff _ key).mp absent entry inside
  exact kept ▸ related.erase sole

theorem live_of_fresh {result : CachedOcrResult} (fresh : options.isExpired now result = false) :
    options.live now result = true := by
  rw [OcrCacheOptions.live, fresh]
  rfl

theorem not_live_of_expired {result : CachedOcrResult}
    (expired : options.isExpired now result = true) : options.live now result = false := by
  rw [OcrCacheOptions.live, expired]
  rfl

/-- What a lookup finds in the store: nothing, or an expired entry and nothing in the map, or an
entry that both have. -/
theorem Related.lookup (related : Related options now store map)
    (sole : SoleAlgorithm options now map key) :
    (store.find? key.digest = none ∨
        ∃ row, store.find? key.digest = some row ∧ options.isExpired now row.result = true) ∧
      (CacheMap.current options now map).find? key = none ∨
    ∃ entry, store.find? key.digest = some entry.stored ∧
      options.isExpired now entry.result = false ∧
      (CacheMap.current options now map).find? key = some entry := by
  have search := related.find? sole
  cases found : store.find? key.digest with
  | none =>
      rw [found] at search
      exact .inl ⟨.inl rfl, Option.map_eq_none_iff.mp search.symm⟩
  | some row =>
      rw [found] at search
      cases expired : options.isExpired now row.result with
      | true =>
          rw [Option.filter_some, if_neg (by simp [not_live_of_expired expired])] at search
          exact .inl ⟨.inr ⟨row, rfl, expired⟩, Option.map_eq_none_iff.mp search.symm⟩
      | false =>
          rw [Option.filter_some, if_pos (live_of_fresh expired)] at search
          obtain ⟨entry, there, rfl⟩ := Option.map_eq_some_iff.mp search.symm
          exact .inr ⟨entry, rfl, expired, there⟩

variable (backend : InMemoryOcrCacheBackend)

theorem get_refines (related : Related options now backend.store map)
    (sole : SoleAlgorithm options now map key) :
    (backend.get options now key).1 =
        ((CacheMap.current options now map).find? key).map CacheEntry.result ∧
      Related options now (backend.get options now key).2.store
        (CacheMap.current options now map) := by
  unfold InMemoryOcrCacheBackend.get
  rcases related.lookup sole with ⟨found | ⟨row, found, expired⟩, absent⟩ | ⟨entry, found, fresh, there⟩
  · simpa [found, absent] using related.current
  · simpa [found, absent, expired] using
      related.erase_expired sole found (not_live_of_expired expired)
  · simpa [found, there, fresh, CacheEntry.stored] using related.current

theorem has_refines (related : Related options now backend.store map)
    (sole : SoleAlgorithm options now map key) :
    (backend.has options now key).1 = (CacheMap.current options now map).contains key ∧
      Related options now (backend.has options now key).2.store
        (CacheMap.current options now map) := by
  unfold InMemoryOcrCacheBackend.has Keyed.contains
  rcases related.lookup sole with ⟨found | ⟨row, found, expired⟩, absent⟩ | ⟨entry, found, fresh, there⟩
  · simpa [found, absent] using related.current
  · simpa [found, absent, expired] using
      related.erase_expired sole found (not_live_of_expired expired)
  · simpa [found, there, fresh, CacheEntry.stored] using related.current

theorem invalidate_refines (related : Related options now backend.store map)
    (sole : SoleAlgorithm options now map key)
    (current : ∀ row ∈ backend.store.rows, row.digest = key.digest →
      options.isExpired now row.result = false) :
    (backend.invalidate key).1 = (CacheMap.current options now map).contains key ∧
      Related options now (backend.invalidate key).2.store
        ((CacheMap.current options now map).erase key) := by
  have erased := related.erase sole
  unfold InMemoryOcrCacheBackend.invalidate Keyed.contains
  rcases related.lookup sole with ⟨found | ⟨row, found, expired⟩, absent⟩ | ⟨entry, found, _, there⟩
  · have same : backend.store.erase key.digest = backend.store := by
      apply Keyed.ext_rows
      apply List.filter_eq_self.mpr
      intro row inside
      simpa using (Keyed.find?_eq_none_iff _ _).mp found row inside
    rw [same] at erased
    simpa [found, absent] using erased
  · have fresh := current row (Keyed.mem_of_find? found) (Keyed.key_of_find? found)
    rw [expired] at fresh
    cases fresh
  · simpa [found, there] using erased

theorem current_putRows (alive : ∀ entry ∈ map.rows, options.live now entry.result = true)
    {result : CachedOcrResult} (shown : options.live now result = true) :
    (Keyed.putRows CacheEntry.key map.rows ⟨key, result⟩).filter
        (fun entry => options.live now entry.result) =
      Keyed.putRows CacheEntry.key map.rows ⟨key, result⟩ := by
  have first : ∀ front old back, map.rows = front ++ old :: back → old.key = key →
      options.live now old.result = false →
        back.filter (fun entry => options.live now entry.result) = [] := by
    intro front old back split _ hidden
    rw [alive old (by rw [split]; exact List.mem_append_right _ List.mem_cons_self)] at hidden
    cases hidden
  have below : (Keyed.putRows CacheEntry.key map.rows ⟨key, result⟩).filter
        (fun entry => options.live now entry.result) =
      Keyed.putRows CacheEntry.key
        (map.rows.filter (fun entry => options.live now entry.result)) ⟨key, result⟩ :=
    Keyed.filter_putRows shown map.distinct first
  rw [below, List.filter_eq_self.mpr alive]

theorem PlaceFits.hides_back (place : PlaceFits options now store.rows key)
    (front : List StoredResult) (old : StoredResult) (back : List StoredResult)
    (split : store.rows = front ++ old :: back) (equal : old.digest = key.digest)
    (hidden : options.live now old.result = false) :
    back.filter (fun row => options.live now row.result) = [] := by
  have expired : options.isExpired now old.result = true := by
    simpa [OcrCacheOptions.live] using hidden
  apply List.filter_eq_nil_iff.mpr
  intro row inside
  simp [not_live_of_expired (place front old back split equal expired row inside)]

/-- A put into a store and a map with the same current entries, of which none stands behind an
expired one that is overwritten. -/
theorem put_same (result : CachedOcrResult)
    (same : store.rows.filter (fun row => options.live now row.result) =
      map.rows.map CacheEntry.stored)
    (alive : ∀ entry ∈ map.rows, options.live now entry.result = true)
    (sole : ∀ entry ∈ map.rows, entry.key.digest = key.digest → entry.key = key)
    (place : PlaceFits options now store.rows key) :
    (store.put ⟨key.digest, result⟩).rows.filter (fun row => options.live now row.result) =
      (CacheMap.current options now (Keyed.put map ⟨key, result⟩)).rows.map CacheEntry.stored := by
  have keys : ∀ entry ∈ map.rows, entry.stored.digest = key.digest ↔ entry.key = key :=
    fun entry inside => ⟨sole entry inside, congrArg CacheKey.digest⟩
  cases shown : options.live now result with
  | true =>
      calc (store.put ⟨key.digest, result⟩).rows.filter (fun row => options.live now row.result)
          = Keyed.putRows StoredResult.digest
              (store.rows.filter (fun row => options.live now row.result)) ⟨key.digest, result⟩ :=
            Keyed.filter_putRows shown store.distinct place.hides_back
        _ = Keyed.putRows StoredResult.digest (map.rows.map CacheEntry.stored)
              (CacheEntry.stored ⟨key, result⟩) := by
            rw [same]
            rfl
        _ = (Keyed.putRows CacheEntry.key map.rows ⟨key, result⟩).map CacheEntry.stored :=
            Keyed.putRows_map CacheEntry.stored keys
        _ = ((Keyed.putRows CacheEntry.key map.rows ⟨key, result⟩).filter
              (fun entry => options.live now entry.result)).map CacheEntry.stored := by
            rw [current_putRows alive shown]
  | false =>
      have below : (Keyed.put map ⟨key, result⟩).rows.filter
            (fun entry => options.live now entry.result) =
          (map.rows.filter (fun entry => options.live now entry.result)).filter
            (fun entry => entry.key ≠ key) :=
        Keyed.filter_put map _ ⟨key, result⟩ shown
      calc (store.put ⟨key.digest, result⟩).rows.filter (fun row => options.live now row.result)
          = (store.rows.filter (fun row => options.live now row.result)).filter
              (fun row => row.digest ≠ key.digest) :=
            Keyed.filter_put store _ ⟨key.digest, result⟩ shown
        _ = (map.rows.map CacheEntry.stored).filter (fun row => row.digest ≠ key.digest) := by
            rw [same]
        _ = (map.rows.filter (fun entry => entry.key ≠ key)).map CacheEntry.stored :=
            Keyed.filter_map_ne CacheEntry.stored keys
        _ = ((Keyed.put map ⟨key, result⟩).rows.filter
              (fun entry => options.live now entry.result)).map CacheEntry.stored := by
            rw [below, List.filter_eq_self.mpr alive]

theorem evicted_unbounded (unbounded : options.maxEntries = none) :
    InMemoryOcrCacheBackend.evicted options store = store := by
  rw [InMemoryOcrCacheBackend.evicted, unbounded]

theorem rows_evicted {limit : Nat} (bound : options.maxEntries = some limit) :
    (InMemoryOcrCacheBackend.evicted options store).rows = Keyed.shrink limit store.rows := by
  rw [InMemoryOcrCacheBackend.evicted, bound]
  rfl

/-- The map's current entries are at most as many as the stored ones. -/
theorem Related.length_le (related : Related options now store map) :
    (CacheMap.current options now map).rows.length ≤ store.rows.length := by
  calc (CacheMap.current options now map).rows.length
      = (store.rows.filter (fun row => options.live now row.result)).length := by
        rw [related.same, List.length_map]
    _ ≤ store.rows.length := List.length_filter_le _ _

theorem CacheMap.put_room {result : CachedOcrResult} (room : ¬ Evicts options map key) :
    CacheMap.put options map key result = Keyed.put map ⟨key, result⟩ := by
  rw [CacheMap.put, if_neg room]

theorem CacheMap.not_evicts_of_lt {limit : Nat} (bound : options.maxEntries = some limit)
    (room : map.rows.length < limit) : ¬ Evicts options map key := by
  rintro ⟨_, other, same, full⟩
  rw [bound] at same
  cases same
  omega

/-- The rows have the current entries of a map in which putting the key gives what the
specification gives. -/
def RoomMade (options : OcrCacheOptions) (now : Timestamp) (rows : List StoredResult)
    (map : CacheMap) (key : CacheKey) (result : CachedOcrResult) : Prop :=
  ∃ left : CacheMap,
    rows.filter (fun row => options.live now row.result) = left.rows.map CacheEntry.stored ∧
    left.rows ⊆ (CacheMap.current options now map).rows ∧
    CacheMap.put options (CacheMap.current options now map) key result = Keyed.put left ⟨key, result⟩

/-- Where no current entry is taken from the store, the map evicts none either. -/
theorem roomMade_kept (related : Related options now store map) {rows : List StoredResult}
    (unchanged : rows.filter (fun row => options.live now row.result) =
      store.rows.filter (fun row => options.live now row.result))
    (kept : ¬ CacheMap.Evicts options (CacheMap.current options now map) key)
    (result : CachedOcrResult) : RoomMade options now rows map key result :=
  ⟨CacheMap.current options now map, unchanged.trans related.same, List.Subset.refl _,
    CacheMap.put_room kept⟩

/-- The first of a full store has expired: the map is not full. -/
theorem roomMade_expired (related : Related options now store map) {first : StoredResult}
    {rest : List StoredResult} (split : store.rows = first :: rest)
    (full : options.maxEntries = some (first :: rest).length)
    (expired : options.isExpired now first.result = true) (result : CachedOcrResult) :
    RoomMade options now rest map key result := by
  have dropped : rest.filter (fun row => options.live now row.result) =
      store.rows.filter (fun row => options.live now row.result) := by
    rw [split, List.filter_cons_of_neg (by simp [not_live_of_expired expired])]
  have few : (CacheMap.current options now map).rows.length < (first :: rest).length := by
    calc (CacheMap.current options now map).rows.length
        = (rest.filter (fun row => options.live now row.result)).length := by
          rw [dropped, related.same, List.length_map]
      _ < (first :: rest).length := Nat.lt_succ_of_le (List.length_filter_le _ _)
  exact roomMade_kept related dropped (CacheMap.not_evicts_of_lt full few) result

/-- Nothing of a full store has expired, and the key is new: both lose their first. -/
theorem roomMade_evicting {entry : CacheEntry} {others : List CacheEntry}
    {rest : List StoredResult} (current : (CacheMap.current options now map).rows = entry :: others)
    (tail : others.map CacheEntry.stored = rest.filter (fun row => options.live now row.result))
    (full : options.maxEntries = some (entry.stored :: rest).length)
    (fresh : ∀ row ∈ entry.stored :: rest,
      row.digest ≠ key.digest ∧ options.isExpired now row.result = false)
    (result : CachedOcrResult) : RoomMade options now rest map key result := by
  have all : rest.filter (fun row => options.live now row.result) = rest :=
    List.filter_eq_self.mpr (fun row inside =>
      live_of_fresh (fresh row (List.mem_cons_of_mem _ inside)).2)
  have many : (entry :: others).length = rest.length + 1 := by
    rw [List.length_cons, ← all, ← tail, List.length_map]
  have absent : (CacheMap.current options now map).contains key = false := by
    rw [Keyed.contains, Option.isSome_eq_false_iff, Option.isNone_iff_eq_none,
      Keyed.find?_eq_none_iff, current]
    intro other inside equal
    have stored : other.stored ∈ entry.stored :: rest := by
      rw [← all, ← tail]
      exact List.mem_map_of_mem inside
    exact (fresh other.stored stored).1 (congrArg CacheKey.digest equal)
  have evicts : CacheMap.Evicts options (CacheMap.current options now map) key :=
    ⟨absent, _, full, by rw [current, many, List.length_cons]⟩
  refine ⟨(CacheMap.current options now map).popFirst, ?_, (List.tail_sublist _).subset, ?_⟩
  · rw [Keyed.rows_popFirst, current, List.tail_cons, tail]
  · rw [CacheMap.put, if_pos evicts]

/-- The first of a full store is the key's own, and the only one that is current. -/
theorem roomMade_overwriting {entry : CacheEntry} {rest : List StoredResult}
    (current : (CacheMap.current options now map).rows = [entry]) (equal : entry.key = key)
    (hidden : rest.filter (fun row => options.live now row.result) = [])
    (result : CachedOcrResult) : RoomMade options now rest map key result := by
  have present : (CacheMap.current options now map).contains key = true := by
    rw [Keyed.contains_eq_true_iff]
    refine ⟨entry, (Keyed.find?_eq_some_iff _ _ _).mpr ⟨?_, equal⟩⟩
    rw [current]
    exact List.mem_singleton_self entry
  have kept : ¬ CacheMap.Evicts options (CacheMap.current options now map) key := by
    rintro ⟨absent, _⟩
    rw [present] at absent
    cases absent
  refine ⟨.empty, hidden, List.nil_subset _, ?_⟩
  rw [CacheMap.put_room kept]
  apply Keyed.ext_rows
  show Keyed.putRows CacheEntry.key (CacheMap.current options now map).rows _ =
    Keyed.putRows CacheEntry.key [] _
  rw [current]
  simp [Keyed.putRows, equal]

/-- The first of a full store is taken: both lose it, or it has expired, or the key's own is the
only current one. -/
theorem roomMade_full (related : Related options now store map)
    (sole : SoleAlgorithm options now map key) {first : StoredResult} {rest : List StoredResult}
    (split : store.rows = first :: rest) (full : options.maxEntries = some (first :: rest).length)
    (room : RoomFits options now store.rows key) (result : CachedOcrResult) :
    RoomMade options now rest map key result := by
  cases expired : options.isExpired now first.result with
  | true => exact roomMade_expired related split full expired result
  | false =>
      have shown : (first :: rest).filter (fun row => options.live now row.result) =
          first :: rest.filter (fun row => options.live now row.result) :=
        List.filter_cons_of_pos (live_of_fresh expired)
      obtain ⟨entry, others, current, rfl, tail⟩ :=
        List.map_eq_cons_iff.mp (related.same.symm.trans (split ▸ shown))
      rcases room _ rest split (split ▸ full) with dead | fresh | ⟨own, dead⟩
      · rw [expired] at dead
        cases dead
      · exact roomMade_evicting current tail full (split ▸ fresh) result
      · have hidden : rest.filter (fun row => options.live now row.result) = [] :=
          List.filter_eq_nil_iff.mpr (fun row inside => by
            simp [not_live_of_expired (dead row inside)])
        obtain rfl : others = [] := List.map_eq_nil_iff.mp (tail.trans hidden)
        have inside : entry ∈ (CacheMap.current options now map).rows := by
          rw [current]
          exact List.mem_singleton_self entry
        exact roomMade_overwriting current (sole entry inside own) hidden result

/-- The entries among which the map puts: its own, or those that an eviction leaves, or none where
the only one is overwritten. -/
theorem evicted_same (related : Related options now store map)
    (sole : SoleAlgorithm options now map key) (room : RoomFits options now store.rows key)
    (result : CachedOcrResult) :
    RoomMade options now (InMemoryOcrCacheBackend.evicted options store).rows map key result := by
  cases bound : options.maxEntries with
  | none =>
      refine roomMade_kept related (by rw [evicted_unbounded bound]) ?_ result
      rintro ⟨_, limit, some, _⟩
      rw [bound] at some
      cases some
  | some limit =>
      have few := related.length_le
      rw [rows_evicted bound]
      rcases Nat.lt_or_eq_of_le (related.bounded limit bound) with roomy | full
      · rw [Keyed.shrink_eq_self roomy]
        exact roomMade_kept related rfl (CacheMap.not_evicts_of_lt bound (by omega)) result
      · cases split : store.rows with
        | nil =>
            have positive := options.maxPositive limit bound
            rw [← full, split] at positive
            cases positive
        | cons first rest =>
            rw [split] at full
            rw [Keyed.shrink_full full]
            exact roomMade_full related sole split (full ▸ bound) room result

/-- After a put, the store is no larger than allowed. -/
theorem put_bounded (store : Store) (row : StoredResult) {limit : Nat}
    (bound : options.maxEntries = some limit) :
    ((InMemoryOcrCacheBackend.evicted options store).put row).rows.length ≤ limit := by
  have room := Keyed.length_shrink_lt (options.maxPositive limit bound) store.rows
  have length : ((InMemoryOcrCacheBackend.evicted options store).put row).rows.length ≤
      (InMemoryOcrCacheBackend.evicted options store).rows.length + 1 :=
    Keyed.length_putRows_le _ row
  rw [rows_evicted bound] at length
  omega

theorem put_refines (related : Related options now backend.store map)
    (sole : SoleAlgorithm options now map key)
    (room : RoomFits options now backend.store.rows key)
    (place : PlaceFits options now (InMemoryOcrCacheBackend.evicted options backend.store).rows key)
    (result : CachedOcrResult) :
    Related options now (backend.put options key result).store
      (CacheMap.put options (CacheMap.current options now map) key result) where
  same := by
    obtain ⟨left, same, inside, equal⟩ := evicted_same related sole room result
    rw [equal]
    exact put_same result same (fun entry member => CacheMap.current_live (inside member))
      (fun entry member => sole entry (inside member)) place
  bounded := fun limit bound => put_bounded backend.store ⟨key.digest, result⟩ bound

/-- One call that fits answers alike and keeps what corresponds. -/
theorem step_refines {timed : TimedCall} (related : Related options timed.1 backend.store map)
    (fits : CacheFits options (backend, map) timed) :
    (cacheStep options backend timed).1 = (mapStep options map timed).1 ∧
      Related options timed.1 (cacheStep options backend timed).2.store
        (mapStep options map timed).2 := by
  obtain ⟨now, cacheCall⟩ := timed
  cases cacheCall with
  | get key =>
      obtain ⟨answer, after⟩ := get_refines backend related fits
      exact ⟨congrArg CacheAnswer.found answer, after⟩
  | put key result => exact ⟨rfl, put_refines backend related fits.1 fits.2.1 fits.2.2 result⟩
  | has key =>
      obtain ⟨answer, after⟩ := has_refines backend related fits
      exact ⟨congrArg CacheAnswer.holds answer, after⟩
  | invalidate key =>
      obtain ⟨answer, after⟩ := invalidate_refines backend related fits.1 fits.2
      exact ⟨congrArg CacheAnswer.holds answer, after⟩
  | clear => exact ⟨rfl, rfl, fun _ _ => Nat.zero_le _⟩

/-- The times of the calls do not decrease. -/
def Ordered (calls : List TimedCall) : Prop :=
  calls.Pairwise (fun earlier later => earlier.1 ≤ later.1)

theorem run_refines {calls : List TimedCall} (related : Related options now backend.store map)
    (after : ∀ timed ∈ calls, now ≤ timed.1) (ordered : Ordered calls)
    (fits : Along (jointStep options) (CacheFits options) (backend, map) calls) :
    (run (cacheStep options) backend calls).1 = (run (mapStep options) map calls).1 := by
  induction calls generalizing now backend map with
  | nil => rfl
  | cons timed rest ih =>
      obtain ⟨following, ordered⟩ := List.pairwise_cons.mp ordered
      obtain ⟨answer, next⟩ :=
        step_refines backend (related.later (after timed List.mem_cons_self)) fits.1
      exact congrArg₂ List.cons answer (ih _ next following ordered fits.2)

def CacheCall.key? : CacheCall → Option CacheKey
  | .get key | .put key _ | .has key | .invalidate key => some key
  | .clear => none

/-- The call puts a new key into a full map whose first entry is the other key's. -/
def Displaces (options : OcrCacheOptions) (map : CacheMap) (timed : TimedCall) (other : CacheKey) :
    Prop :=
  ∃ key result, timed.2 = .put key result ∧
    CacheMap.Evicts options (CacheMap.current options timed.1 map) key ∧
    ((CacheMap.current options timed.1 map).rows.head?).map CacheEntry.key = some other

theorem CacheMap.value_congr {first second : CacheMap} {other : CacheKey} (later : Timestamp)
    (same : first.find? other = second.find? other) :
    CacheMap.value options later first other = CacheMap.value options later second other := by
  unfold CacheMap.value CacheMap.current
  rw [Keyed.find?_restrict, Keyed.find?_restrict, same]

/-- A call on one key changes what another key has only by the eviction of it. -/
theorem mapStep_other {timed : TimedCall} {key other : CacheKey} (about : timed.2.key? = some key)
    (apart : key ≠ other) (kept : ¬ Displaces options map timed other) {later : Timestamp}
    (order : timed.1 ≤ later) :
    CacheMap.value options later (mapStep options map timed).2 other =
      CacheMap.value options later map other := by
  obtain ⟨now, cacheCall⟩ := timed
  have current : CacheMap.value options later (CacheMap.current options now map) other =
      CacheMap.value options later map other := by
    rw [CacheMap.value, CacheMap.value, CacheMap.current_current order]
  cases cacheCall with
  | get | has => exact current
  | put named result =>
      obtain rfl : named = key := Option.some.inj about
      refine Eq.trans (CacheMap.value_congr later ?_) current
      show (CacheMap.put options (CacheMap.current options now map) named result).find? other = _
      rw [CacheMap.put, Keyed.find?_put_of_ne _ _ apart]
      split
      · rename_i evicts
        exact Keyed.find?_popFirst _ (fun first => kept ⟨named, result, rfl, evicts, first⟩)
      · rfl
  | invalidate named =>
      obtain rfl : named = key := Option.some.inj about
      refine Eq.trans (CacheMap.value_congr later ?_) current
      show ((CacheMap.current options now map).erase named).find? other = _
      rw [Keyed.find?_erase, if_neg (Ne.symm apart)]
  | clear => cases about

/-- The backend answers as the map does, in which a call on one key leaves what the others have,
but for the one it evicts. -/
structure RefinesMap (options : OcrCacheOptions) (calls : List TimedCall) : Prop where
  answers : (run (cacheStep options) .create calls).1 = (run (mapStep options) .empty calls).1
  others : ∀ front timed back key other later, calls = front ++ timed :: back →
    timed.2.key? = some key → key ≠ other →
    ¬ Displaces options (run (mapStep options) .empty front).2 timed other → timed.1 ≤ later →
    CacheMap.value options later (run (mapStep options) .empty (front ++ [timed])).2 other =
      CacheMap.value options later (run (mapStep options) .empty front).2 other

theorem cache_refines (options : OcrCacheOptions) (calls : List TimedCall) (ordered : Ordered calls)
    (fits : Along (jointStep options) (CacheFits options) (.create, .empty) calls) :
    RefinesMap options calls where
  answers :=
    have start : Related options 0 Keyed.empty Keyed.empty := ⟨rfl, fun _ _ => Nat.zero_le _⟩
    run_refines .create start (fun _ _ => Nat.zero_le _) ordered fits
  others := by
    intro front timed back key other later _ about apart kept order
    rw [run_append_state]
    exact mapStep_other about apart kept order

theorem algorithms_ne_empty : "sha256" ≠ "" ∧ "md5" ≠ "" := by decide

theorem digest_ne_empty : "9e107d9d" ≠ "" := by decide

def bySha : CacheKey := ⟨"sha256", "9e107d9d", algorithms_ne_empty.1, digest_ne_empty⟩

def byMd5 : CacheKey := ⟨"md5", "9e107d9d", algorithms_ne_empty.2, digest_ne_empty⟩

theorem none_positive (bound : Nat) (unset : (none : Option Nat) = some bound) : 0 < bound := by
  cases unset

/-- No time to live and no limit. -/
def unlimited : OcrCacheOptions := ⟨none, none, none_positive, none_positive⟩

/-- Entries live for a second, and there is room for two. -/
def briefPair : OcrCacheOptions :=
  ⟨some 1, some 2, fun _ same => by cases same; decide, fun _ same => by cases same; decide⟩

def pageKey (digest : String) (named : digest ≠ "") : CacheKey :=
  ⟨"sha256", digest, algorithms_ne_empty.1, named⟩

/-- The recognised text of a page, as it is put at a time. -/
def recognised (key : CacheKey) (now : Timestamp) : CachedOcrResult :=
  ⟨key, "Art. 1", 1, now, .nil, by decide⟩

/-- The third key takes the room of the first; the second one's entry expires, is read and put
again; last, the first key takes the room of the third, which has expired. -/
def evictedAndExpired : List TimedCall :=
  let first := pageKey "9e107d9d" (by decide)
  let second := pageKey "e4d909c2" (by decide)
  let third := pageKey "7215ee9c" (by decide)
  [(0, .put first (recognised first 0)), (0, .put second (recognised second 0)),
    (500000, .put third (recognised third 500000)), (500000, .get first),
    (1200000, .get second), (1200000, .has third),
    (1300000, .put second (recognised second 1300000)),
    (2000000, .put first (recognised first 2000000)), (2000000, .has second)]

theorem evicted_and_expired_refine :
    RefinesMap briefPair evictedAndExpired ∧
      (run (cacheStep briefPair) .create evictedAndExpired).1 =
        [.unit, .unit, .unit, .found none, .found none, .holds true, .unit, .unit,
          .holds true] := by
  refine ⟨cache_refines briefPair evictedAndExpired ?_ (by decide +kernel), by decide +kernel⟩
  unfold Ordered
  decide

/-- A result that is put under one algorithm's key is there under the other's. -/
theorem algorithms_confused :
    ¬ RefinesMap unlimited [(0, .put byMd5 (recognised byMd5 0)), (1, .has bySha)] := by
  intro refines
  exact absurd refines.answers (by decide)

end LexMind.Ocr
