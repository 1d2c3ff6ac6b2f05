import LexMind.Lib.FifoMap
import LexMind.Lib.Run

set_option autoImplicit false

/- Trailing debounce: of the items of one key only the last is kept, and it is
released once its key has been quiet for the item's window. -/
namespace Lib.Debounce

/-- An item and when it arrived. -/
structure Waiting (π : Type) where
  since : Int
  item : π

variable {κ π : Type} [DecidableEq κ]

/-- The items that wait, at most one for each key. -/
abbrev Buffer (key : π → κ) := Keyed (fun waiting : Waiting π => key waiting.item)

inductive Op (π : Type)
  | item (item : π) (now : Int)
  | flush (now : Int)

def Op.time : Op π → Int
  | .item _ now => now
  | .flush now => now

/-- Which keys the items have, how long they wait, and which are let in. -/
structure Policy (κ π : Type) where
  key : π → κ
  window : π → Int
  accepts : π → Bool

variable (policy : Policy κ π)

def isDue (now : Int) (waiting : Waiting π) : Bool :=
  policy.window waiting.item ≤ now - waiting.since

/-- An accepted item takes the place of the one of its key. -/
def arrive (buffer : Buffer policy.key) : Op π → Buffer policy.key
  | .item item now => if policy.accepts item then buffer.put ⟨now, item⟩ else buffer
  | .flush _ => buffer

/-- What a call releases: an accepted item, what is due; a flush, all. -/
def releases : Op π → Waiting π → Bool
  | .item item now, waiting => policy.accepts item && isDue policy now waiting
  | .flush _, _ => true

def step (buffer : Buffer policy.key) (op : Op π) : List π × Buffer policy.key :=
  (((arrive policy buffer op).rows.filter (releases policy op)).map Waiting.item,
    (arrive policy buffer op).restrict (fun waiting => !releases policy op waiting))

variable {policy} {buffer : Buffer policy.key} {op : Op π} {waiting : Waiting π}

/-- An item that is not let in changes nothing. -/
theorem step_of_rejected {item : π} (rejected : policy.accepts item = false) (now : Int) :
    step policy buffer (.item item now) = ([], buffer) := by
  have none : releases policy (.item item now) = fun _ => false := by
    funext waiting
    simp [releases, rejected]
  have kept : arrive policy buffer (.item item now) = buffer := by simp [arrive, rejected]
  rw [step, none, kept]
  exact Prod.ext (by simp) (Keyed.ext_rows (List.filter_eq_self.mpr (fun _ _ => rfl)))

theorem step_of_accepted {item : π} (accepted : policy.accepts item = true) (now : Int) :
    step policy buffer (.item item now) =
      ((((buffer.put ⟨now, item⟩).rows.filter (isDue policy now)).map Waiting.item),
        (buffer.put ⟨now, item⟩).restrict (fun waiting => !isDue policy now waiting)) := by
  have due : releases policy (.item item now) = isDue policy now := by
    funext waiting
    simp [releases, accepted]
  have arrived : arrive policy buffer (.item item now) = buffer.put ⟨now, item⟩ := by
    simp [arrive, accepted]
  rw [step, due, arrived]

theorem mem_released {item : π} :
    item ∈ (step policy buffer op).1 ↔
      ∃ waiting ∈ (arrive policy buffer op).rows, releases policy op waiting = true ∧
        waiting.item = item := by
  simp [step, and_assoc]

theorem mem_left :
    waiting ∈ (step policy buffer op).2.rows ↔
      waiting ∈ (arrive policy buffer op).rows ∧ releases policy op waiting = false := by
  simp [step]

/-- The call takes the place of an item of this key. -/
def Replaces (policy : Policy κ π) (op : Op π) (k : κ) : Prop :=
  ∃ item now, op = .item item now ∧ policy.accepts item = true ∧ policy.key item = k

theorem mem_arrive :
    waiting ∈ (arrive policy buffer op).rows ↔
      (op = .item waiting.item waiting.since ∧ policy.accepts waiting.item = true) ∨
        waiting ∈ buffer.rows ∧ ¬ Replaces policy op (policy.key waiting.item) := by
  obtain ⟨since, held⟩ := waiting
  cases op with
  | flush now => simp [arrive, Replaces]
  | item item now =>
      by_cases accepted : policy.accepts item = true
      · rw [arrive, if_pos accepted, Keyed.mem_put]
        constructor
        · rintro (same | ⟨inside, apart⟩)
          · cases same
            exact .inl ⟨rfl, accepted⟩
          · refine .inr ⟨inside, ?_⟩
            rintro ⟨_, _, ⟨⟩, _, same⟩
            exact apart same.symm
        · rintro (⟨⟨⟩, _⟩ | ⟨inside, kept⟩)
          · exact .inl rfl
          · exact .inr ⟨inside, fun same => kept ⟨item, now, rfl, accepted, same.symm⟩⟩
      · rw [arrive, if_neg accepted]
        constructor
        · intro inside
          refine .inr ⟨inside, ?_⟩
          rintro ⟨_, _, ⟨⟩, admitted, _⟩
          exact accepted admitted
        · rintro (⟨⟨⟩, admitted⟩ | ⟨inside, _⟩)
          · exact absurd admitted accepted
          · exact inside

theorem arrived_released_or_left (arrived : waiting ∈ (arrive policy buffer op).rows) :
    waiting.item ∈ (step policy buffer op).1 ∨ waiting ∈ (step policy buffer op).2.rows := by
  cases free : releases policy op waiting with
  | true => exact .inl (mem_released.mpr ⟨waiting, arrived, free, rfl⟩)
  | false => exact .inr (mem_left.mpr ⟨arrived, free⟩)

/-- What waits is released or goes on waiting, unless an item of its key comes. -/
theorem released_or_left (inside : waiting ∈ buffer.rows)
    (kept : ¬ Replaces policy op (policy.key waiting.item)) :
    waiting.item ∈ (step policy buffer op).1 ∨ waiting ∈ (step policy buffer op).2.rows :=
  arrived_released_or_left (mem_arrive.mpr (.inr ⟨inside, kept⟩))

theorem run_released_or_left {calls : List (Op π)} (inside : waiting ∈ buffer.rows)
    (kept : ∀ op ∈ calls, ¬ Replaces policy op (policy.key waiting.item)) :
    waiting.item ∈ (run (step policy) buffer calls).1.flatten ∨
      waiting ∈ (run (step policy) buffer calls).2.rows := by
  induction calls generalizing buffer with
  | nil => exact .inr inside
  | cons op rest ih =>
      rcases released_or_left inside (kept op List.mem_cons_self) with released | left
      · exact .inl (List.mem_append_left _ released)
      · rcases ih left (fun other member => kept other (List.mem_cons_of_mem op member)) with
          later | waits
        · exact .inl (List.mem_append_right _ later)
        · exact .inr waits

/-- Whether a call is one that the service handles; those that are let in always are. -/
def handles (policy : Policy κ π) (filteredCount : Bool) : Op π → Bool
  | .item item _ => policy.accepts item || filteredCount
  | .flush _ => true

/-- No item comes for a key whose item is due; where calls that are filtered out count as handled,
none of them comes while an item is due. -/
def Spares (policy : Policy κ π) (filteredCount : Bool) (buffer : Buffer policy.key) : Op π → Prop
  | .item item now =>
      if policy.accepts item then
        ∀ waiting ∈ buffer.rows, policy.key waiting.item = policy.key item →
          isDue policy now waiting = false
      else filteredCount = true → ∀ waiting ∈ buffer.rows, isDue policy now waiting = false
  | .flush _ => True

variable {filteredCount : Bool}

/-- A handled call that spares what is due releases what its time makes due. -/
theorem released_when_due (inside : waiting ∈ buffer.rows)
    (spares : Spares policy filteredCount buffer op)
    (handled : handles policy filteredCount op = true)
    (passed : waiting.since + policy.window waiting.item ≤ op.time) :
    waiting.item ∈ (step policy buffer op).1 := by
  apply mem_released.mpr
  cases op with
  | flush now => exact ⟨waiting, inside, rfl, rfl⟩
  | item item now =>
      have due : isDue policy now waiting = true := by
        have window : waiting.since + policy.window waiting.item ≤ now := passed
        simp only [isDue, decide_eq_true_eq]
        omega
      dsimp only [Spares] at spares
      by_cases accepted : policy.accepts item = true
      · rw [if_pos accepted] at spares
        have kept : ¬ Replaces policy (.item item now) (policy.key waiting.item) := by
          rintro ⟨_, _, ⟨⟩, _, same⟩
          rw [spares waiting inside same.symm] at due
          cases due
        exact ⟨waiting, mem_arrive.mpr (.inr ⟨inside, kept⟩), by simp [releases, accepted, due], rfl⟩
      · rw [if_neg accepted] at spares
        have counted : filteredCount = true := by simpa [handles, accepted] using handled
        rw [spares counted waiting inside] at due
        cases due

/-- What has arrived is released by the end of a run without another of its key that ends with a
handled call after its window. -/
theorem released_in_burst {item : π} {now : Int} {middle : List (Op π)} {last : Op π}
    (accepted : policy.accepts item = true)
    (quiet : ∀ op ∈ middle, ¬ Replaces policy op (policy.key item))
    (spares : Along (step policy) (Spares policy filteredCount) buffer
      (.item item now :: (middle ++ [last])))
    (handled : handles policy filteredCount last = true)
    (passed : now + policy.window item ≤ last.time) :
    item ∈ (run (step policy) buffer (.item item now :: (middle ++ [last]))).1.flatten := by
  have arrived : (⟨now, item⟩ : Waiting π) ∈ (arrive policy buffer (.item item now)).rows :=
    mem_arrive.mpr (.inl ⟨rfl, accepted⟩)
  have answers : (run (step policy) buffer (.item item now :: (middle ++ [last]))).1.flatten =
      (step policy buffer (.item item now)).1 ++
        (run (step policy) (step policy buffer (.item item now)).2 (middle ++ [last])).1.flatten := rfl
  rw [answers, run_append_answers, List.flatten_append]
  have ending := ((along_append _ _ _ _ _).mp spares.2).2.1
  rcases arrived_released_or_left arrived with released | left
  · exact List.mem_append_left _ released
  · apply List.mem_append_right
    rcases run_released_or_left left quiet with released | waits
    · exact List.mem_append_left _ released
    · apply List.mem_append_right
      have released := released_when_due waits ending handled passed
      simpa [run] using released

section Counting

variable [DecidableEq π]

/-- How often an item waits: at most once, where it arrives once. -/
def held (buffer : Buffer policy.key) (item : π) : Nat :=
  (buffer.rows.map Waiting.item).count item

def Op.item? : Op π → Option π
  | .item arriving _ => some arriving
  | .flush _ => none

theorem held_arrive_le (item : π) :
    held (arrive policy buffer op) item ≤ held buffer item + (op.item?.toList).count item := by
  cases op with
  | flush now => exact Nat.le_add_right _ _
  | item arriving now =>
      have put : held (buffer.put ⟨now, arriving⟩) item ≤
          held buffer item + if arriving = item then 1 else 0 :=
        Keyed.count_putRows_le Waiting.item buffer.distinct item
      have once : [arriving].count item = if arriving = item then 1 else 0 := by
        simp [List.count_singleton]
      by_cases accepted : policy.accepts arriving = true
      · rw [arrive, if_pos accepted]
        exact once ▸ put
      · rw [arrive, if_neg accepted]
        exact Nat.le_add_right _ _

/-- What is released and what is left was there, or arrived. -/
theorem released_add_held_le (item : π) :
    (step policy buffer op).1.count item + held (step policy buffer op).2 item ≤
      held buffer item + (op.item?.toList).count item := by
  have parts := ((arrive policy buffer op).rows.filter_append_perm
    (releases policy op)).map Waiting.item
  have whole : (step policy buffer op).1.count item + held (step policy buffer op).2 item =
      held (arrive policy buffer op) item := by
    rw [held, held, ← parts.count_eq item, List.map_append, List.count_append]
    rfl
  rw [whole]
  exact held_arrive_le item

/-- Over a run, an item is released at most as often as it was there or arrived. -/
theorem run_released_add_held_le (calls : List (Op π)) (item : π) :
    (run (step policy) buffer calls).1.flatten.count item +
        held (run (step policy) buffer calls).2 item ≤
      held buffer item + (calls.filterMap Op.item?).count item := by
  induction calls generalizing buffer with
  | nil => simp
  | cons op rest ih =>
      have first : (step policy buffer op).1.count item + held (step policy buffer op).2 item ≤
          held buffer item + (op.item?.toList).count item := released_add_held_le item
      have later := @ih (step policy buffer op).2
      have arriving : ((op :: rest).filterMap Op.item?).count item =
          (op.item?.toList).count item + (rest.filterMap Op.item?).count item := by
        cases op with
        | flush now => exact (Nat.zero_add _).symm
        | item arriving now =>
            rw [List.filterMap_cons_some (rfl : Op.item? (.item arriving now) = some arriving),
              List.count_cons]
            simp [Op.item?, List.count_singleton, Nat.add_comm]
      have released : (run (step policy) buffer (op :: rest)).1.flatten.count item =
          (step policy buffer op).1.count item +
            (run (step policy) (step policy buffer op).2 rest).1.flatten.count item :=
        List.count_append
      rw [arriving, released, run_cons_state]
      omega

/-- An accepted item, after which no other of its key is accepted until a handled call finds its
window passed, is released once, and not after that call. -/
def ReleasesBursts (policy : Policy κ π) (filteredCount : Bool) (calls : List (Op π)) : Prop :=
  ∀ front item now middle last back,
    calls = front ++ .item item now :: (middle ++ last :: back) → policy.accepts item = true →
    (∀ op ∈ middle, ¬ Replaces policy op (policy.key item)) →
    handles policy filteredCount last = true → now + policy.window item ≤ last.time →
    (run (step policy) .empty (front ++ .item item now :: (middle ++ [last]))).1.flatten.count item = 1 ∧
      (run (step policy) .empty calls).1.flatten.count item = 1

/-- The items of the calls are different things. -/
def Distinct (calls : List (Op π)) : Prop := (calls.filterMap Op.item?).Nodup

theorem released_at_most_once {calls : List (Op π)} (distinct : Distinct calls) (item : π) :
    (run (step policy) .empty calls).1.flatten.count item ≤ 1 := by
  have bound : (run (step policy) .empty calls).1.flatten.count item +
      held (run (step policy) .empty calls).2 item ≤
        held (.empty : Buffer policy.key) item + (calls.filterMap Op.item?).count item :=
    run_released_add_held_le calls item
  have once := List.nodup_iff_count_le_one.mp distinct item
  have none : held (.empty : Buffer policy.key) item = 0 := rfl
  omega

/-- In a run that spares what is due, every completed burst is released once. -/
theorem releases_bursts {calls : List (Op π)} (distinct : Distinct calls)
    (spares : Along (step policy) (Spares policy filteredCount) .empty calls) :
    ReleasesBursts policy filteredCount calls := by
  rintro front item now middle last back rfl accepted quiet handled passed
  let burst : List (Op π) := .item item now :: (middle ++ [last])
  have split : front ++ .item item now :: (middle ++ last :: back) = (front ++ burst) ++ back := by
    simp [burst]
  rw [split] at distinct spares ⊢
  have along := ((along_append _ _ _ _ _).mp ((along_append _ _ _ _ _).mp spares).1).2
  have released := released_in_burst accepted quiet along handled passed
  have within : item ∈ (run (step policy) .empty (front ++ burst)).1.flatten := by
    rw [run_append_answers, List.flatten_append]
    exact List.mem_append_right _ released
  have overall : item ∈ (run (step policy) .empty ((front ++ burst) ++ back)).1.flatten := by
    rw [run_append_answers, List.flatten_append]
    exact List.mem_append_left _ within
  have fewer : Distinct (front ++ burst) := by
    unfold Distinct at distinct
    rw [List.filterMap_append] at distinct
    exact distinct.of_append_left
  exact ⟨Nat.le_antisymm (released_at_most_once fewer item) (List.count_pos_iff.mpr within),
    Nat.le_antisymm (released_at_most_once distinct item) (List.count_pos_iff.mpr overall)⟩

end Counting

end Lib.Debounce
