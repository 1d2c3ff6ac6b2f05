import LexMind.Lib.Debounce

set_option autoImplicit false

/- Two parties that share a debouncing buffer: what the one's items owe to the
other's calls. -/
namespace Lib.Debounce

variable {κ π : Type} [DecidableEq κ]

/-- A call, and whether it is the first party's own. -/
abbrev Owned (π : Type) := Bool × Op π

/-- The calls that are left without the other party's. -/
def ownCalls (calls : List (Owned π)) : List (Op π) := (calls.filter Prod.fst).map Prod.snd

/-- The buffer that both share, the one the first party would have alone, and what each of the two
runs has released so far. -/
structure Sharing (policy : Policy κ π) where
  shared : Buffer policy.key
  alone : Buffer policy.key
  released : List π
  releasedAlone : List π

variable (policy : Policy κ π)

def aloneStep (alone : Buffer policy.key) (call : Owned π) : List π × Buffer policy.key :=
  if call.1 then step policy alone call.2 else ([], alone)

def shareStep (state : Sharing policy) (call : Owned π) : Unit × Sharing policy :=
  ((), {
    shared := (step policy state.shared call.2).2
    alone := (aloneStep policy state.alone call).2
    released := state.released ++ (step policy state.shared call.2).1
    releasedAlone := state.releasedAlone ++ (aloneStep policy state.alone call).1 })

/-- The other party's items take no place of the first one's, and its flushes release only what is
due of them. An item of the first party finds no earlier one that it would still find alone, but
that the other's calls have released. -/
def Undisturbed (mine : π → Bool) (state : Sharing policy) : Owned π → Prop
  | (true, .item item _) => policy.accepts item = true →
      ∀ waiting ∈ state.alone.rows, policy.key waiting.item = policy.key item →
        waiting ∈ state.shared.rows
  | (false, .item item _) => policy.accepts item = true →
      ∀ waiting ∈ state.shared.rows, policy.key waiting.item = policy.key item →
        mine waiting.item = false
  | (true, .flush _) => True
  | (false, .flush now) => ∀ waiting ∈ state.shared.rows, mine waiting.item = true →
      isDue policy now waiting = true

/-- What the shared buffer and the one of the first party alone have to do with each other. -/
structure Shares (mine : π → Bool) (shared alone : Buffer policy.key)
    (released releasedAlone : List π) : Prop where
  own : ∀ waiting ∈ shared.rows, mine waiting.item = true → waiting ∈ alone.rows
  ours : ∀ waiting ∈ alone.rows, mine waiting.item = true
  back : ∀ waiting ∈ alone.rows, waiting ∈ shared.rows ∨ waiting.item ∈ released
  gone : ∀ waiting ∈ shared.rows, waiting.item ∉ released
  ahead : ∀ item ∈ released, mine item = true →
    item ∈ releasedAlone ∨ ∃ waiting ∈ alone.rows, waiting.item = item
  behind : ∀ item ∈ releasedAlone, item ∈ released

variable {policy} {mine : π → Bool} {shared alone : Buffer policy.key}
  {released releasedAlone : List π}

theorem mem_filter_items {rows : List (Waiting π)} {free : Waiting π → Bool} {item : π} :
    item ∈ (rows.filter free).map Waiting.item ↔
      ∃ waiting ∈ rows, free waiting = true ∧ waiting.item = item := by
  simp [and_assoc]

omit [DecidableEq κ] in
theorem mem_restrict_not {buffer : Buffer policy.key} {free : Waiting π → Bool}
    {waiting : Waiting π} :
    waiting ∈ (buffer.restrict (fun waiting => !free waiting)).rows ↔
      waiting ∈ buffer.rows ∧ free waiting = false := by
  simp

omit [DecidableEq κ] in
/-- Both release some of what waits, the first party alone no more than the shared buffer. -/
theorem Shares.release (shares : Shares policy mine shared alone released releasedAlone)
    {free freeAlone : Waiting π → Bool}
    (fewer : ∀ waiting, freeAlone waiting = true → free waiting = true) :
    Shares policy mine (shared.restrict (fun waiting => !free waiting))
      (alone.restrict (fun waiting => !freeAlone waiting))
      (released ++ (shared.rows.filter free).map Waiting.item)
      (releasedAlone ++ (alone.rows.filter freeAlone).map Waiting.item) where
  own := by
    intro waiting left ours
    obtain ⟨inside, kept⟩ := mem_restrict_not.mp left
    refine mem_restrict_not.mpr ⟨shares.own waiting inside ours, ?_⟩
    apply eq_false_of_ne_true
    intro freed
    rw [fewer waiting freed] at kept
    cases kept
  ours := fun waiting left => shares.ours waiting (mem_restrict_not.mp left).1
  back := by
    intro waiting left
    rcases shares.back waiting (mem_restrict_not.mp left).1 with inside | before
    · cases freed : free waiting with
      | true =>
          exact .inr (List.mem_append_right _ (mem_filter_items.mpr ⟨waiting, inside, freed, rfl⟩))
      | false => exact .inl (mem_restrict_not.mpr ⟨inside, freed⟩)
    · exact .inr (List.mem_append_left _ before)
  gone := by
    intro waiting left member
    obtain ⟨inside, kept⟩ := mem_restrict_not.mp left
    rcases List.mem_append.mp member with before | now
    · exact shares.gone waiting inside before
    · obtain ⟨other, there, freed, same⟩ := mem_filter_items.mp now
      have equal := shared.eq_of_key_eq there inside (congrArg policy.key same)
      rw [equal, kept] at freed
      cases freed
  ahead := by
    intro item member ours
    have waits : item ∈ releasedAlone ∨ ∃ waiting ∈ alone.rows, waiting.item = item := by
      rcases List.mem_append.mp member with before | now
      · exact shares.ahead item before ours
      · obtain ⟨waiting, inside, _, rfl⟩ := mem_filter_items.mp now
        exact .inr ⟨waiting, shares.own waiting inside ours, rfl⟩
    rcases waits with before | ⟨waiting, inside, rfl⟩
    · exact .inl (List.mem_append_left _ before)
    · cases freed : freeAlone waiting with
      | true =>
          exact .inl (List.mem_append_right _ (mem_filter_items.mpr ⟨waiting, inside, freed, rfl⟩))
      | false => exact .inr ⟨waiting, mem_restrict_not.mpr ⟨inside, freed⟩, rfl⟩
  behind := by
    intro item member
    rcases List.mem_append.mp member with before | now
    · exact List.mem_append_left _ (shares.behind item before)
    · obtain ⟨waiting, inside, freed, rfl⟩ := mem_filter_items.mp now
      rcases shares.back waiting inside with there | before
      · exact List.mem_append_right _
          (mem_filter_items.mpr ⟨waiting, there, fewer waiting freed, rfl⟩)
      · exact List.mem_append_left _ before

theorem gone_arrive {buffer : Buffer policy.key} {item : π} {now : Int}
    (gone : ∀ waiting ∈ buffer.rows, waiting.item ∉ released) (fresh : item ∉ released) :
    ∀ waiting ∈ (arrive policy buffer (.item item now)).rows, waiting.item ∉ released := by
  intro waiting arrived
  rcases mem_arrive.mp arrived with ⟨same, _⟩ | ⟨inside, _⟩
  · cases same
    exact fresh
  · exact gone waiting inside

/-- An item of the first party arrives in both. -/
theorem Shares.arrive_own (shares : Shares policy mine shared alone released releasedAlone)
    {item : π} {now : Int} (ours : mine item = true) (fresh : item ∉ released)
    (found : policy.accepts item = true → ∀ waiting ∈ alone.rows,
      policy.key waiting.item = policy.key item → waiting ∈ shared.rows) :
    Shares policy mine (arrive policy shared (.item item now)) (arrive policy alone (.item item now))
      released releasedAlone where
  own := by
    intro waiting arrived mineOnly
    rcases mem_arrive.mp arrived with new | ⟨inside, kept⟩
    · exact mem_arrive.mpr (.inl new)
    · exact mem_arrive.mpr (.inr ⟨shares.own waiting inside mineOnly, kept⟩)
  ours := by
    intro waiting arrived
    rcases mem_arrive.mp arrived with ⟨same, _⟩ | ⟨inside, _⟩
    · cases same
      exact ours
    · exact shares.ours waiting inside
  back := by
    intro waiting arrived
    rcases mem_arrive.mp arrived with new | ⟨inside, kept⟩
    · exact .inl (mem_arrive.mpr (.inl new))
    · rcases shares.back waiting inside with there | before
      · exact .inl (mem_arrive.mpr (.inr ⟨there, kept⟩))
      · exact .inr before
  gone := gone_arrive shares.gone fresh
  ahead := by
    intro other member mineOnly
    rcases shares.ahead other member mineOnly with before | ⟨waiting, inside, rfl⟩
    · exact .inl before
    · refine .inr ⟨waiting, mem_arrive.mpr (.inr ⟨inside, ?_⟩), rfl⟩
      -- An item that is replaced alone waits in the shared buffer too, and so has not been released.
      rintro ⟨_, _, ⟨⟩, accepted, same⟩
      exact shares.gone waiting (found accepted waiting inside same.symm) member
  behind := shares.behind

/-- An item of the other party arrives in the shared buffer. -/
theorem Shares.arrive_other (shares : Shares policy mine shared alone released releasedAlone)
    {item : π} {now : Int} (theirs : mine item = false) (fresh : item ∉ released)
    (apart : policy.accepts item = true → ∀ waiting ∈ shared.rows,
      policy.key waiting.item = policy.key item → mine waiting.item = false) :
    Shares policy mine (arrive policy shared (.item item now)) alone released releasedAlone where
  own := by
    intro waiting arrived ours
    rcases mem_arrive.mp arrived with ⟨same, _⟩ | ⟨inside, _⟩
    · cases same
      rw [theirs] at ours
      cases ours
    · exact shares.own waiting inside ours
  ours := shares.ours
  back := by
    intro waiting inside
    rcases shares.back waiting inside with there | before
    · refine .inl (mem_arrive.mpr (.inr ⟨there, ?_⟩))
      rintro ⟨_, _, ⟨⟩, accepted, same⟩
      have ours := shares.ours waiting inside
      rw [apart accepted waiting there same.symm] at ours
      cases ours
    · exact .inr before
  gone := gone_arrive shares.gone fresh
  ahead := shares.ahead
  behind := shares.behind

def Sharing.Sound (mine : π → Bool) (state : Sharing policy) : Prop :=
  Shares policy mine state.shared state.alone state.released state.releasedAlone

theorem shareStep_sound {state : Sharing policy} (sound : state.Sound mine) {call : Owned π}
    (clear : Undisturbed policy mine state call)
    (owned : ∀ item now, call.2 = .item item now → mine item = call.1)
    (fresh : ∀ item now, call.2 = .item item now → item ∉ state.released) :
    (shareStep policy state call).2.Sound mine := by
  obtain ⟨own, op⟩ := call
  cases own with
  | true =>
      have arrived : Shares policy mine (arrive policy state.shared op)
          (arrive policy state.alone op) state.released state.releasedAlone := by
        cases op with
        | flush now => exact sound
        | item item now => exact sound.arrive_own (owned item now rfl) (fresh item now rfl) clear
      have same : ∀ waiting, releases policy op waiting = true → releases policy op waiting = true :=
        fun _ freed => freed
      exact arrived.release same
  | false =>
      have arrived : Shares policy mine (arrive policy state.shared op) state.alone
          state.released state.releasedAlone := by
        cases op with
        | flush now => exact sound
        | item item now => exact sound.arrive_other (owned item now rfl) (fresh item now rfl) clear
      have none : ∀ waiting : Waiting π, (fun _ => false) waiting = true →
          releases policy op waiting = true := by
        rintro waiting ⟨⟩
      have released := arrived.release none
      have kept : state.alone.restrict (fun _ => !false) = state.alone :=
        Keyed.ext_rows (List.filter_eq_self.mpr (fun _ _ => rfl))
      have nothing : state.alone.rows.filter (fun _ => false) = [] :=
        List.filter_eq_nil_iff.mpr (by simp)
      rw [kept, nothing] at released
      exact released

/-- The items to come. -/
def toCome (calls : List (Owned π)) : List π := (calls.map Prod.snd).filterMap Op.item?

/-- None of the items to come has been released or waits. -/
structure Before (state : Sharing policy) (calls : List (Owned π)) : Prop where
  released : ∀ item ∈ toCome calls, item ∉ state.released
  waiting : ∀ item ∈ toCome calls, ∀ waiting ∈ state.shared.rows, waiting.item ≠ item

theorem toCome_cons (call : Owned π) (rest : List (Owned π)) :
    toCome (call :: rest) = call.2.item?.toList ++ toCome rest := by
  obtain ⟨own, op⟩ := call
  cases op <;> rfl

theorem Before.step {state : Sharing policy} {call : Owned π} {rest : List (Owned π)}
    (before : Before state (call :: rest)) (distinct : (toCome (call :: rest)).Nodup) :
    Before (shareStep policy state call).2 rest := by
  rw [toCome_cons] at distinct
  have later : ∀ item ∈ toCome rest, item ∈ toCome (call :: rest) := by
    intro item inside
    rw [toCome_cons]
    exact List.mem_append_right _ inside
  have arrived : ∀ item ∈ toCome rest, ∀ waiting ∈ (arrive policy state.shared call.2).rows,
      waiting.item ≠ item := by
    intro item inside waiting there
    rcases mem_arrive.mp there with ⟨same, _⟩ | ⟨old, _⟩
    · rw [same] at distinct
      exact fun equal => (List.nodup_append.mp distinct).2.2 _ List.mem_cons_self _ inside equal
    · exact before.waiting item (later item inside) waiting old
  constructor
  · intro item inside member
    rcases List.mem_append.mp member with old | new
    · exact before.released item (later item inside) old
    · obtain ⟨waiting, there, _, same⟩ := mem_released.mp new
      exact arrived item inside waiting there same
  · intro item inside waiting left
    exact arrived item inside waiting (mem_left.mp left).1

/-- Each item belongs to the party whose call it is. -/
def OwnersAgree (mine : π → Bool) (calls : List (Owned π)) : Prop :=
  ∀ call ∈ calls, ∀ item now, call.2 = .item item now → mine item = call.1

theorem run_sound {state : Sharing policy} {calls : List (Owned π)} (sound : state.Sound mine)
    (before : Before state calls) (distinct : (toCome calls).Nodup)
    (owned : OwnersAgree mine calls)
    (clear : Along (shareStep policy) (Undisturbed policy mine) state calls) :
    (run (shareStep policy) state calls).2.Sound mine := by
  induction calls generalizing state with
  | nil => exact sound
  | cons call rest ih =>
      have fresh : ∀ item now, call.2 = .item item now → item ∉ state.released := by
        intro item now same
        apply before.released
        rw [toCome_cons, same]
        exact List.mem_append_left _ List.mem_cons_self
      have next := shareStep_sound sound clear.1 (owned call List.mem_cons_self) fresh
      have apart : (toCome rest).Nodup := by
        rw [toCome_cons] at distinct
        exact distinct.of_append_right
      exact ih next (before.step distinct) apart
        (fun other inside => owned other (List.mem_cons_of_mem call inside)) clear.2

/-- The shared run, with what it has released. -/
theorem run_shared (state : Sharing policy) (calls : List (Owned π)) :
    (run (shareStep policy) state calls).2.shared =
        (run (step policy) state.shared (calls.map Prod.snd)).2 ∧
      (run (shareStep policy) state calls).2.released =
        state.released ++ (run (step policy) state.shared (calls.map Prod.snd)).1.flatten := by
  induction calls generalizing state with
  | nil => exact ⟨rfl, (List.append_nil _).symm⟩
  | cons call rest ih =>
      obtain ⟨left, released⟩ := ih (shareStep policy state call).2
      refine ⟨left, ?_⟩
      rw [run_cons_state, released]
      exact List.append_assoc _ _ _

/-- The run of the first party's calls alone. -/
theorem run_alone (state : Sharing policy) (calls : List (Owned π)) :
    (run (shareStep policy) state calls).2.alone =
        (run (step policy) state.alone (ownCalls calls)).2 ∧
      (run (shareStep policy) state calls).2.releasedAlone =
        state.releasedAlone ++ (run (step policy) state.alone (ownCalls calls)).1.flatten := by
  induction calls generalizing state with
  | nil => exact ⟨rfl, (List.append_nil _).symm⟩
  | cons call rest ih =>
      obtain ⟨left, released⟩ := ih (shareStep policy state call).2
      obtain ⟨own, op⟩ := call
      cases own with
      | true =>
          refine ⟨left, ?_⟩
          rw [run_cons_state, released]
          exact List.append_assoc _ _ _
      | false =>
          refine ⟨left, ?_⟩
          rw [run_cons_state, released]
          exact congrArg (· ++ _) (List.append_nil _)

/-- Each item that waits has waited since it came. -/
theorem came_of_waiting {buffer : Buffer policy.key} {calls : List (Op π)} {waiting : Waiting π}
    (left : waiting ∈ (run (step policy) buffer calls).2.rows) :
    waiting ∈ buffer.rows ∨ .item waiting.item waiting.since ∈ calls := by
  induction calls generalizing buffer with
  | nil => exact .inl left
  | cons op rest ih =>
      rcases ih left with there | later
      · rcases mem_arrive.mp (mem_left.mp there).1 with ⟨same, _⟩ | ⟨old, _⟩
        · exact .inr (same ▸ List.mem_cons_self)
        · exact .inl old
      · exact .inr (List.mem_cons_of_mem op later)

/-- What both parties' calls release from an empty buffer. -/
def releasedBy (policy : Policy κ π) (calls : List (Op π)) : List π :=
  (run (step policy) .empty calls).1.flatten

/-- The first party's items are released as if its calls were the only ones, and no flush of the
other releases one of them before its window has passed. -/
structure Independent (policy : Policy κ π) (mine : π → Bool) (calls : List (Owned π)) : Prop where
  same : ∀ item, mine item = true →
    (item ∈ releasedBy policy (calls.map Prod.snd) ↔ item ∈ releasedBy policy (ownCalls calls))
  unhurried : ∀ front now back item came, calls = front ++ (false, .flush now) :: back →
    (true, .item item came) ∈ front →
    item ∈ (step policy (run (step policy) .empty (front.map Prod.snd)).2 (.flush now)).1 →
    came + policy.window item ≤ now

def Sharing.start : Sharing policy := ⟨.empty, .empty, [], []⟩

omit [DecidableEq κ] in
theorem start_sound : (Sharing.start : Sharing policy).Sound mine where
  own := by intro waiting inside; cases inside
  ours := by intro waiting inside; cases inside
  back := by intro waiting inside; cases inside
  gone := by intro waiting inside; cases inside
  ahead := by intro item inside; cases inside
  behind := by intro item inside; cases inside

omit [DecidableEq κ] in
theorem start_before (calls : List (Owned π)) : Before (Sharing.start : Sharing policy) calls :=
  ⟨fun _ _ => List.not_mem_nil, fun _ _ _ inside => absurd inside List.not_mem_nil⟩

theorem mem_items {calls : List (Op π)} {item : π} {now : Int} (inside : .item item now ∈ calls) :
    item ∈ calls.filterMap Op.item? :=
  List.mem_filterMap.mpr ⟨_, inside, rfl⟩

/-- An item comes at one time. -/
theorem came_once {calls : List (Op π)} (distinct : (calls.filterMap Op.item?).Nodup) {item : π}
    {first second : Int} (one : .item item first ∈ calls) (other : .item item second ∈ calls) :
    first = second := by
  induction calls with
  | nil => cases one
  | cons op rest ih =>
      rcases List.mem_cons.mp one with rfl | early
      · rcases List.mem_cons.mp other with same | late
        · cases same
          rfl
        · exact absurd (mem_items late) (List.nodup_cons.mp distinct).1
      · rcases List.mem_cons.mp other with rfl | late
        · exact absurd (mem_items early) (List.nodup_cons.mp distinct).1
        · refine ih ?_ early late
          cases op with
          | flush now => exact distinct
          | item arriving now => exact (List.nodup_cons.mp distinct).2

/-- At the other party's flush, the first one's items that wait are due. -/
theorem unhurried {front back : List (Owned π)} {now : Int} {item : π} {came : Int}
    (distinct : (toCome (front ++ (false, .flush now) :: back)).Nodup)
    (owned : OwnersAgree mine (front ++ (false, .flush now) :: back))
    (clear : Along (shareStep policy) (Undisturbed policy mine) .start
      (front ++ (false, .flush now) :: back))
    (inside : (true, .item item came) ∈ front)
    (released : item ∈
      (step policy (run (step policy) .empty (front.map Prod.snd)).2 (.flush now)).1) :
    came + policy.window item ≤ now := by
  have ours : mine item = true :=
    owned (true, .item item came) (List.mem_append_left _ inside) item came rfl
  have due := ((along_append _ _ _ _ _).mp clear).2.1
  obtain ⟨shared, _⟩ := run_shared (.start : Sharing policy) front
  obtain ⟨waiting, there, _, rfl⟩ := mem_released.mp released
  have window := due waiting (shared ▸ there) ours
  rcases came_of_waiting there with empty | arrived
  · cases empty
  · have first : (front.map Prod.snd).filterMap Op.item? <+:
        toCome (front ++ (false, .flush now) :: back) := by
      rw [toCome, List.map_append, List.filterMap_append]
      exact List.prefix_append _ _
    have same : came = waiting.since :=
      came_once (distinct.sublist first.sublist) (List.mem_map.mpr ⟨_, inside, rfl⟩) arrived
    simp only [isDue, decide_eq_true_eq] at window
    omega

/-- After a flush of the first party, its items have been released as if it were alone. -/
theorem same_released {body : List (Owned π)} {last : Int}
    (distinct : (toCome (body ++ [(true, Op.flush last)])).Nodup)
    (owned : OwnersAgree mine (body ++ [(true, Op.flush last)]))
    (clear : Along (shareStep policy) (Undisturbed policy mine) .start
      (body ++ [(true, Op.flush last)])) {item : π} (ours : mine item = true) :
    item ∈ releasedBy policy ((body ++ [(true, Op.flush last)]).map Prod.snd) ↔
      item ∈ releasedBy policy (ownCalls (body ++ [(true, Op.flush last)])) := by
  have sound := run_sound start_sound (start_before _) distinct owned clear
  obtain ⟨_, released⟩ := run_shared (.start : Sharing policy) (body ++ [(true, Op.flush last)])
  obtain ⟨_, releasedAlone⟩ := run_alone (.start : Sharing policy) (body ++ [(true, Op.flush last)])
  have emptied :
      (run (shareStep policy) .start (body ++ [(true, Op.flush last)])).2.alone.rows = [] := by
    rw [run_append_state]
    exact List.filter_eq_nil_iff.mpr (by simp [releases])
  have shares : item ∈ (run (shareStep policy) .start (body ++ [(true, Op.flush last)])).2.released ↔
      item ∈ (run (shareStep policy) .start (body ++ [(true, Op.flush last)])).2.releasedAlone := by
    constructor
    · intro member
      rcases sound.ahead item member ours with before | ⟨waiting, inside, _⟩
      · exact before
      · rw [emptied] at inside
        cases inside
    · exact sound.behind item
  rw [released, releasedAlone] at shares
  exact shares

/-- Where the other party's calls do not disturb it, the first one's items are released as alone. -/
theorem independent {body : List (Owned π)} {last : Int}
    (distinct : (toCome (body ++ [(true, Op.flush last)])).Nodup)
    (owned : OwnersAgree mine (body ++ [(true, Op.flush last)]))
    (clear : Along (shareStep policy) (Undisturbed policy mine) .start
      (body ++ [(true, Op.flush last)])) :
    Independent policy mine (body ++ [(true, Op.flush last)]) where
  same := fun _ ours => same_released distinct owned clear ours
  unhurried := by
    intro front now back item came split inside released
    rw [split] at distinct owned clear
    exact unhurried distinct owned clear inside released

end Lib.Debounce
