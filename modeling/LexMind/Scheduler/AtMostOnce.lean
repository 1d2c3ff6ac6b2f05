import LexMind.Lib.Holders
import LexMind.Scheduler.Interleaving

set_option autoImplicit false

namespace LexMind.Scheduler

open Lib

namespace Phase

/-- The caller has read the job as PENDING and will run it. -/
def claims (able : String → Bool) (id : String) : Phase → Bool
  | .dequeued job => job.id = id ∧ able job.jobType = true
  | _ => false

/-- RUNNING is stored and the handler is still to be called. -/
def startedOn (id : String) : Phase → Bool
  | .started job => job.id = id
  | _ => false

variable (able : String → Bool) (id : String) (job : Job) (now : Timestamp)

@[simp] theorem claims_idle : idle.claims able id = false := rfl
@[simp] theorem claims_started : (started job).claims able id = false := rfl
@[simp] theorem claims_handling : (handling job).claims able id = false := rfl
@[simp] theorem claims_retrying : (retrying job).claims able id = false := rfl
@[simp] theorem claims_requeueing : (requeueing job now).claims able id = false := rfl
@[simp] theorem claims_cancelling : (cancelling job).claims able id = false := rfl

theorem claims_dequeued :
    (dequeued job).claims able id = true ↔ job.id = id ∧ able job.jobType = true := by
  simp [claims]

@[simp] theorem startedOn_idle : idle.startedOn id = false := rfl
@[simp] theorem startedOn_dequeued : (dequeued job).startedOn id = false := rfl
@[simp] theorem startedOn_started : (started job).startedOn id = decide (job.id = id) := rfl
@[simp] theorem startedOn_handling : (handling job).startedOn id = false := rfl
@[simp] theorem startedOn_retrying : (retrying job).startedOn id = false := rfl
@[simp] theorem startedOn_requeueing : (requeueing job now).startedOn id = false := rfl
@[simp] theorem startedOn_cancelling : (cancelling job).startedOn id = false := rfl

end Phase

/-- How often the job has become PENDING since the observations began. -/
def entries (id : String) (store : JobStore) : Nat :=
  store.trace.count (.submitted id) + store.trace.count (.retried id)

def handlings (id : String) (store : JobStore) : Nat := store.trace.count (.handled id)

section Counts

variable (id : String) (store : JobStore) (job : Job)

@[simp] theorem entries_write : entries id (store.write job) = entries id store := by
  simp [entries]

@[simp] theorem handlings_write : handlings id (store.write job) = handlings id store := by
  simp [handlings]

@[simp] theorem entries_persist : entries id (store.persist job) = entries id store := by
  unfold JobStore.persist
  split <;> simp

@[simp] theorem handlings_persist : handlings id (store.persist job) = handlings id store := by
  unfold JobStore.persist
  split <;> simp

@[simp] theorem entries_handled (other : String) :
    entries id (store.observe (.handled other)) = entries id store := by
  simp [entries]

@[simp] theorem handlings_handled (other : String) :
    handlings id (store.observe (.handled other)) =
      handlings id store + (decide (other = id)).toNat := by
  by_cases same : other = id <;> simp [handlings, same]

@[simp] theorem entries_retried (other : String) :
    entries id (store.observe (.retried other)) =
      entries id store + (decide (other = id)).toNat := by
  by_cases same : other = id
  · simp [entries, same]
    omega
  · simp [entries, same]

@[simp] theorem handlings_retried (other : String) :
    handlings id (store.observe (.retried other)) = handlings id store := by
  simp [handlings]

@[simp] theorem entries_admitted :
    entries id (store.admitted job) = entries id store + (decide (job.id = id)).toNat := by
  by_cases same : job.id = id
  · simp [entries, JobStore.admitted, same]
    omega
  · simp [entries, JobStore.admitted, same]

@[simp] theorem handlings_admitted : handlings id (store.admitted job) = handlings id store := by
  simp [handlings, JobStore.admitted]

end Counts

section World

variable {ι : Type} [Fintype ι]

/-- A job is read as PENDING only while no other caller is about to run it, and a retry
repeats its write only while the job is still PENDING. -/
def Careful (able : ι → String → Bool) (world : World ι) (label : ι × Action) : Prop :=
  match label.2 with
  | .dequeue scan => ∀ job,
      (JobRepository.pendingRows scan world.store.table).head? = some job →
      able label.1 job.jobType = true →
      ∀ other, (world.phase other).claims (able other) job.id = false
  | .requeue => ∀ job now, world.phase label.1 = .requeueing job now →
      world.store.statusOf job.id = some .pending
  | _ => True

def claimants (able : ι → String → Bool) (id : String) (family : ι → Phase) : Nat :=
  holders (fun caller phase => phase.claims (able caller) id) family

def starters (id : String) (family : ι → Phase) : Nat :=
  holders (fun _ phase => phase.startedOn id) family

/-- One entry is still to be used while the job is PENDING or about to be run. -/
def due (id : String) (store : JobStore) (claimants : Nat) : Nat :=
  if store.statusOf id = some .pending ∨ 0 < claimants then 1 else 0

/-- Each call of the handler, each start and the next one is covered by an entry. -/
structure Covered (able : ι → String → Bool) (id : String) (first : Nat) (world : World ι) :
    Prop where
  alone : claimants able id world.phase ≤ 1
  covered : handlings id world.store + starters id world.phase +
      due id world.store (claimants able id world.phase) ≤ first + entries id world.store

variable {able : ι → String → Bool} {id : String} {first : Nat} {world next : World ι}

theorem due_le_one (id : String) (store : JobStore) (count : Nat) : due id store count ≤ 1 := by
  unfold due
  split <;> omega

theorem due_eq_one {store : JobStore} {count : Nat}
    (held : store.statusOf id = some .pending ∨ 0 < count) : due id store count = 1 := if_pos held

/-- Neither a status that leaves PENDING nor fewer claimants make an entry due. -/
theorem due_le {before after : JobStore} {old new : Nat} (fewer : new ≤ old)
    (status : after.statusOf id = some .pending → before.statusOf id = some .pending) :
    due id after new ≤ due id before old := by
  by_cases held : after.statusOf id = some .pending ∨ 0 < new
  · have earlier : before.statusOf id = some .pending ∨ 0 < old := by
      rcases held with waiting | claimed
      · exact .inl (status waiting)
      · exact .inr (by omega)
    rw [due_eq_one held, due_eq_one earlier]
  · simp [due, held]

/-- A step that makes nobody a claimant and the job not PENDING needs no new entry. -/
theorem Covered.of_le (covered : Covered able id first world)
    (fewer : claimants able id next.phase ≤ claimants able id world.phase)
    (used : handlings id next.store + starters id next.phase ≤
      handlings id world.store + starters id world.phase)
    (status : next.store.statusOf id = some .pending → world.store.statusOf id = some .pending)
    (room : entries id world.store ≤ entries id next.store) : Covered able id first next := by
  obtain ⟨alone, sum⟩ := covered
  have kept := due_le fewer status
  exact ⟨by omega, by omega⟩

/-- A new entry pays for whatever becomes due with it. -/
theorem Covered.of_entry (covered : Covered able id first world)
    (fewer : claimants able id next.phase ≤ claimants able id world.phase)
    (used : handlings id next.store + starters id next.phase ≤
      handlings id world.store + starters id world.phase)
    (room : entries id world.store + 1 ≤ entries id next.store) : Covered able id first next := by
  obtain ⟨alone, sum⟩ := covered
  have one := due_le_one id next.store (claimants able id next.phase)
  exact ⟨by omega, by omega⟩

variable [DecidableEq ι]

theorem claimants_update (able : ι → String → Bool) (id : String) (family : ι → Phase)
    (caller : ι) (phase : Phase) :
    claimants able id (Function.update family caller phase) +
        ((family caller).claims (able caller) id).toNat =
      claimants able id family + (phase.claims (able caller) id).toNat :=
  holders_update _ _ _ _

theorem starters_update (id : String) (family : ι → Phase) (caller : ι) (phase : Phase) :
    starters id (Function.update family caller phase) + ((family caller).startedOn id).toNat =
      starters id family + (phase.startedOn id).toNat :=
  holders_update (fun _ (phase : Phase) => phase.startedOn id) _ _ _

section Moves

variable {caller : ι} {phase : Phase} {store : JobStore} (covered : Covered able id first world)
  (claims : phase.claims (able caller) id = (world.phase caller).claims (able caller) id)
  (starts : phase.startedOn id = (world.phase caller).startedOn id)

include claims in
theorem claimants_moved :
    claimants able id (Function.update world.phase caller phase) =
      claimants able id world.phase := by
  have claimed := claimants_update able id world.phase caller phase
  rwa [claims, Nat.add_right_cancel_iff] at claimed

include starts in
theorem starters_moved :
    starters id (Function.update world.phase caller phase) = starters id world.phase := by
  have started := starters_update id world.phase caller phase
  rwa [starts, Nat.add_right_cancel_iff] at started

include covered claims starts

/-- The mover claims and starts what it did, and the job does not become PENDING. -/
theorem Covered.moves (used : handlings id store = handlings id world.store)
    (status : store.statusOf id = some .pending → world.store.statusOf id = some .pending)
    (room : entries id world.store = entries id store) :
    Covered able id first ⟨store, Function.update world.phase caller phase⟩ := by
  have claimed := claimants_moved claims
  have started := starters_moved starts
  exact covered.of_le (Nat.le_of_eq claimed) (by simp [used, started]) status (Nat.le_of_eq room)

/-- The mover claims and starts what it did, and the job enters PENDING. -/
theorem Covered.enters (used : handlings id store = handlings id world.store)
    (room : entries id world.store + 1 = entries id store) :
    Covered able id first ⟨store, Function.update world.phase caller phase⟩ := by
  have claimed := claimants_moved claims
  have started := starters_moved starts
  exact covered.of_entry (Nat.le_of_eq claimed) (by simp [used, started]) (Nat.le_of_eq room)

end Moves

/-- The job is read as PENDING while nobody is about to run it. -/
theorem Covered.claim {caller : ι} {job : Job} (covered : Covered able job.id first world)
    (standing : world.phase caller = .idle) (handled : able caller job.jobType = true)
    (free : claimants able job.id world.phase = 0)
    (waiting : world.store.statusOf job.id = some .pending) :
    Covered able job.id first
      ⟨world.store, Function.update world.phase caller (.dequeued job)⟩ := by
  have claims := claimants_update able job.id world.phase caller (.dequeued job)
  have starts := starters_update job.id world.phase caller (.dequeued job)
  have claimed := (Phase.claims_dequeued (able caller) job.id job).mpr ⟨rfl, handled⟩
  simp only [standing, claimed, free, Phase.claims_idle, Bool.toNat_true, Bool.toNat_false] at claims
  simp only [standing, Phase.startedOn_idle, Phase.startedOn_dequeued,
    Nat.add_right_cancel_iff] at starts
  obtain ⟨alone, sum⟩ := covered
  rw [due_eq_one (.inl waiting)] at sum
  refine ⟨Nat.le_of_eq claims, ?_⟩
  rw [due_eq_one (.inl waiting)]
  simpa [starts] using sum

/-- The only claimant stores RUNNING: what was due for the claim covers the start. -/
theorem Covered.start {caller : ι} {job : Job} (covered : Covered able job.id first world)
    (standing : world.phase caller = .dequeued job) (handled : able caller job.jobType = true)
    (now : Timestamp) :
    Covered able job.id first ⟨world.store.persist (job.moved .running now),
      Function.update world.phase caller (.started (job.moved .running now))⟩ := by
  have claims := claimants_update able job.id world.phase caller (.started (job.moved .running now))
  have starts := starters_update job.id world.phase caller (.started (job.moved .running now))
  have claimed := (Phase.claims_dequeued (able caller) job.id job).mpr ⟨rfl, handled⟩
  obtain ⟨alone, sum⟩ := covered
  simp only [standing, claimed, Phase.claims_started, Phase.startedOn_started,
    Phase.startedOn_dequeued, Job.moved_id, decide_true, Bool.toNat_true, Bool.toNat_false,
    Nat.add_zero] at claims starts
  have none : claimants able job.id
      (Function.update world.phase caller (.started (job.moved .running now))) = 0 := by omega
  rw [due_eq_one (.inr (by omega))] at sum
  refine ⟨by simp [none], ?_⟩
  simp only [due, JobStore.persist_statusOf, Job.moved_id, ↓reduceIte, Job.moved_status,
    Option.some.injEq, reduceCtorEq, none, Nat.lt_irrefl, or_self, handlings_persist,
    entries_persist, starts]
  omega

/-- The handler is called: the start becomes a call. -/
theorem Covered.handle {caller : ι} {job : Job} (covered : Covered able id first world)
    (standing : world.phase caller = .started job) :
    Covered able id first ⟨world.store.observe (.handled job.id),
      Function.update world.phase caller (.handling job)⟩ := by
  have claims := claimants_update able id world.phase caller (.handling job)
  have starts := starters_update id world.phase caller (.handling job)
  simp only [standing, Phase.claims_started, Phase.claims_handling, Phase.startedOn_started,
    Phase.startedOn_handling, Bool.toNat_false, Nat.add_zero] at claims starts
  refine covered.of_le (Nat.le_of_eq claims) ?_ (fun h => h) (by simp)
  simp only [handlings_handled, ← starts]
  omega

theorem Covered.step {caller : ι} {action : Action} (covered : Covered able id first world)
    (careful : Careful able world (caller, action))
    (taken : Interleaved able world (caller, action) next) : Covered able id first next := by
  obtain ⟨phase, store, moved, rfl⟩ := interleaved_iff.mp taken
  generalize standing : world.phase caller = here at moved
  have made := move_cases moved
  clear moved
  cases made with
  | submit job waiting fresh =>
      by_cases same : job.id = id
      · exact covered.enters (by simp [standing]) (by simp [standing]) (by simp) (by simp [same])
      · exact covered.moves (by simp [standing]) (by simp [standing]) (by simp)
          (by simp [JobStore.admitted, JobStore.statusOf_write, same]) (by simp [same])
  | dequeue scan job listed waiting =>
      by_cases claimed : (Phase.dequeued job).claims (able caller) id = true
      · obtain ⟨rfl, handled⟩ := (Phase.claims_dequeued _ _ _).mp claimed
        have free : claimants able job.id world.phase = 0 :=
          (holders_eq_zero_iff _ _).mpr (careful job listed handled)
        exact covered.claim standing handled free waiting
      · rw [Bool.not_eq_true] at claimed
        exact covered.moves (by simp [standing, claimed]) (by simp [standing]) rfl (fun h => h) rfl
  | refuse job unable =>
      have unclaimed : (Phase.dequeued job).claims (able caller) id = false := by
        simp [Phase.claims, unable]
      exact covered.moves (by simp [standing, unclaimed]) (by simp [standing]) rfl (fun h => h) rfl
  | start job now handled =>
      by_cases same : job.id = id
      · subst same
        exact covered.start standing handled now
      · have unclaimed : (Phase.dequeued job).claims (able caller) id = false := by
          simp [Phase.claims, same]
        exact covered.moves (by simp [standing, unclaimed]) (by simp [standing, same]) (by simp)
          (by simp [same]) (by simp)
  | handle job => exact covered.handle standing
  | finish job outcome now =>
      refine covered.moves (by simp [standing]) (by simp [standing]) (by simp) ?_ (by simp)
      rcases job.concluded_status outcome now with done | failed
      · simp only [JobStore.persist_statusOf, done]
        split <;> simp
      · simp only [JobStore.persist_statusOf, failed]
        split <;> simp
  | readRetry job failed =>
      exact covered.moves (by simp [standing]) (by simp [standing]) rfl (fun h => h) rfl
  | writeRetry job row now present =>
      have named := Keyed.key_of_find? present
      by_cases same : job.id = id
      · exact covered.enters (by simp [standing]) (by simp [standing]) (by simp) (by simp [same])
      · exact covered.moves (by simp [standing]) (by simp [standing]) (by simp)
          (by simp [JobStore.statusOf_write, named, same]) (by simp [same])
  | retryGone job now gone =>
      exact covered.moves (by simp [standing]) (by simp [standing]) rfl (fun h => h) rfl
  | requeue job now =>
      refine covered.moves (by simp [standing]) (by simp [standing]) (by simp) ?_ (by simp)
      by_cases same : job.id = id
      · exact fun _ => same ▸ careful job now standing
      · simp [same]
  | readCancel job live =>
      exact covered.moves (by simp [standing]) (by simp [standing]) rfl (fun h => h) rfl
  | cancel job row now present =>
      refine covered.moves (by simp [standing]) (by simp [standing]) (by simp) ?_ (by simp)
      simp only [JobStore.statusOf_write]
      split <;> simp
  | cancelGone job now gone =>
      exact covered.moves (by simp [standing]) (by simp [standing]) rfl (fun h => h) rfl

/-- Along careful steps every call of the handler has an entry into PENDING of its own,
counting the job that was PENDING at the start. -/
theorem handled_at_most_once (able : ι → String → Bool) (table : JobTable) (id : String)
    (labels : List (ι × Action)) (last : World ι)
    (steps : Steps (Guarded (Interleaved able) (Careful able)) ⟨⟨table, []⟩, fun _ => .idle⟩
      labels last) :
    handlings id last.store ≤
      (if (table.find? id).map Job.status = some .pending then 1 else 0) +
        entries id last.store := by
  have free : claimants able id (fun _ => Phase.idle) = 0 :=
    (holders_eq_zero_iff _ _).mpr (fun _ => rfl)
  have none : starters id (fun _ : ι => Phase.idle) = 0 :=
    (holders_eq_zero_iff (fun _ (phase : Phase) => phase.startedOn id) _).mpr (fun _ => rfl)
  have start : Covered able id
      (if (table.find? id).map Job.status = some .pending then 1 else 0)
      (⟨⟨table, []⟩, fun _ => .idle⟩ : World ι) :=
    ⟨by simp [free], by simp [free, none, due, handlings, entries, JobStore.statusOf]⟩
  have final := steps.invariant (fun _ label _ holds step => holds.step step.1 step.2) start
  have sum := final.covered
  omega

end World

/-- One worker runs the submitted job to its failure, the other one retries it and runs it again. -/
def runInTurn : List (Bool × Action) :=
  [(false, .submit waitingJob), (false, .dequeue .asStored), (false, .start 2), (false, .handle),
    (false, .finish (.error "boom") 3), (true, .readRetry "j1"), (true, .writeRetry 4),
    (true, .requeue), (true, .dequeue .asStored), (true, .start 5), (true, .handle)]

theorem handled_at_most_once_inTurn :
    ∃ last, Steps (Guarded (Interleaved bothAble) (Careful bothAble)) bothIdle runInTurn last ∧
      handlings "j1" last.store ≤
        (if ((Keyed.empty : JobTable).find? "j1").map Job.status = some .pending then 1 else 0) +
          entries "j1" last.store := by
  have steps : Steps (Guarded (Interleaved bothAble) (Careful bothAble)) bothIdle runInTurn _ :=
    .cons ⟨trivial, rfl⟩ (.cons ⟨fun _ _ _ other => by cases other <;> rfl, rfl⟩
      (.cons ⟨trivial, rfl⟩ (.cons ⟨trivial, rfl⟩ (.cons ⟨trivial, rfl⟩
        (.cons ⟨trivial, rfl⟩ (.cons ⟨trivial, rfl⟩
          (.cons ⟨by rintro _ _ ⟨⟩; rfl, rfl⟩
            (.cons ⟨fun _ _ _ other => by cases other <;> rfl, rfl⟩
              (.cons ⟨trivial, rfl⟩ (.single ⟨trivial, rfl⟩))))))))))
  exact ⟨_, steps, handled_at_most_once bothAble .empty "j1" _ _ steps⟩

/-- Two workers read the same PENDING row before either stores RUNNING. -/
def readTwice : List (Bool × Action) :=
  [(false, .submit waitingJob), (false, .dequeue .asStored), (true, .dequeue .asStored),
    (false, .start 2), (true, .start 3), (false, .handle), (true, .handle)]

theorem handled_twice :
    ∃ last, Steps (Interleaved bothAble) bothIdle readTwice last ∧
      handlings "j1" last.store = 2 ∧ entries "j1" last.store = 1 := by
  have reached : (World.steps bothAble bothIdle readTwice).map
      (fun world => (handlings "j1" world.store, entries "j1" world.store)) = some (2, 1) := by
    decide +kernel
  obtain ⟨last, taken, counts⟩ := Option.map_eq_some_iff.mp reached
  exact ⟨last, steps_of_foldlM taken, congrArg Prod.fst counts, congrArg Prod.snd counts⟩

end LexMind.Scheduler
