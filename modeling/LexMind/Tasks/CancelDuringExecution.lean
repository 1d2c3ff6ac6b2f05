import LexMind.Tasks.RetryAccounting

set_option autoImplicit false

/- Calls of `cancel` on a task while it is executed. -/
namespace LexMind.Tasks

open Lib Events TaskExecutorService Relation

variable {γ : Type} {collaborators : Collaborators γ}

/-- The service's `cancel`, called on the task and observed. -/
def requestCancel (collaborators : Collaborators γ) (clock : Nat → Timestamp) : Py (World γ) Unit := do
  observe .cancelCalled
  cancel collaborators.observed clock

/-- What a collaborator can do: change what is not the task, or call `cancel`, which is refused or
moves the task and announces it. -/
inductive Acts : World γ → World γ → Prop
  | elsewhere (world : World γ) (registered : TaskRegistry) (env : γ) :
      Acts world { world with registered := registered, env := env }
  | refused (world : World γ) (final : world.task.isTerminal = true) :
      Acts world { world with trace := world.trace ++ [.cancelCalled] }
  | cancelled (world : World γ) (now : Timestamp) (unfinished : world.task.isTerminal = false) :
      Acts world { world with
        task := world.task.moved .cancelled now
        trace := world.trace ++ [.cancelCalled,
          .emitted (taskCancelled (world.task.moved .cancelled now) world.task.status)] }

/-- The collaborators act on the task through `cancel` alone; they may raise. -/
structure CancelsOnly (collaborators : Collaborators γ) : Prop where
  publish : ∀ event, Leaves (ReflTransGen Acts) (collaborators.publish event)
  handle : Leaves (ReflTransGen Acts) collaborators.handle
  delay : ∀ seconds, Leaves (ReflTransGen Acts) (collaborators.delay seconds)

/-- Calling `cancel` is one of the things such collaborators may do. -/
theorem requestCancel_acts (only : CancelsOnly collaborators) (clock : Nat → Timestamp) :
    Leaves (ReflTransGen Acts) (requestCancel collaborators clock) := by
  intro world
  rw [requestCancel, call_bind, observe, call_modify, andThen_ok, cancel, call_bind, call_readTask,
    andThen_ok, observed_task]
  cases final : world.task.isTerminal with
  | true =>
      rw [if_pos rfl, call_throw]
      exact .single (.refused world final)
  | false =>
      have moves := Task.call_transitionTo .cancelled (clock 0) (Task.cancelled_mem_transitions final)
      rw [if_neg Bool.false_ne_true, call_bind, call_onTask, observed_task, moves, andThen_ok,
        call_bind, call_readTask, andThen_ok]
      have announced := only.publish
        (taskCancelled (world.task.moved .cancelled (clock 0)) world.task.status)
        { world with
          task := world.task.moved .cancelled (clock 0)
          trace := world.trace ++ [.cancelCalled,
            .emitted (taskCancelled (world.task.moved .cancelled (clock 0)) world.task.status)] }
      refine ReflTransGen.trans (.single (.cancelled world (clock 0) final)) ?_
      simpa [Collaborators.observed, observe] using announced

theorem Acts.maxRetries {before after : World γ} (acts : ReflTransGen Acts before after) :
    after.task.maxRetries = before.task.maxRetries := by
  induction acts with
  | refl => rfl
  | tail _ last ih =>
      rw [← ih]
      cases last with
      | elsewhere => rfl
      | refused => rfl
      | cancelled => exact Task.moved_maxRetries _ _

/-- A task that has ended is not moved again. -/
theorem Acts.ended {before after : World γ} (acts : ReflTransGen Acts before after)
    (final : before.task.isTerminal = true) : after.task = before.task := by
  induction acts with
  | refl => rfl
  | tail _ last ih =>
      rw [← ih]
      rw [← ih] at final
      cases last with
      | elsewhere => rfl
      | refused => rfl
      | cancelled now unfinished =>
          rw [final] at unfinished
          cases unfinished

theorem CancelsOnly.keepsLimit (only : CancelsOnly collaborators) :
    KeepsLimit collaborators.observed where
  publish event limit world limited := by
    have acts := only.publish event { world with trace := world.trace ++ [.emitted event] }
    exact (Acts.maxRetries acts).trans limited
  handle limit world limited := by
    have acts := only.handle { world with trace := world.trace ++ [.handlerCalled] }
    exact (Acts.maxRetries acts).trans limited
  delay seconds limit world limited := by
    have acts := only.delay seconds { world with trace := world.trace ++ [.delayed seconds] }
    exact (Acts.maxRetries acts).trans limited

/-- Announcing what has ended a task leaves the task. -/
theorem CancelsOnly.announces (only : CancelsOnly collaborators) (event : EventObject)
    {world : World γ} (final : world.task.isTerminal = true) :
    (call (collaborators.observed.publish event) world).2.task = world.task := by
  have acts := only.publish event { world with trace := world.trace ++ [.emitted event] }
  have same := Acts.ended acts final
  exact same

/-- The task has been executed to its end. -/
def Over (world : World γ) : Prop := world.task.status = .completed ∨ world.task.status = .failed

theorem Over.isTerminal {world : World γ} (final : Over world) : world.task.isTerminal = true := by
  rcases final with same | same <;> simp [Task.isTerminal, same]

theorem CancelsOnly.publish_over (only : CancelsOnly collaborators) {event : EventObject}
    {world after : World γ} (final : Over world)
    (returned : call (collaborators.observed.publish event) world = (.ok (), after)) : Over after := by
  have same := only.announces event final.isTerminal
  rw [returned] at same
  unfold Over
  rwa [same]

/-- A transition that is made leaves the status it is made to. -/
theorem transitionTo_returned {target : TaskStatus} {now : Timestamp} {world after : World γ}
    (returned : call (onTask collaborators.observed (Task.transitionTo target now)) world =
      (.ok (), after)) : after.task.status = target := by
  rw [call_onTask] at returned
  unfold Task.transitionTo at returned
  by_cases valid : canTransition world.task.status target = true
  · simp [valid] at returned
    rw [← returned]
    rfl
  · simp [valid] at returned

/-- Whatever follows the handler's outcome, a return is after the last transition. -/
theorem afterHandler_over (only : CancelsOnly collaborators) (clock : Nat → Timestamp) {limit : Int}
    {attempt : Nat} {again : Py (World γ) Unit} {outcome : Except PyExc String} {world after : World γ}
    (limited : Limited collaborators.observed limit world)
    (later : attempt ≤ limit → ∀ next last, Limited collaborators.observed limit next →
      call again next = (.ok (), last) → Over last)
    (returned : call (afterHandler collaborators.observed clock attempt again outcome) world =
      (.ok (), after)) : Over after := by
  have keeps := only.keepsLimit
  cases outcome with
  | ok result =>
      obtain ⟨_, noted, _, returned⟩ := returned_of_call_bind returned
      obtain ⟨_, moved, moves, returned⟩ := returned_of_call_bind returned
      obtain ⟨_, seen, read, returned⟩ := returned_of_call_bind returned
      cases read
      exact only.publish_over (.inl (transitionTo_returned moves)) returned
  | error exc =>
      obtain ⟨_, noted, notes, returned⟩ := returned_of_call_bind returned
      obtain ⟨_, seen, read, returned⟩ := returned_of_call_bind returned
      cases read
      have first := congrArg Prod.snd notes ▸ onTask_limited (fun _ => rfl) limited
      by_cases within : attempt ≤ (collaborators.observed.task noted).maxRetries
      · rw [if_pos within] at returned
        obtain ⟨_, told, tells, returned⟩ := returned_of_call_bind returned
        obtain ⟨_, seen, read, returned⟩ := returned_of_call_bind returned
        cases read
        obtain ⟨_, waited, waits, returned⟩ := returned_of_call_bind returned
        have second := congrArg Prod.snd tells ▸ keeps.publish _ limit _ first
        have third := congrArg Prod.snd waits ▸ keeps.delay _ limit _ second
        exact later (first ▸ within) waited after third returned
      · rw [if_neg within] at returned
        obtain ⟨_, moved, moves, returned⟩ := returned_of_call_bind returned
        obtain ⟨_, seen, read, returned⟩ := returned_of_call_bind returned
        cases read
        exact only.publish_over (.inr (transitionTo_returned moves)) returned

theorem tryOnce_over (only : CancelsOnly collaborators) (clock : Nat → Timestamp) {limit : Int}
    {attempt : Nat} {again : Py (World γ) Unit} {world after : World γ}
    (limited : Limited collaborators.observed limit world)
    (later : attempt ≤ limit → ∀ next last, Limited collaborators.observed limit next →
      call again next = (.ok (), last) → Over last)
    (returned : call (tryOnce collaborators.observed clock attempt again) world = (.ok (), after)) :
    Over after := by
  have keeps := only.keepsLimit
  obtain ⟨_, counted, counts, returned⟩ := returned_of_call_bind returned
  obtain ⟨_, seen, read, returned⟩ := returned_of_call_bind returned
  obtain ⟨_, started, starts, returned⟩ := returned_of_call_bind returned
  obtain ⟨outcome, handled, handles, returned⟩ := returned_of_call_bind returned
  cases read
  have first := congrArg Prod.snd counts ▸ onTask_limited (fun _ => rfl) limited
  have second := congrArg Prod.snd starts ▸ keeps.publish _ limit _ first
  have third := keeps.handle limit _ second
  rw [call_attempt] at handles
  cases handles
  exact afterHandler_over only clock third later returned

theorem attemptsFrom_over (only : CancelsOnly collaborators) (clock : Nat → Timestamp) {limit : Int}
    {fuel attempt : Nat} (enough : limit < attempt + fuel) {world after : World γ}
    (limited : Limited collaborators.observed limit world)
    (returned : call (attemptsFrom collaborators.observed clock fuel attempt) world =
      (.ok (), after)) : Over after := by
  induction fuel generalizing attempt world after with
  | zero =>
      exact tryOnce_over only clock limited (fun within => absurd within (by omega)) returned
  | succ fuel ih =>
      exact tryOnce_over only clock limited (fun _ next last limited returned =>
        ih (by push_cast at enough ⊢; omega) limited returned) returned

/-- An execution that returns has completed its task or failed it. -/
theorem execute_over (only : CancelsOnly collaborators) (clock : Nat → Timestamp)
    {world after : World γ}
    (returned : call (execute collaborators.observed clock) world = (.ok (), after)) :
    Over after := by
  obtain ⟨_, seen, read, returned⟩ := returned_of_call_bind returned
  cases read
  by_cases pending : (collaborators.observed.task world).status = .pending
  · rw [if_pos pending] at returned
    obtain ⟨_, announced, _, returned⟩ := returned_of_call_bind returned
    obtain ⟨_, seen, read, returned⟩ := returned_of_call_bind returned
    obtain ⟨_, found, _, returned⟩ := returned_of_call_bind returned
    obtain ⟨_, moved, _, returned⟩ := returned_of_call_bind returned
    obtain ⟨_, seen, read, returned⟩ := returned_of_call_bind returned
    cases read
    exact attemptsFrom_over only clock (by omega) rfl returned
  · rw [if_neg pending] at returned
    cases returned

/-- The handler is not called after a cancel, and the execution returns a CANCELLED task. -/
structure CancelHonoured (ended : Except PyExc Unit × World γ) : Prop where
  quiet : ∀ front back, ended.2.trace = front ++ .cancelCalled :: back → .handlerCalled ∉ back
  returned : ended.1 = .ok ()
  cancelled : ended.2.task.status = .cancelled

/-- A cancel is honoured at no point of an execution: only runs without one meet the condition. -/
theorem cancel_honoured_iff (only : CancelsOnly collaborators) (task : Task)
    (registered : TaskRegistry) (env : γ) (clock : Nat → Timestamp) :
    let ended := call (execute collaborators.observed clock) (World.start task registered env)
    (.cancelCalled ∈ ended.2.trace → CancelHonoured ended) ↔ .cancelCalled ∉ ended.2.trace := by
  intro ended
  constructor
  · intro honoured called
    have final : Over ended.2 := execute_over only clock (Prod.ext (honoured called).returned rfl)
    have cancelled := (honoured called).cancelled
    rcases final with same | same
    · rw [cancelled] at same
      cases same
    · rw [cancelled] at same
      cases same
  · exact fun absent called => absurd called absent

/-- The handler cancels its task and returns a result. -/
def cancelling : Collaborators Unit where
  publish := fun _ => pure ()
  handle := do
    requestCancel (plain (fun _ => .ok "")) id
    return "done"
  delay := fun _ => pure ()

theorem cancelling_only : CancelsOnly cancelling where
  publish := fun _ _ => .refl
  handle := by
    have plain_only : CancelsOnly (plain (fun _ => .ok "")) :=
      ⟨fun _ _ => .refl, fun _ => .refl, fun _ _ => .refl⟩
    exact Leaves.bind (fun _ _ _ => ReflTransGen.trans) (requestCancel_acts plain_only id)
      (fun _ => Leaves.pure (fun _ => .refl) _)
  delay := fun _ _ => .refl

/-- The running task is CANCELLED, but its execution raises. -/
theorem cancelled_by_its_handler :
    ¬ (.cancelCalled ∈
        (call (execute cancelling.observed id) (World.start (indexing 1) ["index"] ())).2.trace →
      CancelHonoured
        (call (execute cancelling.observed id) (World.start (indexing 1) ["index"] ()))) := by
  intro honoured
  have returned := (honoured (by decide)).returned
  cases returned

/-- That run calls `cancel`, so it is one of those that fail. -/
theorem cancel_honoured_iff_cancelling :
    ¬ (.cancelCalled ∉
      (call (execute cancelling.observed id) (World.start (indexing 1) ["index"] ())).2.trace) ∧
    ¬ (.cancelCalled ∈
        (call (execute cancelling.observed id) (World.start (indexing 1) ["index"] ())).2.trace →
      CancelHonoured
        (call (execute cancelling.observed id) (World.start (indexing 1) ["index"] ()))) := by
  have called : ¬ (.cancelCalled ∉
      (call (execute cancelling.observed id) (World.start (indexing 1) ["index"] ())).2.trace) := by
    decide
  exact ⟨called, fun honoured => called
    ((cancel_honoured_iff cancelling_only (indexing 1) ["index"] () id).mp honoured)⟩

end LexMind.Tasks
