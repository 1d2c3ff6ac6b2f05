import LexMind.Tasks.RetryAccounting

set_option autoImplicit false

/- What the record of a task says once it has been executed. -/
namespace LexMind.Tasks

open Lib TaskExecutorService

variable {γ : Type} {collaborators : Collaborators γ} {outcomes : Nat → Except PyExc String}

/-- A COMPLETED task has the last call's result and no error message, a FAILED one the last call's
error and no result. -/
def RecordFits (outcomes : Nat → Except PyExc String) (world : World γ) : Prop :=
  match world.task.status with
  | .completed =>
      outcomes (handlerCalls world.trace) = .ok world.task.result ∧ world.task.errorMessage = ""
  | .failed => ∃ exc, outcomes (handlerCalls world.trace) = .error exc ∧
      world.task.errorMessage = exc.text ∧ world.task.result = ""
  | _ => True

/-- What earlier calls or the task as it came could leave in the record is empty: the task's own
error message when the first call succeeds, the text of the error before a later success, and the
task's own result when every call allowed fails. -/
structure LeavesNoMark (outcomes : Nat → Except PyExc String) (task : Task) : Prop where
  atOnce : firstSuccess outcomes = 1 → task.errorMessage = ""
  later : ∀ k : ℕ, 0 < k → k ≤ task.maxRetries → firstSuccess outcomes = (k + 1 : ℕ) →
    errorText (outcomes k) = ""
  never : (callsAllowed task.maxRetries : ℕ∞) < firstSuccess outcomes → task.result = ""

section Settled

variable {last : Nat} {before after : World γ} (settled : Settled outcomes 1 last before after)

include settled

/-- After a success, the record has what the call before it left as the error message. -/
theorem Settled.succeeded_clean_iff {result : String} (outcome : outcomes last = .ok result) :
    (if 1 = last then before.task.errorMessage else errorText (outcomes (last - 1))) = "" ↔
      LeavesNoMark outcomes before.task := by
  have first := settled.succeeded outcome
  have within := settled.within
  have ordered := settled.ordered
  have allowed : ¬ (callsAllowed before.task.maxRetries : ℕ∞) < firstSuccess outcomes := by
    rw [first, Nat.cast_lt]
    omega
  split
  · rename_i same
    constructor
    · intro empty
      refine ⟨fun _ => empty, fun k positive _ at_k => ?_, fun beyond => absurd beyond allowed⟩
      rw [first, Nat.cast_inj] at at_k
      omega
    · intro clean
      exact clean.atOnce (by rw [first, ← same]; rfl)
  · rename_i apart
    constructor
    · intro empty
      refine ⟨fun once => ?_, fun k positive _ at_k => ?_, fun beyond => absurd beyond allowed⟩
      · rw [first, Nat.cast_eq_one] at once
        omega
      · rw [first, Nat.cast_inj] at at_k
        have previous : last - 1 = k := by omega
        rwa [previous] at empty
    · intro clean
      have retried := (settled.retried (last - 1) (by omega) (by omega)).1
      refine clean.later (last - 1) (by omega) retried ?_
      rw [first, Nat.sub_add_cancel ordered]

/-- After the last failure, the record has the result that the task came with. -/
theorem Settled.failed_clean_iff {exc : PyExc} (outcome : outcomes last = .error exc) :
    before.task.result = "" ↔ LeavesNoMark outcomes before.task := by
  obtain ⟨all, later⟩ := settled.exhausted outcome
  have ordered := settled.ordered
  constructor
  · intro empty
    refine ⟨fun once => ?_, fun k _ within at_k => ?_, fun _ => empty⟩
    · rw [once, Nat.cast_lt_one] at later
      omega
    · rw [at_k, Nat.cast_lt] at later
      unfold callsAllowed at all
      omega
  · intro clean
    exact clean.never (all ▸ later)

theorem Settled.recordFits_iff (called : handlerCalls after.trace = last) :
    RecordFits outcomes after ↔ LeavesNoMark outcomes before.task := by
  have concluded := settled.concluded
  unfold RecordFits
  rw [called]
  cases outcome : outcomes last with
  | ok result =>
      rw [outcome] at concluded
      obtain ⟨status, answer, message⟩ := concluded
      rw [← settled.succeeded_clean_iff outcome, ← message, status, answer]
      exact and_iff_right rfl
  | error exc =>
      rw [outcome] at concluded
      obtain ⟨_, status, message, answer⟩ := concluded
      rw [← settled.failed_clean_iff outcome, ← answer, status, message]
      constructor
      · rintro ⟨_, _, _, empty⟩
        exact empty
      · exact fun empty => ⟨exc, rfl, rfl, empty⟩

end Settled

theorem leavesNoMark_moved (task : Task) (target : TaskStatus) (now : Timestamp) :
    LeavesNoMark outcomes (task.moved target now) ↔ LeavesNoMark outcomes task := by
  constructor
  · intro clean
    exact ⟨by simpa using clean.atOnce, by simpa using clean.later, by simpa using clean.never⟩
  · intro clean
    exact ⟨by simpa using clean.atOnce, by simpa using clean.later, by simpa using clean.never⟩

/-- Where the task is executed at all, the record it ends with fits the last call exactly when
nothing in it was left by what came before. -/
theorem terminal_record_iff (scripted : Scripted collaborators outcomes) (task : Task)
    (registered : TaskRegistry) (env : γ) (clock : Nat → Timestamp) :
    let ended := call (execute collaborators.observed clock) (World.start task registered env)
    (ended.1 = .ok () → RecordFits outcomes ended.2) ↔
      (task.status = .pending → task.taskType ∈ registered → LeavesNoMark outcomes task) := by
  intro ended
  by_cases pending : task.status = .pending
  · by_cases known : task.taskType ∈ registered
    · obtain ⟨env', last, after, returned, settled⟩ := execute_settles scripted clock
        (World.start task registered env) pending known rfl
      have called : handlerCalls after.trace = last := by
        simpa [handlerCalls] using settled.counted.handled
      have fits := settled.recordFits_iff called
      rw [leavesNoMark_moved] at fits
      have same : ended = (.ok (), after) := returned
      rw [same]
      exact ⟨fun record _ _ => fits.mp (record rfl), fun clean _ => fits.mpr (clean pending known)⟩
    · obtain ⟨exc, env', raised⟩ := execute_unknown scripted clock (World.start task registered env)
        pending known
      have same : ended.1 = .error exc := congrArg Prod.fst raised
      rw [same]
      refine iff_of_true (fun returned => ?_) (fun _ inside => absurd inside known)
      cases returned
  · obtain ⟨exc, raised⟩ := execute_refused collaborators clock
      (World.start task registered env) pending
    have same : ended.1 = .error exc := congrArg Prod.fst raised
    rw [same]
    refine iff_of_true (fun returned => ?_) (fun status => absurd status pending)
    cases returned

/-- The error of the first call stays in the record of the second one's success. -/
theorem stale_error_message :
    ¬ ((call (execute (plain secondTime).observed id) (World.start (indexing 1) ["index"] ())).1 =
        .ok () →
      RecordFits secondTime
        (call (execute (plain secondTime).observed id)
          (World.start (indexing 1) ["index"] ())).2) := by
  intro fits
  have record := fits rfl
  exact absurd record.2 (by decide)

/-- The first call fails with an error that has no text. -/
def wordless (call : Nat) : Except PyExc String :=
  if call ≤ 1 then .error (.callable "") else .ok "done"

/-- Such a failure leaves no mark in the record of the second call's success. -/
theorem terminal_record_wordless :
    let after := (call (execute (plain wordless).observed id)
      (World.start (indexing 1) ["index"] ())).2
    handlerCalls after.trace = 2 ∧ after.task.status = .completed ∧ RecordFits wordless after := by
  intro after
  have clean : LeavesNoMark wordless (indexing 1) := by
    refine ⟨fun _ => rfl, fun k positive within _ => ?_, fun _ => rfl⟩
    have within : (k : Int) ≤ 1 := within
    have once : k = 1 := by omega
    rw [once]
    rfl
  refine ⟨rfl, rfl, ?_⟩
  exact (terminal_record_iff (plain_scripted wordless) (indexing 1) ["index"] () id).mpr
    (fun _ _ => clean) rfl

end LexMind.Tasks
