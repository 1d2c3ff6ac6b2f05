import LexMind.Pipeline.RetryDelay
import Mathlib.Data.ENat.Lattice

set_option autoImplicit false

namespace LexMind.Pipelines

open Lib

/-- The hook answers so, leaves the metrics alone and the position where it says. -/
structure Answers {ω ν α : Type} (position : ω → Nat) (program : Py (PipelineContext ω ν) α)
    (context : PipelineContext ω ν) (answer : Except PyExc α) (calls : Nat) : Prop where
  answered : (call program context).1 = answer
  position : position (call program context).2.world = position context.world + calls
  statistics : (call program context).2.statistics = context.statistics

/-- A stage that plays a sequence of outcomes, one at each call of its `execute`, with an `emit`
and a `sleep` that raise or do not as is laid down for each event and each duration. -/
structure Script (F ω ν : Type) where
  stage : PipelineStage ω ν
  emit : EmitFn ω ν
  timing : Timing F ω ν
  position : ω → Nat
  outcomes : Nat → Except PyExc StageResult
  announced : PipelineEvent → Except PyExc Unit
  slept : F → Except PyExc Unit
  executes : ∀ context,
    Answers position stage.execute context (outcomes (position context.world)) 1
  announces : ∀ event context, Answers position (emit event) context (announced event) 0
  sleeps : ∀ seconds context, Answers position (timing.sleep seconds) context (slept seconds) 0

/-- The position of the first success, counted from 1. -/
noncomputable def firstSuccess (played : Nat → Except PyExc StageResult) : ℕ∞ :=
  ⨅ (index : Nat) (_ : succeeded (played index) = true), ((index + 1 : Nat) : ℕ∞)

/-- How many attempts the policy allows. -/
def RetryPolicy.allowed (policy : RetryPolicy) : Nat :=
  if policy.strategy = .never then 1 else (max 1 policy.maxAttempts).toNat

/-- The text that a failed attempt is announced with. -/
def errorText : Except PyExc StageResult → String
  | .ok result => reportedErrors result.errors
  | .error exc => exc.text

section Counting

variable {played : Nat → Except PyExc StageResult}

theorem RetryPolicy.allowed_pos (policy : RetryPolicy) : 0 < policy.allowed := by
  unfold allowed
  split
  · exact Nat.one_pos
  · omega

theorem RetryPolicy.shouldRetry_iff (policy : RetryPolicy) {attempt : Nat} (counted : 0 < attempt) :
    policy.shouldRetry attempt = true ↔ attempt < policy.allowed := by
  unfold shouldRetry allowed
  rw [decide_eq_true_eq]
  split
  · rename_i never
    exact iff_of_false (fun retried => retried.1 never) (by omega)
  · rename_i repeated
    rw [and_iff_right repeated]
    omega

/-- The calls end at the first success or at the limit, whichever comes first. -/
theorem exists_calls (played : Nat → Except PyExc StageResult) {limit : Nat} (positive : 0 < limit) :
    ∃ calls : Nat, 0 < calls ∧ (calls : ℕ∞) = min (firstSuccess played) limit ∧ calls ≤ limit ∧
      (∀ index, index + 1 < calls → succeeded (played index) = false) ∧
      (calls < limit → succeeded (played (calls - 1)) = true) ∧
      (succeeded (played (calls - 1)) = true ↔ firstSuccess played ≤ limit) := by
  by_cases found : ∃ index, index < limit ∧ succeeded (played index) = true
  · obtain ⟨index, ⟨inside, passed⟩, least⟩ := Nat.findX found
    have before (other : Nat) (lower : other < index) : succeeded (played other) = false := by
      by_contra success
      exact least other lower ⟨lower.trans inside, by simpa using success⟩
    have first : firstSuccess played = ((index + 1 : Nat) : ℕ∞) := by
      refine le_antisymm (iInf₂_le index passed) (le_iInf₂ (fun other success => ?_))
      have later : ¬ other < index := by
        intro lower
        rw [before other lower] at success
        cases success
      exact_mod_cast Nat.succ_le_succ (Nat.le_of_not_lt later)
    have fits : firstSuccess played ≤ limit := by
      rw [first]
      exact_mod_cast inside
    refine ⟨index + 1, Nat.succ_pos index, ?_, inside, fun other lower => ?_, fun _ => passed,
      iff_of_true passed fits⟩
    · rw [min_eq_left fits, first]
    · exact before other (by omega)
  · have failed (index : Nat) (inside : index < limit) : succeeded (played index) = false := by
      by_contra success
      exact found ⟨index, inside, by simpa using success⟩
    have beyond : ((limit + 1 : Nat) : ℕ∞) ≤ firstSuccess played := by
      refine le_iInf₂ (fun index success => ?_)
      have outside : ¬ index < limit := by
        intro inside
        rw [failed index inside] at success
        cases success
      exact_mod_cast Nat.succ_le_succ (Nat.le_of_not_lt outside)
    have never : ¬ firstSuccess played ≤ limit := by
      intro fits
      have short : limit + 1 ≤ limit := by exact_mod_cast beyond.trans fits
      omega
    refine ⟨limit, positive, (min_eq_right (le_of_not_ge never)).symm, le_rfl,
      fun index lower => failed index (by omega), fun lower => absurd lower (lt_irrefl limit),
      iff_of_false ?_ never⟩
    rw [failed (limit - 1) (by omega)]
    exact Bool.false_ne_true

end Counting

namespace PipelineStatistics

variable (statistics : PipelineStatistics) (stageId : StageId)

theorem metricsFor_put (metrics : StageMetrics) :
    PipelineStatistics.metricsFor
      { statistics with stageMetrics := statistics.stageMetrics.put metrics } metrics.stageId =
        metrics := by
  rw [metricsFor, Keyed.find?_put_self]
  rfl

@[simp] theorem metricsFor_stageId : (statistics.metricsFor stageId).stageId = stageId := by
  unfold metricsFor
  cases found : statistics.stageMetrics.find? stageId with
  | none => rfl
  | some metrics => exact Keyed.key_of_find? found

theorem metricsFor_openMetrics :
    (statistics.openMetrics stageId).metricsFor stageId = statistics.metricsFor stageId := by
  have same := statistics.metricsFor_put (statistics.metricsFor stageId)
  rwa [metricsFor_stageId] at same

theorem metricsFor_addFailure :
    (statistics.addFailure stageId).metricsFor stageId =
      { statistics.metricsFor stageId with
        failures := (statistics.metricsFor stageId).failures + 1 } := by
  have same := statistics.metricsFor_put
    { statistics.metricsFor stageId with failures := (statistics.metricsFor stageId).failures + 1 }
  rwa [metricsFor_stageId] at same

theorem metricsFor_addRetry :
    (statistics.addRetry stageId).metricsFor stageId =
      { statistics.metricsFor stageId with
        retries := (statistics.metricsFor stageId).retries + 1 } := by
  have same := statistics.metricsFor_put
    { statistics.metricsFor stageId with retries := (statistics.metricsFor stageId).retries + 1 }
  rwa [metricsFor_stageId] at same

end PipelineStatistics

namespace Script

variable {F ω ν : Type} (script : Script F ω ν)

/-- So many calls of `execute` lie between the two, and the metrics have changed so. -/
structure Passes (calls : Nat) (change : PipelineStatistics → PipelineStatistics)
    (first last : Execution ω ν) : Prop where
  position : script.position last.context.world = script.position first.context.world + calls
  events : last.events = first.events ++ List.replicate calls (.called script.stage.id)
  statistics : last.context.statistics = change first.context.statistics

/-- How the body of the `try` ends. -/
def tried : Except PyExc StageResult → Except PyExc StageResult
  | .ok result =>
      if result.success then
        (script.announced (.stageCompleted script.stage.id)).map (fun _ => result)
      else .ok result
  | .error exc => .error exc

/-- How the pause before an attempt ends. -/
def paused (attempt : Nat) : Except PyExc Unit := do
  let delay ← script.timing.delayFor script.stage attempt
  if script.timing.floats.lt script.timing.floats.zero delay then script.slept delay

variable {script} {first middle last : Execution ω ν}

theorem Passes.trans {calls later : Nat} {change next : PipelineStatistics → PipelineStatistics}
    (before : script.Passes calls change first middle) (after : script.Passes later next middle last) :
    script.Passes (calls + later) (fun statistics => next (change statistics)) first last where
  position := by rw [after.position, before.position, Nat.add_assoc]
  events := by rw [after.events, before.events, List.append_assoc, List.replicate_add]
  statistics := by rw [after.statistics, before.statistics]

theorem call_hook {α : Type} {program : Py (PipelineContext ω ν) α} {answer : Except PyExc α}
    (answers : Answers script.position program first.context answer 0) :
    ∃ last, call (hook program) first = (answer, last) ∧ script.Passes 0 id first last := by
  refine ⟨(call (hook program) first).2, ?_, ?_⟩
  · rw [hook, call_onPart, answers.answered]
  · rw [hook, call_onPart]
    exact ⟨answers.position, (List.append_nil _).symm, answers.statistics⟩

theorem call_emit (script : Script F ω ν) (event : PipelineEvent) (first : Execution ω ν) :
    ∃ last, call (hook (script.emit event)) first = (script.announced event, last) ∧
      script.Passes 0 id first last :=
  call_hook (script.announces event first.context)

theorem call_changeStatistics (change : PipelineStatistics → PipelineStatistics)
    (first : Execution ω ν) :
    ∃ last, call (changeStatistics change) first = (.ok (), last) ∧
      script.Passes 0 change first last :=
  ⟨_, rfl, rfl, (List.append_nil _).symm, rfl⟩

theorem call_pause (script : Script F ω ν) (attempt : Nat) (first : Execution ω ν) :
    ∃ last, call (hook (script.timing.pause script.stage attempt)) first =
        (script.paused attempt, last) ∧ script.Passes 0 id first last := by
  refine call_hook ?_
  unfold Timing.pause paused
  cases script.timing.delayFor script.stage attempt with
  | error exc => exact ⟨rfl, rfl, rfl⟩
  | ok delay =>
      show Answers _ (if _ then _ else _) _ (if _ then _ else _) 0
      split
      · exact script.sleeps delay first.context
      · exact ⟨rfl, rfl, rfl⟩

theorem call_attemptStage (script : Script F ω ν) (first : Execution ω ν) :
    ∃ last, call (attemptStage script.emit script.stage) first =
        (script.tried (script.outcomes (script.position first.context.world)), last) ∧
      script.Passes 1 id first last := by
  have plays := script.executes first.context
  let called : Execution ω ν :=
    { first with
      context := (call script.stage.execute first.context).2
      events := first.events ++ [.called script.stage.id] }
  have passes : script.Passes 1 id first called := ⟨plays.position, rfl, plays.statistics⟩
  have executed : call (attemptStage script.emit script.stage) first =
      andThen (script.outcomes (script.position first.context.world), called)
        (fun result => do
          if result.success then
            hook (script.emit (.stageCompleted script.stage.id))
          return result) := by
    rw [attemptStage, call_bind, observe, call_modify, andThen_ok, call_bind, hook, call_onPart,
      plays.answered]
  rw [executed]
  cases script.outcomes (script.position first.context.world) with
  | error exc => exact ⟨called, rfl, passes⟩
  | ok result =>
      rw [andThen_ok, tried]
      split
      · obtain ⟨last, emitted, kept⟩ := script.call_emit (.stageCompleted script.stage.id) called
        refine ⟨last, ?_, passes.trans kept⟩
        rw [call_bind, emitted]
        cases script.announced (.stageCompleted script.stage.id) with
        | ok _ => rfl
        | error exc => rfl
      · exact ⟨called, rfl, passes⟩

theorem tried_failed {ended : Except PyExc StageResult} (failed : succeeded ended = false) :
    script.tried ended = ended := by
  cases ended with
  | error exc => rfl
  | ok result => rw [tried, if_neg (by simpa [succeeded] using failed)]

theorem judgeAttempt_failed (attempt : Nat) (again : ExecutionPy ω ν StageResult)
    {ended : Except PyExc StageResult} (failed : succeeded ended = false) :
    judgeAttempt script.emit script.stage attempt again ended =
      failAttempt script.emit script.stage attempt (errorText ended) again := by
  cases ended with
  | error exc => rfl
  | ok result => rw [judgeAttempt, if_neg (by simpa [succeeded] using failed), errorText]

theorem call_failAttempt (script : Script F ω ν) (attempt : Nat) (text : String)
    (first : Execution ω ν) :
    ∃ last, script.Passes 0 (·.addFailure script.stage.id) first last ∧
      ∀ again, call (failAttempt script.emit script.stage attempt text again) first =
        andThen (script.announced (.stageFailed script.stage.id attempt text), last) (fun _ =>
          if script.stage.retryPolicy.shouldRetry attempt then
            changeStatistics (fun statistics => statistics.addRetry script.stage.id) >>= fun _ =>
              again
          else return { StageResult.failed script.stage.id text with attempts := attempt }) := by
  obtain ⟨counted, changed, more⟩ := script.call_changeStatistics
    (fun statistics => statistics.addFailure script.stage.id) first
  obtain ⟨last, emitted, kept⟩ :=
    script.call_emit (.stageFailed script.stage.id attempt text) counted
  refine ⟨last, more.trans kept, fun again => ?_⟩
  rw [failAttempt, call_bind, changed, andThen_ok, call_bind, emitted]

/-- One turn of the loop, up to the judgement of the attempt. -/
theorem call_timedAttempts (script : Script F ω ν) (attempt : Nat) (first : Execution ω ν) :
    ∃ announced tried, script.Passes 1 id first tried ∧
      ∀ fuel, call (timedAttempts script.emit script.timing script.stage (fuel + 1) attempt) first =
        match script.announced (.stageStarted script.stage.id attempt) with
        | .error exc => (.error exc, announced)
        | .ok _ => call (judgeAttempt script.emit script.stage attempt
            (do
              hook (script.timing.pause script.stage (attempt + 1))
              timedAttempts script.emit script.timing script.stage fuel (attempt + 1))
            (script.tried (script.outcomes (script.position first.context.world)))) tried := by
  obtain ⟨announced, emitted, kept⟩ :=
    script.call_emit (.stageStarted script.stage.id attempt) first
  obtain ⟨tried, ended, passes⟩ := script.call_attemptStage announced
  refine ⟨announced, tried, ?_, fun fuel => ?_⟩
  · have whole := kept.trans passes
    rwa [Nat.zero_add] at whole
  · rw [timedAttempts, call_bind, emitted]
    cases script.announced (.stageStarted script.stage.id attempt) with
    | error exc => rfl
    | ok _ =>
        rw [andThen_ok, call_bind, call_attempt, ended, andThen_ok, kept.position]
        rfl

/-- A returned result counts at least the attempts that were made before. -/
theorem attempt_le_attempts (emit : EmitFn ω ν) (timing : Timing F ω ν) (stage : PipelineStage ω ν)
    (fuel attempt : Nat) {first last : Execution ω ν} {result : StageResult}
    (returned : call (timedAttempts emit timing stage fuel attempt) first = (.ok result, last)) :
    attempt ≤ result.attempts := by
  induction fuel generalizing attempt first with
  | zero =>
      cases returned
      exact le_rfl
  | succ fuel ih =>
      obtain ⟨_, _, _, returned⟩ := returned_of_call_bind returned
      obtain ⟨ended, _, _, returned⟩ := returned_of_call_bind returned
      have failed (text : String) {middle : Execution ω ν}
          (returned : call (failAttempt emit stage attempt text (do
            hook (timing.pause stage (attempt + 1))
            timedAttempts emit timing stage fuel (attempt + 1))) middle = (.ok result, last)) :
          attempt ≤ result.attempts := by
        obtain ⟨_, _, _, returned⟩ := returned_of_call_bind returned
        obtain ⟨_, _, _, returned⟩ := returned_of_call_bind returned
        split at returned
        · obtain ⟨_, _, _, returned⟩ := returned_of_call_bind returned
          obtain ⟨_, _, _, returned⟩ := returned_of_call_bind returned
          exact (Nat.le_succ attempt).trans (ih (attempt + 1) returned)
        · cases returned
          exact le_rfl
      cases ended with
      | error exc => exact failed _ returned
      | ok answer =>
          rw [judgeAttempt] at returned
          split at returned
          · cases returned
            exact le_rfl
          · exact failed _ returned

variable (script)

/-- The accounts of so many calls, the first of which is attempt `index + 1`. -/
structure Accounted (played : Nat → Except PyExc StageResult) (index calls : Nat)
    (first : Execution ω ν) (result : StageResult) (last : Execution ω ν) : Prop where
  position : script.position last.context.world = script.position first.context.world + calls
  events : last.events = first.events ++ List.replicate calls (.called script.stage.id)
  success : result.success = succeeded (played (index + calls - 1))
  attempts : result.attempts = index + calls
  failures : (last.context.statistics.metricsFor script.stage.id).failures =
    (first.context.statistics.metricsFor script.stage.id).failures +
      (List.range' index calls).countP (fun index => !succeeded (played index))
  retries : (last.context.statistics.metricsFor script.stage.id).retries + 1 =
    (first.context.statistics.metricsFor script.stage.id).retries + calls

/-- From this attempt on the loop ends by itself, with these accounts. -/
def Accounts (played : Nat → Except PyExc StageResult) (index calls : Nat)
    (first : Execution ω ν) : Prop :=
  ∃ enough result last,
    (∀ fuel, enough ≤ fuel →
      call (timedAttempts script.emit script.timing script.stage fuel (index + 1)) first =
        (.ok result, last)) ∧ script.Accounted played index calls first result last

/-- The event that follows the attempt. -/
def outcomeEvent (played : Nat → Except PyExc StageResult) (index : Nat) : PipelineEvent :=
  if succeeded (played index) then .stageCompleted script.stage.id
  else .stageFailed script.stage.id (index + 1) (errorText (played index))

/-- Neither the announcements of an attempt nor, unless it is the first, the pause before it
raise. -/
structure Unhindered (played : Nat → Except PyExc StageResult) (first index : Nat) : Prop where
  started : script.announced (.stageStarted script.stage.id (index + 1)) = .ok ()
  ended : script.announced (script.outcomeEvent played index) = .ok ()
  paused : first < index → script.paused (index + 1) = .ok ()

variable {script} {played : Nat → Except PyExc StageResult} {index calls : Nat}

theorem Accounts.returns (accounts : script.Accounts played index calls first) :
    ∃ enough, ∀ fuel, enough ≤ fuel → ∀ exc,
      (call (timedAttempts script.emit script.timing script.stage fuel (index + 1)) first).1 ≠
        .error exc := by
  obtain ⟨enough, result, last, returned, _⟩ := accounts
  refine ⟨enough, fun fuel long exc raised => ?_⟩
  rw [returned fuel long] at raised
  cases raised

/-- The accounts of a call that fails and is repeated, and of those that follow it. -/
theorem Accounted.cons {result : StageResult} (failed : succeeded (played index) = false)
    (passes : script.Passes 1 (fun statistics =>
      (statistics.addFailure script.stage.id).addRetry script.stage.id) first middle) :
    script.Accounted played (index + 1) calls middle result last ↔
      script.Accounted played index (calls + 1) first result last := by
  have failures : (middle.context.statistics.metricsFor script.stage.id).failures =
      (first.context.statistics.metricsFor script.stage.id).failures + 1 := by
    rw [passes.statistics, PipelineStatistics.metricsFor_addRetry,
      PipelineStatistics.metricsFor_addFailure]
  have retries : (middle.context.statistics.metricsFor script.stage.id).retries =
      (first.context.statistics.metricsFor script.stage.id).retries + 1 := by
    rw [passes.statistics, PipelineStatistics.metricsFor_addRetry,
      PipelineStatistics.metricsFor_addFailure]
  have position := passes.position
  have counted : (List.range' index (calls + 1)).countP (fun index => !succeeded (played index)) =
      (List.range' (index + 1) calls).countP (fun index => !succeeded (played index)) + 1 := by
    rw [List.range'_succ, List.countP_cons, if_pos (by simp [failed])]
  have events : first.events ++ List.replicate (calls + 1) (.called script.stage.id) =
      middle.events ++ List.replicate calls (.called script.stage.id) := by
    rw [passes.events, List.append_assoc, ← List.replicate_add, Nat.add_comm]
  have index_eq : index + (calls + 1) = index + 1 + calls := by omega
  constructor
  · intro accounted
    refine ⟨?_, ?_, ?_, ?_, ?_, ?_⟩
    · rw [accounted.position, position]
      omega
    · rw [accounted.events, events]
    · rw [index_eq]
      exact accounted.success
    · rw [index_eq]
      exact accounted.attempts
    · rw [accounted.failures, counted, failures]
      omega
    · rw [accounted.retries, retries]
      omega
  · intro accounted
    refine ⟨?_, ?_, ?_, ?_, ?_, ?_⟩
    · rw [accounted.position, position]
      omega
    · rw [accounted.events, events]
    · rw [← index_eq]
      exact accounted.success
    · rw [← index_eq]
      exact accounted.attempts
    · rw [accounted.failures, counted, failures]
      omega
    · rw [accounted.retries, retries]
      omega

/-- The attempts from one on are unhindered where it is, and those after it are. -/
theorem unhindered_cons :
    (∀ other, index ≤ other → other < index + (calls + 2) →
      script.Unhindered played index other) ↔
    script.Unhindered played index index ∧ script.paused (index + 2) = .ok () ∧
      ∀ other, index + 1 ≤ other → other < index + 1 + (calls + 1) →
        script.Unhindered played (index + 1) other := by
  constructor
  · intro clear
    refine ⟨clear index le_rfl (by omega),
      (clear (index + 1) (by omega) (by omega)).paused (by omega), fun other low high => ?_⟩
    have unhindered := clear other (by omega) (by omega)
    exact ⟨unhindered.started, unhindered.ended, fun later => unhindered.paused (by omega)⟩
  · rintro ⟨first, paused, later⟩ other low high
    rcases Nat.eq_or_lt_of_le low with rfl | above
    · exact first
    · have unhindered := later other above (by omega)
      refine ⟨unhindered.started, unhindered.ended, fun _ => ?_⟩
      rcases Nat.eq_or_lt_of_le above with rfl | beyond
      · exact paused
      · exact unhindered.paused beyond

theorem not_accounts_of_raised {exc : PyExc}
    (raised : ∀ fuel,
      (call (timedAttempts script.emit script.timing script.stage (fuel + 1) (index + 1)) first).1 =
        .error exc) : ¬ script.Accounts played index calls first := by
  intro accounts
  obtain ⟨enough, returns⟩ := accounts.returns
  exact returns (enough + 1) (Nat.le_succ _) exc (raised enough)

theorem not_unhindered_of_raised {event : PipelineEvent} {exc : PyExc} {from' : Nat}
    (raised : script.announced event = .error exc)
    (made : event = .stageStarted script.stage.id (index + 1) ∨
      event = script.outcomeEvent played index) :
    ¬ script.Unhindered played from' index := by
  intro unhindered
  rcases made with rfl | rfl
  · rw [unhindered.started] at raised
    cases raised
  · rw [unhindered.ended] at raised
    cases raised

/-- A single call, after which the loop returns. -/
theorem accounts_single {result : StageResult} {change : PipelineStatistics → PipelineStatistics}
    (returned : ∀ fuel,
      call (timedAttempts script.emit script.timing script.stage (fuel + 1) (index + 1)) first =
        (.ok result, last))
    (passes : script.Passes 1 change first last) (success : result.success = succeeded (played index))
    (attempts : result.attempts = index + 1)
    (counted : ∀ statistics : PipelineStatistics,
      (change statistics).metricsFor script.stage.id =
        { statistics.metricsFor script.stage.id with
          failures := (statistics.metricsFor script.stage.id).failures +
            if succeeded (played index) then 0 else 1 }) :
    script.Accounts played index 1 first := by
  refine ⟨1, result, last, fun fuel long => ?_, passes.position, passes.events, success, attempts,
    ?_, ?_⟩
  · obtain ⟨fuel, rfl⟩ := Nat.exists_eq_add_of_le' long
    exact returned fuel
  · rw [passes.statistics, counted, List.range'_one]
    cases outcome : succeeded (played index) <;> simp [outcome]
  · rw [passes.statistics, counted]

/-- Where an announcement of a failed attempt raises, so does the loop. -/
theorem not_accounts_of_hindered {start : Nat}
    (placed : script.position first.context.world = start + index)
    (same : played index = script.outcomes (start + index))
    (failed : succeeded (played index) = false)
    (hindered : ¬ script.Unhindered played index index) :
    ¬ script.Accounts played index calls first := by
  obtain ⟨announced, tried, passes, turn⟩ := script.call_timedAttempts (index + 1) first
  obtain ⟨last, changed, judged⟩ :=
    script.call_failAttempt (index + 1) (errorText (played index)) tried
  have event : script.outcomeEvent played index =
      .stageFailed script.stage.id (index + 1) (errorText (played index)) := by
    rw [outcomeEvent, failed]
    rfl
  simp only [placed, ← same, tried_failed failed, judgeAttempt_failed _ _ failed, judged,
    ← event] at turn
  cases started : script.announced (.stageStarted script.stage.id (index + 1)) with
  | error exc =>
      simp only [started] at turn
      exact not_accounts_of_raised (fun fuel => congrArg Prod.fst (turn fuel))
  | ok _ =>
      simp only [started] at turn
      cases ended : script.announced (script.outcomeEvent played index) with
      | error exc =>
          rw [ended] at turn
          exact not_accounts_of_raised (fun fuel => congrArg Prod.fst (turn fuel))
      | ok _ => exact absurd ⟨started, ended, fun later => absurd later (lt_irrefl _)⟩ hindered

/-- The last call fails, and the policy allows no other. -/
theorem accounts_failed {start : Nat} (placed : script.position first.context.world = start + index)
    (same : played index = script.outcomes (start + index))
    (failed : succeeded (played index) = false)
    (final : script.stage.retryPolicy.shouldRetry (index + 1) = false) :
    script.Accounts played index 1 first ↔ script.Unhindered played index index := by
  by_cases clear : script.Unhindered played index index
  · refine iff_of_true ?_ clear
    obtain ⟨announced, tried, passes, turn⟩ := script.call_timedAttempts (index + 1) first
    obtain ⟨last, changed, judged⟩ :=
      script.call_failAttempt (index + 1) (errorText (played index)) tried
    have ended := clear.ended
    rw [outcomeEvent, if_neg (by simp [failed])] at ended
    simp only [clear.started, placed, ← same, tried_failed failed, judgeAttempt_failed _ _ failed,
      judged, final, Bool.false_eq_true, if_false, ended, andThen_ok] at turn
    refine accounts_single turn (passes.trans changed) failed.symm rfl (fun statistics => ?_)
    rw [failed]
    exact PipelineStatistics.metricsFor_addFailure _ _
  · exact iff_of_false (not_accounts_of_hindered placed same failed clear) clear

/-- A success is the last call, unless announcing it raises: then the loop goes on, or returns a
failure. -/
theorem accounts_succeeded {start : Nat}
    (placed : script.position first.context.world = start + index)
    (same : played index = script.outcomes (start + index))
    (passed : succeeded (played index) = true) :
    script.Accounts played index 1 first ↔ script.Unhindered played index index := by
  obtain ⟨announced, tried, passes, turn⟩ := script.call_timedAttempts (index + 1) first
  obtain ⟨result, outcome, success⟩ : ∃ result, played index = .ok result ∧
      result.success = true := by
    cases outcome : played index with
    | error exc =>
        rw [outcome] at passed
        cases passed
    | ok result =>
        rw [outcome] at passed
        exact ⟨result, rfl, passed⟩
  have event : script.outcomeEvent played index = .stageCompleted script.stage.id := by
    rw [outcomeEvent, passed]
    rfl
  simp only [placed, ← same, outcome, Script.tried, success, if_true, ← event] at turn
  cases started : script.announced (.stageStarted script.stage.id (index + 1)) with
  | error exc =>
      simp only [started] at turn
      exact iff_of_false (not_accounts_of_raised (fun fuel => congrArg Prod.fst (turn fuel)))
        (not_unhindered_of_raised started (.inl rfl))
  | ok _ =>
      simp only [started] at turn
      cases ended : script.announced (script.outcomeEvent played index) with
      | ok _ =>
          rw [ended] at turn
          simp only [map_ok, judgeAttempt, success, if_true] at turn
          refine iff_of_true (accounts_single turn passes passed.symm rfl ?_)
            ⟨started, ended, fun later => absurd later (lt_irrefl _)⟩
          intro statistics
          rw [passed]
          rfl
      | error exc =>
          rw [ended] at turn
          refine iff_of_false ?_ (not_unhindered_of_raised ended (.inr rfl))
          rintro ⟨enough, answer, last, returned, accounted⟩
          have again := returned (enough + 1) (Nat.le_succ _)
          rw [turn, map_error, judgeAttempt] at again
          obtain ⟨_, _, _, again⟩ := returned_of_call_bind again
          obtain ⟨_, _, _, again⟩ := returned_of_call_bind again
          split at again
          · obtain ⟨_, _, _, again⟩ := returned_of_call_bind again
            obtain ⟨_, _, _, again⟩ := returned_of_call_bind again
            have more := attempt_le_attempts _ _ _ _ _ again
            rw [accounted.attempts] at more
            omega
          · cases again
            have claimed := accounted.success
            rw [Nat.add_sub_cancel, passed] at claimed
            cases claimed

/-- A call that fails and is repeated: the rest of the loop follows, once it has waited. -/
theorem call_repeated {start : Nat} (placed : script.position first.context.world = start + index)
    (same : played index = script.outcomes (start + index))
    (failed : succeeded (played index) = false)
    (retried : script.stage.retryPolicy.shouldRetry (index + 1) = true)
    (clear : script.Unhindered played index index) :
    ∃ waited, script.Passes 1 (fun statistics =>
        (statistics.addFailure script.stage.id).addRetry script.stage.id) first waited ∧
      ∀ fuel,
        call (timedAttempts script.emit script.timing script.stage (fuel + 1) (index + 1)) first =
          andThen (script.paused (index + 2), waited) (fun _ =>
            timedAttempts script.emit script.timing script.stage fuel (index + 2)) := by
  obtain ⟨announced, tried, passes, turn⟩ := script.call_timedAttempts (index + 1) first
  obtain ⟨counted, changed, judged⟩ :=
    script.call_failAttempt (index + 1) (errorText (played index)) tried
  obtain ⟨repeated, added, more⟩ := script.call_changeStatistics
    (fun statistics => statistics.addRetry script.stage.id) counted
  obtain ⟨waited, paused, kept⟩ := script.call_pause (index + 2) repeated
  refine ⟨waited, ((passes.trans changed).trans more).trans kept, fun fuel => ?_⟩
  have ended := clear.ended
  rw [outcomeEvent, if_neg (by simp [failed])] at ended
  rw [turn, clear.started, placed, ← same, tried_failed failed, judgeAttempt_failed _ _ failed]
  simp only [judged, ended, andThen_ok, retried, if_true, call_bind, added, paused]

/-- The accounts from such a call on are those from the next one on. -/
theorem accounts_cons {start : Nat} (placed : script.position first.context.world = start + index)
    (same : played index = script.outcomes (start + index))
    (failed : succeeded (played index) = false)
    (retried : script.stage.retryPolicy.shouldRetry (index + 1) = true)
    (later : ∀ middle : Execution ω ν, script.position middle.context.world = start + (index + 1) →
      (script.Accounts played (index + 1) (calls + 1) middle ↔
        ∀ other, index + 1 ≤ other → other < index + 1 + (calls + 1) →
          script.Unhindered played (index + 1) other)) :
    script.Accounts played index (calls + 2) first ↔
      ∀ other, index ≤ other → other < index + (calls + 2) →
        script.Unhindered played index other := by
  rw [unhindered_cons]
  by_cases clear : script.Unhindered played index index
  · obtain ⟨waited, passes, turn⟩ := call_repeated placed same failed retried clear
    have next := later waited (by rw [passes.position, placed, Nat.add_assoc])
    cases wait : script.paused (index + 2) with
    | error exc =>
        rw [wait] at turn
        exact iff_of_false (not_accounts_of_raised (fun fuel => congrArg Prod.fst (turn fuel)))
          (fun clear => nomatch clear.2.1)
    | ok _ =>
        simp only [wait, andThen_ok] at turn
        rw [and_iff_right clear, and_iff_right rfl, ← next]
        constructor
        · rintro ⟨enough, result, last, returned, accounted⟩
          refine ⟨enough, result, last, fun fuel long => ?_,
            (Accounted.cons failed passes).mpr accounted⟩
          rw [← turn]
          exact returned (fuel + 1) (long.trans (Nat.le_succ fuel))
        · rintro ⟨enough, result, last, returned, accounted⟩
          refine ⟨enough + 1, result, last, fun fuel long => ?_,
            (Accounted.cons failed passes).mp accounted⟩
          obtain ⟨fuel, rfl⟩ :=
            Nat.exists_eq_add_of_le' (Nat.le_trans (Nat.le_add_left 1 enough) long)
          rw [turn]
          exact returned fuel (Nat.le_of_succ_le_succ long)
  · refine iff_of_false ?_ (fun whole => clear whole.1)
    exact not_accounts_of_hindered placed same failed clear

/-- The calls from one on, up to the first success or the limit. The induction is on how many there
are. -/
theorem accounts_iff {start : Nat} (same : ∀ index, played index = script.outcomes (start + index))
    {last : Nat} (limited : last + 1 ≤ script.stage.retryPolicy.allowed)
    (failed : ∀ index, index < last → succeeded (played index) = false)
    (stops : last + 1 < script.stage.retryPolicy.allowed → succeeded (played last) = true)
    (whole : index + calls = last) (placed : script.position first.context.world = start + index) :
    script.Accounts played index (calls + 1) first ↔
      ∀ other, index ≤ other → other < index + (calls + 1) →
        script.Unhindered played index other := by
  induction calls generalizing index first with
  | zero =>
      rw [Nat.add_zero] at whole
      subst whole
      have single : (∀ other, index ≤ other → other < index + (0 + 1) →
          script.Unhindered played index other) ↔ script.Unhindered played index index := by
        constructor
        · intro clear
          exact clear index le_rfl (by omega)
        · intro clear other low high
          obtain rfl : other = index := by omega
          exact clear
      rw [single, Nat.zero_add]
      by_cases passed : succeeded (played index) = true
      · exact accounts_succeeded placed (same index) passed
      · refine accounts_failed placed (same index) (by simpa using passed) ?_
        rw [← Bool.not_eq_true,
          RetryPolicy.shouldRetry_iff _ (Nat.succ_pos index)]
        exact fun short => passed (stops short)
  | succ calls ih =>
      have retried : script.stage.retryPolicy.shouldRetry (index + 1) = true := by
        rw [RetryPolicy.shouldRetry_iff _ (Nat.succ_pos index)]
        omega
      exact accounts_cons placed (same index) (failed index (by omega)) retried
        (fun middle there => ih (by omega) there)

variable (script)

/-- The outcomes that the calls from here on will have. -/
def upcoming (first : Execution ω ν) (index : Nat) : Except PyExc StageResult :=
  script.outcomes (script.position first.context.world + index)

/-- The accounts of `_run_stage`, with so many calls of `execute`. -/
structure StageAccounted (first : Execution ω ν) (calls : Nat) (result : StageResult)
    (last : Execution ω ν) : Prop where
  counted : (calls : ℕ∞) =
    min (firstSuccess (script.upcoming first)) script.stage.retryPolicy.allowed
  executed : script.position last.context.world = script.position first.context.world + calls
  observed : last.events = first.events ++ List.replicate calls (.called script.stage.id)
  success : result.success = true ↔
    firstSuccess (script.upcoming first) ≤ script.stage.retryPolicy.allowed
  attempts : result.attempts = calls
  failures : (last.context.statistics.metricsFor script.stage.id).failures =
    (first.context.statistics.metricsFor script.stage.id).failures +
      (List.range calls).countP (fun index => !succeeded (script.upcoming first index))
  retries : (last.context.statistics.metricsFor script.stage.id).retries + 1 =
    (first.context.statistics.metricsFor script.stage.id).retries + calls

variable {script}

theorem accounted_iff_stageAccounted {opened : Execution ω ν} {result : StageResult}
    (passes : script.Passes 0 (·.openMetrics script.stage.id) first opened)
    (counted : (calls : ℕ∞) =
      min (firstSuccess (script.upcoming first)) script.stage.retryPolicy.allowed)
    (success : succeeded (script.upcoming first (calls - 1)) = true ↔
      firstSuccess (script.upcoming first) ≤ script.stage.retryPolicy.allowed) :
    script.Accounted (script.upcoming first) 0 calls opened result last ↔
      script.StageAccounted first calls result last := by
  have metrics : opened.context.statistics.metricsFor script.stage.id =
      first.context.statistics.metricsFor script.stage.id := by
    rw [passes.statistics, PipelineStatistics.metricsFor_openMetrics]
  have position := passes.position
  have events : opened.events = first.events := by simpa using passes.events
  rw [Nat.add_zero] at position
  constructor
  · intro accounted
    have outcome := accounted.success
    rw [Nat.zero_add] at outcome
    refine ⟨counted, position ▸ accounted.position, events ▸ accounted.events, ?_, ?_, ?_,
      metrics ▸ accounted.retries⟩
    · rw [outcome, success]
    · rw [accounted.attempts, Nat.zero_add]
    · rw [accounted.failures, metrics, List.range_eq_range']
  · intro settled
    refine ⟨position.symm ▸ settled.executed, events.symm ▸ settled.observed, ?_, ?_, ?_,
      metrics.symm ▸ settled.retries⟩
    · rw [Nat.zero_add, Bool.eq_iff_iff, settled.success, success]
    · rw [settled.attempts, Nat.zero_add]
    · rw [settled.failures, metrics, List.range_eq_range']

end Script

/-- `_run_stage` ends by itself with these accounts exactly where, as far as the calls go, neither
announcing an attempt nor the pause before it raises. -/
theorem retry_accounting_iff {F ω ν : Type} (script : Script F ω ν) (first : Execution ω ν) :
    (∃ enough calls result last,
      (∀ fuel, enough ≤ fuel →
        call (timedStage script.emit script.timing script.stage fuel) first = (.ok result, last)) ∧
      script.StageAccounted first calls result last) ↔
    ∀ index : Nat, ((index + 1 : Nat) : ℕ∞) ≤
        min (firstSuccess (script.upcoming first)) script.stage.retryPolicy.allowed →
      script.Unhindered (script.upcoming first) 0 index := by
  obtain ⟨opened, changed, passes⟩ := script.call_changeStatistics
    (fun statistics => statistics.openMetrics script.stage.id) first
  have entered (fuel : Nat) : call (timedStage script.emit script.timing script.stage fuel) first =
      call (timedAttempts script.emit script.timing script.stage fuel 1) opened := by
    rw [timedStage, call_bind, changed, andThen_ok]
  obtain ⟨calls, positive, counted, limited, failed, stops, success⟩ :=
    exists_calls (script.upcoming first) script.stage.retryPolicy.allowed_pos
  obtain ⟨last, rfl⟩ := Nat.exists_eq_add_of_lt positive
  rw [Nat.zero_add] at counted limited failed stops success
  have placed : script.position opened.context.world =
      script.position first.context.world + 0 := passes.position
  have upcoming (index : Nat) : script.upcoming first index =
      script.outcomes (script.position first.context.world + index) := rfl
  have accounts := Script.accounts_iff upcoming limited
    (fun index lower => failed index (by omega)) stops (Nat.zero_add last) placed
  have within (index : Nat) : ((index + 1 : Nat) : ℕ∞) ≤
      min (firstSuccess (script.upcoming first)) script.stage.retryPolicy.allowed ↔
        index < 0 + (last + 1) := by
    rw [← counted, Nat.cast_le, Nat.zero_add]
    exact Nat.lt_iff_add_one_le.symm
  simp only [entered, within]
  have condition : (∀ index, index < 0 + (last + 1) →
      script.Unhindered (script.upcoming first) 0 index) ↔
        script.Accounts (script.upcoming first) 0 (last + 1) opened := by
    rw [accounts]
    exact ⟨fun clear index _ => clear index, fun clear index => clear index (Nat.zero_le index)⟩
  rw [condition]
  constructor
  · rintro ⟨enough, calls, result, after, returned, settled⟩
    obtain rfl : calls = last + 1 := by exact_mod_cast settled.counted.trans counted.symm
    exact ⟨enough, result, after, returned,
      (Script.accounted_iff_stageAccounted passes counted success).mpr settled⟩
  · rintro ⟨enough, result, after, returned, accounted⟩
    exact ⟨enough, last + 1, result, after, returned,
      (Script.accounted_iff_stageAccounted passes counted success).mp accounted⟩

/-- A stage that always fails, with three attempts and a multiplier whose square is out of range. -/
def overflowing : Script Int Nat Unit where
  stage := {
    id := .ocr
    dependencies := []
    retryPolicy := ⟨.exponentialBackoff, 3⟩
    validate := pure true
    execute := do
      modify (fun context => { context with world := context.world + 1 })
      throw (.runtimeError "engine unavailable")
    rollback := pure () }
  emit := silent
  timing := ⟨wholeFloats, fun _ => ⟨0, 60, 2 ^ 600⟩, fun _ => pure ()⟩
  position := id
  outcomes _ := .error (.runtimeError "engine unavailable")
  announced _ := .ok ()
  slept _ := .ok ()
  executes _ := ⟨rfl, rfl, rfl⟩
  announces _ _ := ⟨rfl, rfl, rfl⟩
  sleeps _ _ := ⟨rfl, rfl, rfl⟩

/-- The delay before the third attempt cannot be computed, though it would be capped: the loop
raises after two calls. -/
theorem overflowing_raises :
    let first := beginning (⟨"run", "doc", false, none, .empty, ∅, 0⟩ : PipelineContext Nat Unit)
      .empty
    ¬ ∃ enough calls result last,
      (∀ fuel, enough ≤ fuel →
        call (timedStage overflowing.emit overflowing.timing overflowing.stage fuel) first =
          (.ok result, last)) ∧ overflowing.StageAccounted first calls result last := by
  rintro first ⟨enough, calls, result, last, returned, _⟩
  have short : overflowing.paused 2 = .ok () := by decide +kernel
  have long : overflowing.paused 3 =
      .error (.overflowError "(34, 'Numerical result out of range')") := by decide +kernel
  have clear (index : Nat) : overflowing.Unhindered overflowing.outcomes index index :=
    ⟨rfl, rfl, fun later => absurd later (lt_irrefl index)⟩
  obtain ⟨opened, changed, placed⟩ := overflowing.call_changeStatistics
    (fun statistics => statistics.openMetrics overflowing.stage.id) first
  have zero : overflowing.position opened.context.world = 0 + 0 := placed.position
  obtain ⟨once, passes, second⟩ := Script.call_repeated zero rfl rfl rfl (clear 0)
  have one : overflowing.position once.context.world = 0 + 1 :=
    passes.position.trans (congrArg (· + 1) zero)
  obtain ⟨twice, _, third⟩ := Script.call_repeated one rfl rfl rfl (clear 1)
  have ended := returned (enough + 2) (Nat.le_add_right enough 2)
  rw [timedStage, call_bind, changed, andThen_ok, second, short, andThen_ok, third, long] at ended
  cases ended

end LexMind.Pipelines
