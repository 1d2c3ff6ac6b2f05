import LexMind.Pipeline.Executor

set_option autoImplicit false

/- The delays between two attempts at a stage: the rest of a retry policy, and the loop that waits. -/
namespace LexMind.Pipelines

open Lib

/-- What a delay is computed with: floating point numbers, whose powers may be out of range. -/
structure FloatArithmetic (F : Type) where
  zero : F
  lt : F → F → Bool
  mul : F → F → F
  pow : F → Nat → Option F

/-- Floating point numbers that are whole, with the range of a double. -/
def wholeFloats : FloatArithmetic Int where
  zero := 0
  lt first second := first < second
  mul first second := first * second
  pow base exponent :=
    if 2 ^ 1024 ≤ (base ^ exponent).natAbs then none else some (base ^ exponent)

/-- `min(first, second)`. -/
def FloatArithmetic.min {F : Type} (floats : FloatArithmetic F) (first second : F) : F :=
  if floats.lt second first then second else first

/-- `base ** exponent`, which raises where the value is out of range. -/
def FloatArithmetic.power {F : Type} (floats : FloatArithmetic F) (base : F) (exponent : Nat) :
    Except PyExc F :=
  match floats.pow base exponent with
  | some value => .ok value
  | none => .error (.overflowError "(34, 'Numerical result out of range')")

/-- Of a retry policy, what decides how long to wait. -/
structure Backoff (F : Type) where
  baseDelaySeconds : F
  maxDelaySeconds : F
  multiplier : F

/-- `max(attempt - 1, 0)` is the subtraction of natural numbers. -/
def Backoff.delayFor {F : Type} (backoff : Backoff F) (floats : FloatArithmetic F)
    (strategy : RetryStrategy) (attempt : Nat) : Except PyExc F :=
  match strategy with
  | .never | .immediate => .ok floats.zero
  | .fixedDelay => .ok backoff.baseDelaySeconds
  | .exponentialBackoff => do
      let power ← floats.power backoff.multiplier (attempt - 1)
      return floats.min (floats.mul backoff.baseDelaySeconds power) backoff.maxDelaySeconds
  | .custom => .ok backoff.baseDelaySeconds

/-- Only a power raises. -/
theorem Backoff.delayFor_raised {F : Type} {backoff : Backoff F} {floats : FloatArithmetic F}
    {strategy : RetryStrategy} {attempt : Nat} {exc : PyExc}
    (raised : backoff.delayFor floats strategy attempt = .error exc) :
    exc = .overflowError "(34, 'Numerical result out of range')" := by
  cases strategy with
  | never => cases raised
  | immediate => cases raised
  | fixedDelay => cases raised
  | custom => cases raised
  | exponentialBackoff =>
      cases power : floats.pow backoff.multiplier (attempt - 1) with
      | none =>
          simp only [delayFor, FloatArithmetic.power, power] at raised
          cases raised
          rfl
      | some value =>
          simp only [delayFor, FloatArithmetic.power, power] at raised
          cases raised

/-- The injected `sleep`, which like a hook may change the context and may raise, and the delays of
each stage's policy. -/
structure Timing (F ω ν : Type) where
  floats : FloatArithmetic F
  backoff : StageId → Backoff F
  sleep : F → Py (PipelineContext ω ν) Unit

section Executor

variable {F ω ν : Type}

def Timing.delayFor (timing : Timing F ω ν) (stage : PipelineStage ω ν) (attempt : Nat) :
    Except PyExc F :=
  (timing.backoff stage.id).delayFor timing.floats stage.retryPolicy.strategy attempt

/-- What stands before an attempt that is not the first. -/
def Timing.pause (timing : Timing F ω ν) (stage : PipelineStage ω ν) (attempt : Nat) :
    Py (PipelineContext ω ν) Unit := do
  let delay ← check (timing.delayFor stage attempt)
  if timing.floats.lt timing.floats.zero delay then timing.sleep delay

variable (emit : EmitFn ω ν) (timing : Timing F ω ν)

/-- `runAttempts`, with the delays. -/
def timedAttempts (stage : PipelineStage ω ν) : Nat → Nat → ExecutionPy ω ν StageResult
  | 0, attempt => return { StageResult.failed stage.id "unknown error" with attempts := attempt }
  | fuel + 1, attempt => do
      hook (emit (.stageStarted stage.id attempt))
      let ended ← Lib.attempt (attemptStage emit stage)
      judgeAttempt emit stage attempt
        (do
          hook (timing.pause stage (attempt + 1))
          timedAttempts stage fuel (attempt + 1))
        ended

/-- `_run_stage` for at most so many attempts. -/
def timedStage (stage : PipelineStage ω ν) (fuel : Nat) : ExecutionPy ω ν StageResult := do
  changeStatistics (fun statistics => statistics.openMetrics stage.id)
  timedAttempts emit timing stage fuel 1

/-- What an attempt at a registered stage waits for before it is announced. -/
def Timing.waitFor (timing : Timing F ω ν) (registry : PipelineRegistry ω ν) (stageId : StageId)
    (attempt : Nat) : Py (PipelineContext ω ν) Unit :=
  match registry.find? stageId with
  | some stage => if 1 < attempt then timing.pause stage attempt else pure ()
  | none => pure ()

/-- The wait as a part of the announcement that follows it: an executor with this `emit` waits
between two attempts, as `runAttempts_paced` shows. -/
def paced (registry : PipelineRegistry ω ν) : EmitFn ω ν
  | .stageStarted stageId attempt => do
      timing.waitFor registry stageId attempt
      emit (.stageStarted stageId attempt)
  | event => emit event

/-- Fuel beyond what the policy allows is never used. -/
theorem timedAttempts_fuel (stage : PipelineStage ω ν) (fuel attempt : Nat) (positive : 0 < fuel)
    (enough : stage.retryPolicy.maxAttempts < fuel + attempt) :
    timedAttempts emit timing stage (fuel + 1) attempt =
      timedAttempts emit timing stage fuel attempt := by
  induction fuel generalizing attempt with
  | zero => omega
  | succ fuel ih =>
      have again : stage.retryPolicy.shouldRetry attempt = true →
          (do
            hook (timing.pause stage (attempt + 1))
            timedAttempts emit timing stage (fuel + 1) (attempt + 1)) =
          (do
            hook (timing.pause stage (attempt + 1))
            timedAttempts emit timing stage fuel (attempt + 1)) := by
        intro retried
        have below := RetryPolicy.lt_of_shouldRetry retried
        rw [ih (attempt + 1) (by omega) (by omega)]
      have judged := judgeAttempt_congr emit stage attempt again
      rw [timedAttempts, judged]
      rfl

theorem hook_bind {α β : Type} (program : Py (PipelineContext ω ν) α)
    (next : α → Py (PipelineContext ω ν) β) :
    hook (program >>= next) = (hook program >>= fun value => hook (next value)) := by
  funext execution
  simp only [hook, onPart, bind, EStateM.bind]
  cases program execution.context with
  | ok value middle => rfl
  | error exc middle => rfl

/-- The loop that waits is the loop without delays whose announcements wait. -/
theorem runAttempts_paced (registry : PipelineRegistry ω ν) (stage : PipelineStage ω ν)
    (known : registry.find? stage.id = some stage) (fuel attempt : Nat) (positive : 0 < fuel)
    (counted : 0 < attempt)
    (enough : stage.retryPolicy.maxAttempts < fuel + attempt) :
    runAttempts (paced emit timing registry) stage fuel attempt =
      if 1 < attempt then
        (do
          hook (timing.pause stage attempt)
          timedAttempts emit timing stage fuel attempt)
      else timedAttempts emit timing stage fuel attempt := by
  induction fuel generalizing attempt with
  | zero => omega
  | succ fuel ih =>
      have again : stage.retryPolicy.shouldRetry attempt = true →
          runAttempts (paced emit timing registry) stage fuel (attempt + 1) =
            (do
              hook (timing.pause stage (attempt + 1))
              timedAttempts emit timing stage fuel (attempt + 1)) := by
        intro retried
        have below := RetryPolicy.lt_of_shouldRetry retried
        rw [ih (attempt + 1) (by omega) (by omega) (by omega), if_pos (by omega)]
      have judged := judgeAttempt_congr (paced emit timing registry) stage attempt again
      rw [runAttempts, judged, paced, Timing.waitFor, known, hook_bind]
      dsimp only
      split
      · rw [bind_assoc]
        rfl
      · rfl

theorem runStage_paced (registry : PipelineRegistry ω ν) (stage : PipelineStage ω ν)
    (known : registry.find? stage.id = some stage) :
    runStage (paced emit timing registry) stage =
      timedStage emit timing stage (stage.retryPolicy.maxAttempts.toNat + 1) := by
  rw [runStage, timedStage, runAttempts_paced emit timing registry stage known _ 1 (Nat.succ_pos _)
    Nat.one_pos (by omega), if_neg (Nat.lt_irrefl 1)]

end Executor

end LexMind.Pipelines
