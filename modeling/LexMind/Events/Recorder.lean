import LexMind.Python

set_option autoImplicit false

/- A bus that accepts every event and keeps it, and what a run of one service shows there. -/
namespace LexMind.Events

open Lib

/-- The events recorded so far, and what the service's components work on. -/
structure Recorder (ε γ : Type) where
  events : List ε
  env : γ

section Programs

variable {ε γ α : Type}

def record (event : ε) : Py (Recorder ε γ) Unit :=
  modify (fun recorder => { recorder with events := recorder.events ++ [event] })

/-- A component's own program, which records nothing. -/
def within (program : Py γ α) : Py (Recorder ε γ) α :=
  onPart Recorder.env (fun recorder env => { recorder with env := env }) program

/-- `try`, with an `except Exception` that publishes the failure and raises again. -/
def failing (body : Py (Recorder ε γ) α) (failed : PyExc → ε) : Py (Recorder ε γ) α := do
  match ← attempt body with
  | .ok value => return value
  | .error exc =>
      record (failed exc)
      throw exc

variable (recorder : Recorder ε γ)

@[simp] theorem call_record (event : ε) :
    call (record event) recorder =
      (.ok (), { recorder with events := recorder.events ++ [event] }) := rfl

@[simp] theorem call_within (program : Py γ α) :
    call (within program) recorder =
      ((call program recorder.env).1, { recorder with env := (call program recorder.env).2 }) := by
  rw [within, call_onPart]

theorem call_failing_ok {body : Py (Recorder ε γ) α} {failed : PyExc → ε} {value : α}
    {after : Recorder ε γ} (returned : call body recorder = (.ok value, after)) :
    call (failing body failed) recorder = (.ok value, after) := by
  simp [failing, returned]

theorem call_failing_error {body : Py (Recorder ε γ) α} {failed : PyExc → ε} {exc : PyExc}
    {after : Recorder ε γ} (raised : call body recorder = (.error exc, after)) :
    call (failing body failed) recorder =
      (.error exc, { after with events := after.events ++ [failed exc] }) := by
  simp [failing, raised]

end Programs

/-- What an event says about a run of its service. -/
inductive Phase
  | started
  | completed
  | failed
deriving DecidableEq

section Brackets

variable {ε γ α : Type} (phase : ε → Option Phase)

/-- The call has published events with these phases, in this order. -/
def Published (phases : List Phase) (before after : Recorder ε γ) : Prop :=
  ∃ added, after.events = before.events ++ added ∧ added.filterMap phase = phases

/-- A call that returns publishes a start and then a completion; one that raises nothing, or a
start and then a failure. -/
def Bracketed (before : Recorder ε γ) (ended : Except PyExc α × Recorder ε γ) : Prop :=
  match ended.1 with
  | .ok _ => Published phase [.started, .completed] before ended.2
  | .error _ =>
      Published phase [] before ended.2 ∨ Published phase [.started, .failed] before ended.2

variable {phase} {before after : Recorder ε γ}

/-- The phases of a call's events are determined. -/
theorem Published.unique {phases others : List Phase} (first : Published phase phases before after)
    (second : Published phase others before after) : phases = others := by
  obtain ⟨added, events, shown⟩ := first
  obtain ⟨added', events', shown'⟩ := second
  have same : added = added' := List.append_cancel_left (events.symm.trans events')
  rw [← shown, ← shown', same]

theorem Published.trans {middle : Recorder ε γ} {phases others : List Phase}
    (first : Published phase phases before middle) (second : Published phase others middle after) :
    Published phase (phases ++ others) before after := by
  obtain ⟨added, events, shown⟩ := first
  obtain ⟨added', events', shown'⟩ := second
  exact ⟨added ++ added', by rw [events', events, List.append_assoc],
    by rw [List.filterMap_append, shown, shown']⟩

theorem published_none (env : γ) : Published phase [] before { before with env := env } :=
  ⟨[], (List.append_nil _).symm, rfl⟩

theorem published_record (phase : ε → Option Phase) (event : ε) {shown : Phase}
    (tells : phase event = some shown) (recorder : Recorder ε γ) : Published phase [shown] recorder
      { recorder with events := recorder.events ++ [event] } :=
  ⟨[event], rfl, by simp [tells]⟩

/-- A program that publishes no phase of a run, however it ends. -/
abbrev Silent (phase : ε → Option Phase) (program : Py (Recorder ε γ) α) : Prop :=
  Leaves (Published phase []) program

theorem silent_pure (value : α) : Silent phase (pure value : Py (Recorder ε γ) α) :=
  Leaves.pure (fun recorder => published_none recorder.env) value

theorem silent_check (result : Except PyExc α) :
    Silent phase (check result : Py (Recorder ε γ) α) := by
  intro recorder
  rw [call_check]
  exact published_none recorder.env

theorem silent_within (program : Py γ α) : Silent phase (within program : Py (Recorder ε γ) α) := by
  intro recorder
  rw [call_within]
  exact published_none _

theorem silent_record {event : ε} (tells : phase event = none) :
    Silent phase (record event : Py (Recorder ε γ) Unit) :=
  fun _ => ⟨[event], rfl, by simp [tells]⟩

theorem silent_bind {β : Type} {program : Py (Recorder ε γ) α} {next : α → Py (Recorder ε γ) β}
    (before : Silent phase program) (after : ∀ value, Silent phase (next value)) :
    Silent phase (program >>= next) :=
  Leaves.bind (fun _ _ _ first second => first.trans second) before after

/-- A body that publishes the completion last, and nothing before it raises. -/
def Completes (phase : ε → Option Phase) (body : Py (Recorder ε γ) α) : Prop :=
  ∀ recorder, match (call body recorder).1 with
    | .ok _ => Published phase [.completed] recorder (call body recorder).2
    | .error _ => Published phase [] recorder (call body recorder).2

/-- A component's work, announced when it is done. -/
theorem completes_announced {β : Type} {phase : ε → Option Phase} (program : Py γ β) (event : β → ε)
    (answer : β → α) (tells : ∀ value, phase (event value) = some .completed) :
    Completes phase (do
      let value ← within program
      record (event value)
      return answer value) := by
  intro recorder
  rw [call_bind, call_within]
  rcases call program recorder.env with ⟨exc | value, env⟩
  · exact published_none env
  · exact Published.trans (published_none env) (published_record phase (event value) (tells value) _)

/-- After the start, such a body whose failure is published is a bracketed call. -/
theorem bracketed_failing {body : Py (Recorder ε γ) α} {failed : PyExc → ε}
    (start : Published phase [.started] before after) (completes : Completes phase body)
    (fails : ∀ exc, phase (failed exc) = some .failed) :
    Bracketed phase before (call (failing body failed) after) := by
  have ends := completes after
  rcases ended : call body after with ⟨exc | value, last⟩
  · rw [ended] at ends
    rw [call_failing_error after ended]
    exact .inr (start.trans
      (ends.trans (published_record phase (failed exc) (fails exc) last)))
  · rw [ended] at ends
    rw [call_failing_ok after ended]
    exact start.trans ends

end Brackets

end LexMind.Events
