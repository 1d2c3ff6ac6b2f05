import LexMind.Lib.Call
import Mathlib.Data.List.Basic

set_option autoImplicit false

/- Computations that write a journal, and machines that read it. -/
namespace Lib

variable {ε σ ρ μ α β : Type}

/-- Where a state keeps its journal, and what a machine makes of each record; it stops at one that
it does not expect. -/
structure Monitor (σ ρ μ : Type) where
  journal : σ → List ρ
  read : μ → ρ → Option μ

namespace Monitor

variable (monitor : Monitor σ ρ μ)

def readAll (start : μ) (records : List ρ) : Option μ := records.foldlM monitor.read start

@[simp] theorem readAll_nil (start : μ) : monitor.readAll start [] = some start := rfl

theorem readAll_cons (start : μ) (record : ρ) (records : List ρ) :
    monitor.readAll start (record :: records) =
      (monitor.read start record).bind (monitor.readAll · records) := rfl

theorem readAll_append (start : μ) (front back : List ρ) :
    monitor.readAll start (front ++ back) =
      (monitor.readAll start front).bind (monitor.readAll · back) := List.foldlM_append

theorem readAll_cons_eq_some {start last : μ} {record : ρ} {records : List ρ}
    (reads : monitor.readAll start (record :: records) = some last) :
    ∃ next, monitor.read start record = some next ∧ monitor.readAll next records = some last :=
  Option.bind_eq_some_iff.mp reads

theorem readAll_append_eq_some {start last : μ} {front back : List ρ} :
    monitor.readAll start (front ++ back) = some last ↔
      ∃ middle, monitor.readAll start front = some middle ∧
        monitor.readAll middle back = some last := by
  rw [readAll_append]
  exact Option.bind_eq_some_iff

section Induction

variable (inv : List ρ → μ → Prop) (allowed : ρ → Prop) (front : List ρ) {records : List ρ}
  {start last : μ}

/-- What each step keeps, of the state and of the records read so far, a whole journal keeps. -/
theorem readAll_keeps
    (keeps : ∀ front state record next, inv front state → allowed record →
      monitor.read state record = some next → inv (front ++ [record]) next)
    (holds : inv front start) (given : ∀ record ∈ records, allowed record)
    (reads : monitor.readAll start records = some last) : inv (front ++ records) last := by
  induction records generalizing front start with
  | nil =>
      cases reads
      rwa [List.append_nil]
  | cons record records ih =>
      rw [List.forall_mem_cons] at given
      obtain ⟨next, step, rest⟩ := monitor.readAll_cons_eq_some reads
      rw [List.append_cons]
      exact ih (front ++ [record]) (keeps front start record next holds given.1 step) given.2 rest

/-- Where nothing is read in a final state, and each step gets to one exactly if its record is a
cause, a whole journal gets to one exactly if it has a cause. -/
theorem readAll_final_iff (final : μ → Prop) (cause : ρ → Prop)
    (keeps : ∀ front state record next, inv front state → allowed record →
      monitor.read state record = some next → inv (front ++ [record]) next)
    (stuck : ∀ state record, final state → monitor.read state record = none)
    (each : ∀ front state record next, inv front state → allowed record →
      monitor.read state record = some next → (final next ↔ cause record))
    (holds : inv front start) (running : ¬ final start)
    (given : ∀ record ∈ records, allowed record)
    (reads : monitor.readAll start records = some last) :
    final last ↔ ∃ record ∈ records, cause record := by
  induction records generalizing front start with
  | nil =>
      cases reads
      exact iff_of_false running (fun found => found.elim (fun _ holds => List.not_mem_nil holds.1))
  | cons record records ih =>
      rw [List.forall_mem_cons] at given
      obtain ⟨next, step, rest⟩ := monitor.readAll_cons_eq_some reads
      have reached := each front start record next holds given.1 step
      rw [List.exists_mem_cons_iff, ← reached]
      by_cases ended : final next
      · cases records with
        | nil =>
            cases rest
            exact iff_of_true ended (.inl ended)
        | cons other records =>
            obtain ⟨_, beyond, _⟩ := monitor.readAll_cons_eq_some rest
            exact nomatch (stuck next other ended).symm.trans beyond
      · have kept := keeps front start record next holds given.1 step
        rw [ih (front ++ [record]) kept ended given.2 rest, or_iff_right ended]

end Induction

/-- The computation adds records that the machine reads from where it stands, to an end that has
the property. -/
def Follows (program : EStateM ε σ α) (state : σ) (start : μ)
    (post : Except ε α → σ → μ → Prop) : Prop :=
  ∃ records last, monitor.journal (call program state).2 = monitor.journal state ++ records ∧
    monitor.readAll start records = some last ∧
    post (call program state).1 (call program state).2 last

variable {monitor} {program : EStateM ε σ α} {state : σ} {start : μ}
  {post : Except ε α → σ → μ → Prop}

/-- Nothing is added. -/
theorem Follows.silent {answer : Except ε α} {next : σ}
    (called : call program state = (answer, next))
    (unchanged : monitor.journal next = monitor.journal state) (holds : post answer next start) :
    monitor.Follows program state start post := by
  refine ⟨[], start, ?_, rfl, ?_⟩
  · rw [called, unchanged, List.append_nil]
  · rw [called]
    exact holds

/-- One record is added. -/
theorem Follows.record {answer : Except ε α} {next : σ} {record : ρ} {last : μ}
    (called : call program state = (answer, next))
    (added : monitor.journal next = monitor.journal state ++ [record])
    (reads : monitor.read start record = some last) (holds : post answer next last) :
    monitor.Follows program state start post := by
  refine ⟨[record], last, ?_, ?_, ?_⟩
  · rw [called, added]
  · rw [readAll_cons, reads]
    rfl
  · rw [called]
    exact holds

theorem Follows.pure {value : α} (holds : post (.ok value) state start) :
    monitor.Follows (Pure.pure value) state start post := .silent rfl rfl holds

theorem Follows.throw {reason : ε} (holds : post (.error reason) state start) :
    monitor.Follows (MonadExcept.throw reason) state start post := .silent rfl rfl holds

theorem Follows.mono {other : Except ε α → σ → μ → Prop}
    (follows : monitor.Follows program state start post)
    (weaker : ∀ answer next last, post answer next last → other answer next last) :
    monitor.Follows program state start other := by
  obtain ⟨records, last, added, reads, holds⟩ := follows
  exact ⟨records, last, added, reads, weaker _ _ _ holds⟩

/-- What follows a computation goes on from where the machine stands after it. -/
theorem Follows.bind {next : α → EStateM ε σ β} {goal : Except ε β → σ → μ → Prop}
    (before : monitor.Follows program state start (fun answer middle reached =>
      match answer with
      | .ok value => monitor.Follows (next value) middle reached goal
      | .error reason => goal (.error reason) middle reached)) :
    monitor.Follows (program >>= next) state start goal := by
  obtain ⟨records, reached, added, reads, after⟩ := before
  rw [Follows, call_bind]
  rcases ended : call program state with ⟨reason | value, middle⟩
  · rw [ended] at added after
    exact ⟨records, reached, added, reads, after⟩
  · rw [ended] at added after
    obtain ⟨later, last, more, rest, holds⟩ := after
    refine ⟨records ++ later, last, ?_, ?_, holds⟩
    · rw [andThen_ok, more, added, List.append_assoc]
    · rw [readAll_append, reads]
      exact rest

theorem Follows.attempt {goal : Except ε (Except ε α) → σ → μ → Prop}
    (follows : monitor.Follows program state start
      (fun answer next last => goal (.ok answer) next last)) :
    monitor.Follows (Lib.attempt program) state start goal := by
  obtain ⟨records, last, added, reads, holds⟩ := follows
  refine ⟨records, last, ?_, reads, ?_⟩
  · rw [call_attempt, added]
  · rw [call_attempt]
    exact holds

theorem Follows.get {goal : Except ε σ → σ → μ → Prop} (holds : goal (.ok state) state start) :
    monitor.Follows (MonadState.get : EStateM ε σ σ) state start goal := .silent rfl rfl holds

end Monitor

end Lib
