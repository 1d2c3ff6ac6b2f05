import LexMind.Lib.Call
import LexMind.Lib.Run

set_option autoImplicit false

/- When a system answers every call of a run as a simpler one does. -/
namespace Lib

section Steps

variable {σ τ ω ρ : Type}

/-- From related states, an allowed call is answered alike and leaves related states. -/
def Simulates (related : σ → τ → Prop) (allowed : σ → ω → Prop) (system : σ → ω → ρ × σ)
    (model : τ → ω → ρ × τ) : Prop :=
  ∀ state shadow call, related state shadow → allowed state call →
    (system state call).1 = (model shadow call).1 ∧
      related (system state call).2 (model shadow call).2

variable {related : σ → τ → Prop} {allowed : σ → ω → Prop} {system : σ → ω → ρ × σ}
  {model : τ → ω → ρ × τ}

/-- What one call does, a run of allowed calls does. -/
theorem Simulates.run (simulates : Simulates related allowed system model) {state : σ}
    {shadow : τ} {calls : List ω} (start : related state shadow)
    (along : Along system allowed state calls) :
    (run system state calls).1 = (run model shadow calls).1 ∧
      related (run system state calls).2 (run model shadow calls).2 := by
  induction calls generalizing state shadow with
  | nil => exact ⟨rfl, start⟩
  | cons call rest ih =>
      obtain ⟨answer, after⟩ := simulates state shadow call start along.1
      obtain ⟨answers, last⟩ := ih after along.2
      exact ⟨congrArg₂ List.cons answer answers, last⟩

/-- Calls that are allowed in every state are allowed along a run. -/
theorem along_of_mem {always : ω → Prop} {calls : List ω} (each : ∀ call ∈ calls, always call)
    (state : σ) : Along system (fun _ call => always call) state calls := by
  induction calls generalizing state with
  | nil => trivial
  | cons call rest ih =>
      obtain ⟨first, later⟩ := List.forall_mem_cons.mp each
      exact ⟨first, ih later _⟩

end Steps

section Programs

variable {ε σ τ α β : Type} {related : σ → τ → Prop}

/-- From related states two computations answer alike and leave related states. -/
def Tracks (related : σ → τ → Prop) (program : EStateM ε σ α) (image : EStateM ε τ α) : Prop :=
  ∀ state shadow, related state shadow →
    (call program state).1 = (call image shadow).1 ∧
      related (call program state).2 (call image shadow).2

theorem Tracks.map {program : EStateM ε σ α} {image : EStateM ε τ α} (change : α → β)
    (tracks : Tracks related program image) :
    Tracks related (change <$> program) (change <$> image) := by
  intro state shadow holds
  obtain ⟨answer, after⟩ := tracks state shadow holds
  rw [call_map, call_map, answer]
  exact ⟨rfl, after⟩

theorem Tracks.bind {program : EStateM ε σ α} {image : EStateM ε τ α}
    {next : α → EStateM ε σ β} {next' : α → EStateM ε τ β} (first : Tracks related program image)
    (after : ∀ value, Tracks related (next value) (next' value)) :
    Tracks related (program >>= next) (image >>= next') := by
  intro state shadow holds
  obtain ⟨answer, middle⟩ := first state shadow holds
  rw [call_bind, call_bind]
  rcases ended : call program state with ⟨reason | value, last⟩
  · rcases ended' : call image shadow with ⟨reason' | value', last'⟩
    · rw [ended, ended'] at answer middle
      exact ⟨congrArg Except.error (Except.error.inj answer), middle⟩
    · rw [ended, ended'] at answer
      cases answer
  · rcases ended' : call image shadow with ⟨reason' | value', last'⟩
    · rw [ended, ended'] at answer
      cases answer
    · rw [ended, ended'] at answer middle
      cases answer
      exact after value last last' middle

end Programs

end Lib
