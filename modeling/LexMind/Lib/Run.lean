import Mathlib.Logic.Basic

set_option autoImplicit false

/- Runs of a system, as a function of each call and as a relation between
states, with the induction rules every whole-run result is an instance of. -/
namespace Lib

section Calls

variable {σ τ ω ρ : Type}

/-- Make the calls one after another and collect what each one answers. -/
def run (step : σ → ω → ρ × σ) : σ → List ω → List ρ × σ
  | state, [] => ([], state)
  | state, call :: rest =>
      let later := run step (step state call).2 rest
      ((step state call).1 :: later.1, later.2)

/-- Every call of the run is made in a state where `allowed` admits it. -/
def Along (step : σ → ω → ρ × σ) (allowed : σ → ω → Prop) : σ → List ω → Prop
  | _, [] => True
  | state, call :: rest => allowed state call ∧ Along step allowed (step state call).2 rest

@[simp] theorem run_nil (step : σ → ω → ρ × σ) (state : σ) : run step state [] = ([], state) := rfl

theorem run_cons_state (step : σ → ω → ρ × σ) (state : σ) (call : ω) (rest : List ω) :
    (run step state (call :: rest)).2 = (run step (step state call).2 rest).2 := rfl

theorem run_append_state (step : σ → ω → ρ × σ) (state : σ) (front back : List ω) :
    (run step state (front ++ back)).2 = (run step (run step state front).2 back).2 := by
  induction front generalizing state with
  | nil => rfl
  | cons call rest ih => exact ih (step state call).2

theorem run_append_answers (step : σ → ω → ρ × σ) (state : σ) (front back : List ω) :
    (run step state (front ++ back)).1 =
      (run step state front).1 ++ (run step (run step state front).2 back).1 := by
  induction front generalizing state with
  | nil => rfl
  | cons call rest ih => exact congrArg _ (ih (step state call).2)

instance Along.decidable {step : σ → ω → ρ × σ} {allowed : σ → ω → Prop}
    [∀ state call, Decidable (allowed state call)] (state : σ) (calls : List ω) :
    Decidable (Along step allowed state calls) :=
  match calls with
  | [] => .isTrue trivial
  | call :: rest =>
      have : Decidable (Along step allowed (step state call).2 rest) := Along.decidable _ rest
      inferInstanceAs (Decidable (allowed state call ∧ Along step allowed (step state call).2 rest))

@[simp] theorem along_nil (step : σ → ω → ρ × σ) (allowed : σ → ω → Prop) (state : σ) :
    Along step allowed state [] := trivial

theorem along_append (step : σ → ω → ρ × σ) (allowed : σ → ω → Prop) (state : σ)
    (front back : List ω) :
    Along step allowed state (front ++ back) ↔
      Along step allowed state front ∧ Along step allowed (run step state front).2 back := by
  induction front generalizing state with
  | nil => simp
  | cons call rest ih =>
      simp only [List.cons_append, Along, ih, and_assoc]
      rfl

/-- What every call meets in every state, a run meets. -/
theorem along_of_all {step : σ → ω → ρ × σ} {allowed : σ → ω → Prop}
    (all : ∀ state call, allowed state call) (state : σ) (calls : List ω) :
    Along step allowed state calls := by
  induction calls generalizing state with
  | nil => trivial
  | cons call rest ih => exact ⟨all state call, ih (step state call).2⟩

theorem Along.mono {step : σ → ω → ρ × σ} {weak strong : σ → ω → Prop}
    (implies : ∀ state call, strong state call → weak state call) {state : σ} {calls : List ω}
    (along : Along step strong state calls) : Along step weak state calls := by
  induction calls generalizing state with
  | nil => trivial
  | cons call rest ih => exact ⟨implies state call along.1, ih along.2⟩

/-- What each admitted call preserves, a run of admitted calls preserves. -/
theorem along_congr {step : σ → ω → ρ × σ} {first second : σ → ω → Prop}
    (same : ∀ state call, first state call ↔ second state call) (state : σ) (calls : List ω) :
    Along step first state calls ↔ Along step second state calls :=
  ⟨Along.mono fun state call => (same state call).mp,
    Along.mono fun state call => (same state call).mpr⟩

theorem run_invariant_along {step : σ → ω → ρ × σ} {allowed : σ → ω → Prop} {inv : σ → Prop}
    (keeps : ∀ state call, inv state → allowed state call → inv (step state call).2)
    {state : σ} {calls : List ω} (holds : inv state) (along : Along step allowed state calls) :
    inv (run step state calls).2 := by
  induction calls generalizing state with
  | nil => exact holds
  | cons call rest ih => exact ih (keeps state call holds along.1) along.2

/-- What an invariant adds to the condition on each call holds all along the run. -/
theorem Along.of_invariant {step : σ → ω → ρ × σ} {allowed target : σ → ω → Prop} {inv : σ → Prop}
    (keeps : ∀ state call, inv state → allowed state call → inv (step state call).2)
    (gives : ∀ state call, inv state → allowed state call → target state call)
    {state : σ} {calls : List ω} (holds : inv state) (along : Along step allowed state calls) :
    Along step target state calls := by
  induction calls generalizing state with
  | nil => trivial
  | cons call rest ih =>
      exact ⟨gives state call holds along.1, ih (keeps state call holds along.1) along.2⟩

theorem run_invariant {step : σ → ω → ρ × σ} {inv : σ → Prop}
    (keeps : ∀ state call, inv state → inv (step state call).2)
    {state : σ} (holds : inv state) (calls : List ω) : inv (run step state calls).2 := by
  induction calls generalizing state with
  | nil => exact holds
  | cons call rest ih => exact ih (keeps state call holds)

/-- The property holds in every state the run reaches. -/
def Throughout (step : σ → ω → ρ × σ) (inv : σ → Prop) : σ → List ω → Prop
  | state, [] => inv state
  | state, call :: rest => inv state ∧ Throughout step inv (step state call).2 rest

theorem throughout_iff (step : σ → ω → ρ × σ) (inv : σ → Prop) (state : σ) (calls : List ω) :
    Throughout step inv state calls ↔ ∀ front, front <+: calls → inv (run step state front).2 := by
  induction calls generalizing state with
  | nil =>
      constructor
      · intro holds front inside
        rwa [List.prefix_nil.mp inside]
      · exact fun all => all [] (List.prefix_refl [])
  | cons call rest ih =>
      rw [Throughout, ih]
      constructor
      · rintro ⟨first, later⟩ front inside
        rcases List.prefix_cons_iff.mp inside with rfl | ⟨tail, rfl, within⟩
        · exact first
        · exact later tail within
      · intro all
        refine ⟨all [] List.nil_prefix, fun front inside => ?_⟩
        exact all (call :: front) (List.cons_prefix_cons.mpr ⟨rfl, inside⟩)

/-- Where one call keeps the property, and meets what is asked of it, exactly when it is allowed, a
run does so exactly when all its calls are. -/
theorem throughout_and_along_iff {step : σ → ω → ρ × σ} {allowed target : σ → ω → Prop}
    {sound inv : σ → Prop}
    (keeps : ∀ state call, sound state → inv state → sound (step state call).2)
    (decides : ∀ state call, sound state → inv state →
      (inv (step state call).2 ∧ target state call ↔ allowed state call))
    {state : σ} (start : sound state) (holds : inv state) (calls : List ω) :
    Throughout step inv state calls ∧ Along step target state calls ↔
      Along step allowed state calls := by
  induction calls generalizing state with
  | nil => exact ⟨fun _ => trivial, fun _ => ⟨holds, trivial⟩⟩
  | cons call rest ih =>
      have first := decides state call start holds
      constructor
      · rintro ⟨⟨_, later⟩, met, meets⟩
        have kept : inv (step state call).2 := by
          cases rest with
          | nil => exact later
          | cons next rest => exact later.1
        exact ⟨first.mp ⟨kept, met⟩, (ih (keeps state call start holds) kept).mp ⟨later, meets⟩⟩
      · rintro ⟨fits, rest⟩
        obtain ⟨kept, met⟩ := first.mpr fits
        obtain ⟨later, meets⟩ := (ih (keeps state call start holds) kept).mpr rest
        exact ⟨⟨holds, later⟩, met, meets⟩

/-- The same where only the states matter. -/
theorem throughout_iff_along {step : σ → ω → ρ × σ} {allowed : σ → ω → Prop}
    {sound inv : σ → Prop}
    (keeps : ∀ state call, sound state → inv state → sound (step state call).2)
    (decides : ∀ state call, sound state → inv state →
      (inv (step state call).2 ↔ allowed state call))
    {state : σ} (start : sound state) (holds : inv state) (calls : List ω) :
    Throughout step inv state calls ↔ Along step allowed state calls := by
  have asked : Along step (fun _ _ => True) state calls :=
    along_of_all (fun _ _ => trivial) state calls
  rw [← throughout_and_along_iff keeps (fun state call first second =>
    (and_iff_left trivial).trans (decides state call first second)) start holds calls,
    and_iff_left asked]

/-- Two systems run alike, as far as the calls are followed, exactly where each call does the same
in both. -/
theorem run_alike_iff (first second : σ → ω → ρ × σ) (state : σ) (calls : List ω) :
    (∀ front, front <+: calls → run first state front = run second state front) ↔
      Along first (fun state call => first state call = second state call) state calls := by
  induction calls generalizing state with
  | nil =>
      refine ⟨fun _ => trivial, fun _ front inside => ?_⟩
      rw [List.prefix_nil.mp inside]
      rfl
  | cons call rest ih =>
      have lead (system : σ → ω → ρ × σ) (later : List ω) :
          run system state (call :: later) = ((system state call).1 ::
            (run system (system state call).2 later).1, (run system (system state call).2 later).2) :=
        rfl
      constructor
      · intro alike
        have once := alike [call] (List.cons_prefix_cons.mpr ⟨rfl, List.nil_prefix⟩)
        rw [lead, lead, Prod.mk.injEq] at once
        have same : first state call = second state call :=
          Prod.ext (List.cons.inj once.1).1 once.2
        refine ⟨same, (ih _).mp fun front inside => ?_⟩
        have longer := alike (call :: front) (List.cons_prefix_cons.mpr ⟨rfl, inside⟩)
        rw [lead, lead, ← same, Prod.mk.injEq] at longer
        exact Prod.ext (List.cons.inj longer.1).2 longer.2
      · rintro ⟨same, later⟩ front inside
        rcases List.prefix_cons_iff.mp inside with rfl | ⟨tail, rfl, within⟩
        · rfl
        · rw [lead, lead, ← same, (ih _).mpr later tail within]

/-- The sum of a weight of each call of the run, by what it finds, answers and leaves. -/
def tally (step : σ → ω → ρ × σ) (weight : σ → ω → ρ × σ → Nat) : σ → List ω → Nat
  | _, [] => 0
  | state, call :: rest => weight state call (step state call) + tally step weight (step state call).2 rest

/-- Where each call moves a quantity by what enters less what leaves in two ways, so does a run. -/
theorem tally_balance {step : σ → ω → ρ × σ} {allowed : σ → ω → Prop} {held : σ → Nat}
    {enters taken dropped : σ → ω → ρ × σ → Nat}
    (balance : ∀ state call, allowed state call →
      held state + enters state call (step state call) =
        taken state call (step state call) + dropped state call (step state call) +
          held (step state call).2)
    {state : σ} {calls : List ω} (along : Along step allowed state calls) :
    held state + tally step enters state calls =
      tally step taken state calls + tally step dropped state calls +
        held (run step state calls).2 := by
  induction calls generalizing state with
  | nil => simp [tally]
  | cons call rest ih =>
      have first := balance state call along.1
      have later := ih along.2
      rw [tally, tally, tally, run_cons_state]
      omega

end Calls

section Steps

variable {σ ℓ : Type}

/-- The steps of a labelled transition relation taken one after another. -/
inductive Steps (step : σ → ℓ → σ → Prop) : σ → List ℓ → σ → Prop
  | nil (state : σ) : Steps step state [] state
  | cons {state middle last : σ} {label : ℓ} {labels : List ℓ}
      (first : step state label middle) (rest : Steps step middle labels last) :
      Steps step state (label :: labels) last

/-- The steps whose source state and label meet a condition. -/
def Guarded (step : σ → ℓ → σ → Prop) (guard : σ → ℓ → Prop) (state : σ) (label : ℓ)
    (next : σ) : Prop :=
  guard state label ∧ step state label next

theorem Steps.single {step : σ → ℓ → σ → Prop} {state next : σ} {label : ℓ}
    (taken : step state label next) : Steps step state [label] next :=
  .cons taken (.nil next)

theorem Steps.append {step : σ → ℓ → σ → Prop} {state middle last : σ} {front back : List ℓ}
    (first : Steps step state front middle) (second : Steps step middle back last) :
    Steps step state (front ++ back) last := by
  induction first with
  | nil => exact second
  | cons taken _ ih => exact .cons taken (ih second)

/-- The steps of a partial function are its iteration. -/
theorem steps_of_foldlM {next : σ → ℓ → Option σ} {state last : σ} {labels : List ℓ}
    (taken : labels.foldlM next state = some last) :
    Steps (fun before label after => next before label = some after) state labels last := by
  induction labels generalizing state with
  | nil =>
      cases taken
      exact .nil _
  | cons label rest ih =>
      rw [List.foldlM_cons] at taken
      obtain ⟨middle, first, later⟩ := Option.bind_eq_some_iff.mp taken
      exact .cons first (ih later)

theorem Steps.invariant {step : σ → ℓ → σ → Prop} {inv : σ → Prop}
    (keeps : ∀ state label next, inv state → step state label next → inv next)
    {state last : σ} {labels : List ℓ} (steps : Steps step state labels last)
    (holds : inv state) : inv last := by
  induction steps with
  | nil => exact holds
  | cons taken _ ih => exact ih (keeps _ _ _ holds taken)

end Steps

end Lib
