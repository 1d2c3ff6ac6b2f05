import Mathlib.Logic.Basic

set_option autoImplicit false

/- Computations that change a state and may raise, where a raise keeps the
changes made before it. -/
namespace Lib

variable {ε σ τ α β : Type}

/-- The answer of a computation, and the state it leaves whether it returned or
raised. -/
def call (program : EStateM ε σ α) (state : σ) : Except ε α × σ :=
  match program state with
  | .ok value next => (.ok value, next)
  | .error reason next => (.error reason, next)

/-- Continue from an answer, or pass the raise on. -/
def andThen (before : Except ε α × σ) (next : α → EStateM ε σ β) : Except ε β × σ :=
  match before with
  | (.ok value, state) => call (next value) state
  | (.error reason, state) => (.error reason, state)

/-- Raise the error of a pure check, or return its value. -/
def check (result : Except ε α) : EStateM ε σ α := fun state =>
  match result with
  | .ok value => .ok value state
  | .error reason => .error reason state

/-- Run a computation and return its raise as a value: what it changed stays. -/
def attempt (program : EStateM ε σ α) : EStateM ε σ (Except ε α) := fun state =>
  match program state with
  | .ok value next => .ok (.ok value) next
  | .error reason next => .ok (.error reason) next

/-- Run a computation on one part of the state. -/
def onPart (get : τ → σ) (set : τ → σ → τ) (program : EStateM ε σ α) : EStateM ε τ α := fun whole =>
  match program (get whole) with
  | .ok value next => .ok value (set whole next)
  | .error reason next => .error reason (set whole next)

@[simp] theorem call_pure (value : α) (state : σ) :
    call (pure value : EStateM ε σ α) state = (.ok value, state) := rfl

@[simp] theorem call_bind (program : EStateM ε σ α) (next : α → EStateM ε σ β) (state : σ) :
    call (program >>= next) state = andThen (call program state) next := by
  simp only [call, andThen, bind, EStateM.bind]
  cases program state <;> rfl

@[simp] theorem map_ok (change : α → β) (value : α) :
    (Except.ok value : Except ε α).map change = .ok (change value) := rfl

@[simp] theorem map_error (change : α → β) (reason : ε) :
    (Except.error reason : Except ε α).map change = .error reason := rfl

@[simp] theorem call_map (change : α → β) (program : EStateM ε σ α) (state : σ) :
    call (change <$> program) state =
      ((call program state).1.map change, (call program state).2) := by
  simp only [call, Functor.map, EStateM.map]
  cases program state <;> rfl

@[simp] theorem call_ite (condition : Prop) [Decidable condition] (yes no : EStateM ε σ α) (state : σ) :
    call (if condition then yes else no) state =
      if condition then call yes state else call no state := by
  split <;> rfl

@[simp] theorem andThen_ok (value : α) (state : σ) (next : α → EStateM ε σ β) :
    andThen (.ok value, state) next = call (next value) state := rfl

@[simp] theorem andThen_error (reason : ε) (state : σ) (next : α → EStateM ε σ β) :
    andThen (.error reason, state) next = (.error reason, state) := rfl

@[simp] theorem andThen_pure (before : Except ε α × σ) (change : α → β) :
    andThen before (fun value => (pure (change value) : EStateM ε σ β)) =
      (before.1.map change, before.2) := by
  obtain ⟨answer, state⟩ := before
  cases answer <;> rfl

@[simp] theorem call_throw (reason : ε) (state : σ) :
    call (throw reason : EStateM ε σ α) state = (.error reason, state) := rfl

@[simp] theorem call_get (state : σ) :
    call (get : EStateM ε σ σ) state = (.ok state, state) := rfl

@[simp] theorem call_set (old new : σ) :
    call (set new : EStateM ε σ PUnit) old = (.ok ⟨⟩, new) := rfl

@[simp] theorem call_modify (change : σ → σ) (state : σ) :
    call (modify change : EStateM ε σ PUnit) state = (.ok ⟨⟩, change state) := rfl

@[simp] theorem call_check (result : Except ε α) (state : σ) :
    call (check result : EStateM ε σ α) state = (result, state) := by
  cases result <;> rfl

@[simp] theorem call_attempt (program : EStateM ε σ α) (state : σ) :
    call (attempt program) state = (.ok (call program state).1, (call program state).2) := by
  simp only [call, attempt]
  cases program state <;> rfl

@[simp] theorem call_onPart (get : τ → σ) (set : τ → σ → τ) (program : EStateM ε σ α)
    (whole : τ) :
    call (onPart get set program) whole =
      ((call program (get whole)).1, set whole (call program (get whole)).2) := by
  simp only [call, onPart]
  cases program (get whole) <;> rfl

/-- A check that fails ends the computation where it stands. -/
theorem check_bind_cases (result : Except ε α) (next : α → EStateM ε σ β) (state : σ) :
    (∃ reason, call (check result >>= next) state = (.error reason, state)) ∨
      ∃ value, result = .ok value ∧
        call (check result >>= next) state = call (next value) state := by
  rw [call_bind, call_check]
  cases result with
  | error reason => exact .inl ⟨reason, rfl⟩
  | ok value => exact .inr ⟨value, rfl, rfl⟩

theorem isOk_iff (result : Except ε α) : result.isOk = true ↔ ∃ value, result = .ok value := by
  cases result with
  | error reason => exact ⟨nofun, nofun⟩
  | ok value => exact ⟨fun _ => ⟨value, rfl⟩, fun _ => rfl⟩

/-- What a sequence of checks returns, its parts return. -/
theorem returned_of_bind {first : Except ε α} {next : α → Except ε β} {result : β}
    (returned : (first >>= next) = .ok result) :
    ∃ value, first = .ok value ∧ next value = .ok result := by
  cases first with
  | error reason => cases returned
  | ok value => exact ⟨value, rfl, returned⟩

/-- What a computation returns, its parts return. -/
theorem returned_of_call_bind {program : EStateM ε σ α} {next : α → EStateM ε σ β}
    {state final : σ} {result : β}
    (returned : call (program >>= next) state = (.ok result, final)) :
    ∃ value middle, call program state = (.ok value, middle) ∧
      call (next value) middle = (.ok result, final) := by
  rw [call_bind] at returned
  rcases ended : call program state with ⟨_ | value, middle⟩
  · rw [ended, andThen_error] at returned
    cases returned
  · rw [ended, andThen_ok] at returned
    exact ⟨value, middle, rfl, returned⟩

section Rules

/-- Two continuations that agree where the computation can leave the state end it alike. -/
theorem bind_congr_on {program : EStateM ε σ α} {first second : α → EStateM ε σ β} {state : σ}
    {inv : σ → Prop} (keeps : inv (call program state).2)
    (same : ∀ value next, inv next → call (first value) next = call (second value) next) :
    call (program >>= first) state = call (program >>= second) state := by
  rw [call_bind, call_bind]
  rcases ended : call program state with ⟨reason | value, middle⟩
  · rfl
  · rw [ended] at keeps
    exact same value middle keeps

/-- What holds where a computation raises and after whatever follows where it
returns holds in the end. -/
theorem bind_ends {program : EStateM ε σ α} {next : α → EStateM ε σ β} {state : σ}
    {post : σ → Prop} (raised : post (call program state).2)
    (returned : ∀ value, (call program state).1 = .ok value →
      post (call (next value) (call program state).2).2) :
    post (call (program >>= next) state).2 := by
  rw [call_bind]
  rcases ended : call program state with ⟨reason | value, middle⟩
  · rwa [ended] at raised
  · rw [ended] at returned
    exact returned value rfl

/-- Seen through the view, one computation is the other. -/
def Mirrors (view : σ → τ) (program : EStateM ε σ α) (image : EStateM ε τ α) : Prop :=
  ∀ state, call image (view state) = ((call program state).1, view (call program state).2)

section Views

variable {view : σ → τ} {program : EStateM ε σ α} {image : EStateM ε τ α}

theorem Mirrors.pure (value : α) :
    Mirrors view (pure value : EStateM ε σ α) (pure value) := fun _ => rfl

theorem Mirrors.throw_bind (reason : ε) {next : β → EStateM ε σ α} {next' : β → EStateM ε τ α} :
    Mirrors view (throw reason >>= next) (throw reason >>= next') := fun _ => rfl

theorem Mirrors.check (result : Except ε α) :
    Mirrors view (check result : EStateM ε σ α) (check result) := by
  intro state
  rw [call_check, call_check]

theorem Mirrors.ite (condition : Prop) [Decidable condition] {other : EStateM ε σ α}
    {image' : EStateM ε τ α} (first : Mirrors view program image)
    (second : Mirrors view other image') :
    Mirrors view (if condition then program else other)
      (if condition then image else image') := by
  split
  · exact first
  · exact second

theorem Mirrors.bind {next : α → EStateM ε σ β} {next' : α → EStateM ε τ β}
    (before : Mirrors view program image) (after : ∀ value, Mirrors view (next value) (next' value)) :
    Mirrors view (program >>= next) (image >>= next') := by
  intro state
  rw [call_bind, call_bind, before state]
  rcases call program state with ⟨reason | value, middle⟩
  · rfl
  · exact after value middle

theorem Mirrors.throw (reason : ε) :
    Mirrors view (throw reason : EStateM ε σ α) (throw reason) := fun _ => rfl

theorem Mirrors.modify {change : σ → σ} {change' : τ → τ}
    (same : ∀ state, change' (view state) = view (change state)) :
    Mirrors view (modify change : EStateM ε σ PUnit) (modify change') := by
  intro state
  rw [call_modify, call_modify, same state]

/-- What is read may differ, as far as the view shows. -/
theorem Mirrors.get_bind {next : σ → EStateM ε σ β} {next' : τ → EStateM ε τ β}
    (after : ∀ found, Mirrors view (next found) (next' (view found))) :
    Mirrors view (get >>= next) (get >>= next') := by
  intro state
  rw [call_bind, call_bind, call_get, call_get, andThen_ok, andThen_ok]
  exact after state state

theorem Mirrors.attempt (mirrors : Mirrors view program image) :
    Mirrors view (Lib.attempt program) (Lib.attempt image) := by
  intro state
  rw [call_attempt, call_attempt, mirrors state]

end Views

/-- However a computation ends, its state is left so related to the one it found. -/
def Leaves (related : σ → σ → Prop) (program : EStateM ε σ α) : Prop :=
  ∀ state, related state (call program state).2

variable {related : σ → σ → Prop}

theorem Leaves.pure (reflexive : ∀ state, related state state) (value : α) :
    Leaves related (pure value : EStateM ε σ α) := reflexive

theorem Leaves.get (reflexive : ∀ state, related state state) :
    Leaves related (get : EStateM ε σ σ) := reflexive

theorem Leaves.throw (reflexive : ∀ state, related state state) (reason : ε) :
    Leaves related (throw reason : EStateM ε σ α) := reflexive

theorem Leaves.bind
    (transitive : ∀ first middle last, related first middle → related middle last →
      related first last)
    {program : EStateM ε σ α} {next : α → EStateM ε σ β} (before : Leaves related program)
    (after : ∀ value, Leaves related (next value)) : Leaves related (program >>= next) := by
  intro state
  rw [call_bind]
  have first := before state
  rcases ended : call program state with ⟨_ | value, middle⟩
  · rwa [ended] at first
  · rw [ended] at first
    exact transitive _ _ _ first (after value middle)

theorem Leaves.attempt {program : EStateM ε σ α} (leaves : Leaves related program) :
    Leaves related (attempt program) := by
  intro state
  rw [call_attempt]
  exact leaves state

theorem Leaves.modify {change : σ → σ} (changes : ∀ state, related state (change state)) :
    Leaves related (modify change : EStateM ε σ PUnit) := changes

/-- From a state that meets the invariant, a computation raises nothing but what is allowed, and
leaves the invariant. -/
def RaisesOnly (inv : σ → Prop) (allowed : ε → Prop) (program : EStateM ε σ α) : Prop :=
  ∀ state, inv state →
    (∀ reason, (call program state).1 = .error reason → allowed reason) ∧ inv (call program state).2

variable {inv : σ → Prop} {allowed : ε → Prop}

theorem RaisesOnly.pure (value : α) : RaisesOnly inv allowed (pure value : EStateM ε σ α) :=
  fun _ holds => ⟨nofun, holds⟩

theorem RaisesOnly.get : RaisesOnly inv allowed (get : EStateM ε σ σ) :=
  fun _ holds => ⟨nofun, holds⟩

theorem RaisesOnly.modify {change : σ → σ} (keeps : ∀ state, inv state → inv (change state)) :
    RaisesOnly inv allowed (modify change : EStateM ε σ PUnit) :=
  fun state holds => ⟨nofun, keeps state holds⟩

theorem RaisesOnly.throw {reason : ε} (fits : allowed reason) :
    RaisesOnly inv allowed (throw reason : EStateM ε σ α) := by
  intro state holds
  refine ⟨?_, holds⟩
  intro raised same
  rw [call_throw] at same
  exact Except.error.inj same ▸ fits

theorem RaisesOnly.throw_bind {reason : ε} {next : α → EStateM ε σ β} (fits : allowed reason) :
    RaisesOnly inv allowed (MonadExcept.throw reason >>= next) := by
  intro state holds
  refine ⟨?_, holds⟩
  intro raised same
  rw [call_bind, call_throw, andThen_error] at same
  exact Except.error.inj same ▸ fits

theorem RaisesOnly.check {result : Except ε α}
    (fits : ∀ reason, result = .error reason → allowed reason) :
    RaisesOnly inv allowed (check result : EStateM ε σ α) := by
  intro state holds
  rw [call_check]
  exact ⟨fits, holds⟩

theorem RaisesOnly.bind {program : EStateM ε σ α} {next : α → EStateM ε σ β}
    (before : RaisesOnly inv allowed program)
    (after : ∀ value, RaisesOnly inv allowed (next value)) :
    RaisesOnly inv allowed (program >>= next) := by
  intro state holds
  rw [call_bind]
  have first := before state holds
  rcases ended : call program state with ⟨reason | value, middle⟩
  · rw [ended] at first
    refine ⟨?_, first.2⟩
    intro raised same
    exact first.1 raised (congrArg Except.error (Except.error.inj same))
  · rw [ended] at first
    exact after value middle first.2

theorem RaisesOnly.map {program : EStateM ε σ α} (change : α → β)
    (before : RaisesOnly inv allowed program) : RaisesOnly inv allowed (change <$> program) := by
  intro state holds
  rw [call_map]
  refine ⟨?_, (before state holds).2⟩
  intro reason raised
  have first := (before state holds).1
  cases answered : (call program state).1 with
  | error other =>
      rw [answered, map_error] at raised
      exact first reason (answered.trans (congrArg Except.error (Except.error.inj raised)))
  | ok value =>
      rw [answered, map_ok] at raised
      cases raised

theorem RaisesOnly.ite {condition : Prop} [Decidable condition] {yes no : EStateM ε σ α}
    (first : RaisesOnly inv allowed yes) (second : RaisesOnly inv allowed no) :
    RaisesOnly inv allowed (if condition then yes else no) := by
  split
  · exact first
  · exact second

/-- From a state that meets the invariant, a computation leaves it however it ends, and returns
nothing but what is expected. -/
def Ensures (inv : σ → Prop) (expected : α → Prop) (program : EStateM ε σ α) : Prop :=
  ∀ state, inv state →
    (∀ value, (call program state).1 = .ok value → expected value) ∧ inv (call program state).2

section Ensuring

variable {expected : α → Prop} {promised : β → Prop}

theorem Ensures.pure {value : α} (fits : expected value) :
    Ensures inv expected (pure value : EStateM ε σ α) :=
  fun _ holds => ⟨fun _ same => Except.ok.inj same ▸ fits, holds⟩

theorem Ensures.mono {program : EStateM ε σ α} {weaker : α → Prop}
    (ensures : Ensures inv expected program) (implies : ∀ value, expected value → weaker value) :
    Ensures inv weaker program := fun state holds =>
  ⟨fun value returned => implies value ((ensures state holds).1 value returned),
    (ensures state holds).2⟩

theorem Ensures.throw (reason : ε) : Ensures inv expected (throw reason : EStateM ε σ α) :=
  fun _ holds => ⟨nofun, holds⟩

theorem Ensures.throw_bind (reason : ε) {next : β → EStateM ε σ α} :
    Ensures inv expected (MonadExcept.throw reason >>= next) := fun _ holds => ⟨nofun, holds⟩

theorem Ensures.check {result : Except ε α} (fits : ∀ value, result = .ok value → expected value) :
    Ensures inv expected (check result : EStateM ε σ α) := by
  intro state holds
  rw [call_check]
  exact ⟨fits, holds⟩

theorem Ensures.get : Ensures inv inv (get : EStateM ε σ σ) :=
  fun _ holds => ⟨fun _ same => Except.ok.inj same ▸ holds, holds⟩

theorem Ensures.modify {change : σ → σ} {expected : PUnit → Prop} (fits : expected ⟨⟩)
    (keeps : ∀ state, inv state → inv (change state)) :
    Ensures inv expected (modify change : EStateM ε σ PUnit) :=
  fun state holds => ⟨fun _ _ => fits, keeps state holds⟩

theorem Ensures.bind {program : EStateM ε σ α} {next : α → EStateM ε σ β}
    (before : Ensures inv expected program)
    (after : ∀ value, expected value → Ensures inv promised (next value)) :
    Ensures inv promised (program >>= next) := by
  intro state holds
  obtain ⟨fits, keeps⟩ := before state holds
  rw [call_bind]
  rcases ended : call program state with ⟨reason | value, middle⟩
  · rw [ended] at keeps
    exact ⟨nofun, keeps⟩
  · rw [ended] at fits keeps
    exact after value (fits value rfl) middle keeps

theorem Ensures.map {program : EStateM ε σ α} {change : α → β}
    (before : Ensures inv (fun value => promised (change value)) program) :
    Ensures inv promised (change <$> program) := by
  intro state holds
  obtain ⟨fits, keeps⟩ := before state holds
  rw [call_map]
  refine ⟨fun answer returned => ?_, keeps⟩
  cases ended : (call program state).1 with
  | error reason =>
      rw [ended] at returned
      cases returned
  | ok value =>
      rw [ended] at returned
      cases returned
      exact fits value ended

theorem Ensures.ite {condition : Prop} [Decidable condition] {yes no : EStateM ε σ α}
    (first : Ensures inv expected yes) (second : Ensures inv expected no) :
    Ensures inv expected (if condition then yes else no) := by
  split
  · exact first
  · exact second

/-- What an attempt returns is the raise, or what was expected. -/
theorem Ensures.attempt {program : EStateM ε σ α} (before : Ensures inv expected program) :
    Ensures inv (fun result => ∀ value, result = .ok value → expected value)
      (attempt program) := by
  intro state holds
  obtain ⟨fits, keeps⟩ := before state holds
  rw [call_attempt]
  exact ⟨fun result same => Except.ok.inj same ▸ fits, keeps⟩

/-- A computation on a part keeps what the whole says of the part. -/
theorem Ensures.onPart {τ : Type} {get : τ → σ} {set : τ → σ → τ} {whole : τ → Prop}
    {program : EStateM ε σ α} (before : Ensures inv expected program)
    (reads : ∀ state, whole state → inv (get state))
    (writes : ∀ state part, whole state → inv part → whole (set state part)) :
    Ensures whole expected (onPart get set program) := by
  intro state holds
  obtain ⟨fits, keeps⟩ := before (get state) (reads state holds)
  rw [call_onPart]
  exact ⟨fits, writes state _ holds keeps⟩

end Ensuring

end Rules

/-- A loop of checks passes exactly when each of them does. -/
theorem forM_ok_iff (test : α → Except ε Unit) (values : List α) :
    values.forM test = .ok () ↔ ∀ value ∈ values, test value = .ok () := by
  induction values with
  | nil => exact ⟨fun _ _ inside => absurd inside List.not_mem_nil, fun _ => rfl⟩
  | cons value rest ih =>
      rw [List.forall_mem_cons, ← ih]
      change (test value >>= fun _ => rest.forM test) = .ok () ↔ _
      cases test value with
      | ok _ => simp [bind, Except.bind]
      | error reason => simp [bind, Except.bind]

/-- What a loop of checks raises, one of them raises. -/
theorem forM_raised {test : α → Except ε Unit} {values : List α} {reason : ε}
    (raised : values.forM test = .error reason) : ∃ value ∈ values, test value = .error reason := by
  induction values with
  | nil => cases raised
  | cons value rest ih =>
      change (test value >>= fun _ => rest.forM test) = .error reason at raised
      cases first : test value with
      | error other =>
          rw [first] at raised
          cases raised
          exact ⟨value, List.mem_cons_self, first⟩
      | ok _ =>
          rw [first] at raised
          obtain ⟨other, inside, found⟩ := ih raised
          exact ⟨other, List.mem_cons_of_mem _ inside, found⟩

/-- Where each of the values is answered, all of them are, in their order. -/
theorem mapM_returns {γ : Type} {body : α → Except ε β} {key : α → γ} {label : β → γ}
    {values : List α}
    (returns : ∀ value ∈ values, ∃ answer, body value = .ok answer ∧ label answer = key value) :
    ∃ answers, values.mapM body = .ok answers ∧ answers.map label = values.map key := by
  induction values with
  | nil => exact ⟨[], rfl, rfl⟩
  | cons value rest ih =>
      obtain ⟨answer, first, same⟩ := returns value List.mem_cons_self
      obtain ⟨answers, later, agree⟩ := ih (fun other inside =>
        returns other (List.mem_cons_of_mem value inside))
      refine ⟨answer :: answers, ?_, ?_⟩
      · rw [List.mapM_cons, first]
        show (rest.mapM body >>= fun answers => pure (answer :: answers)) = _
        rw [later]
        rfl
      · rw [List.map_cons, List.map_cons, same, agree]

/-- The answers for those of the values that are kept, whatever order they are read in. -/
theorem mapM_filter_returns {γ : Type} {body : α → Except ε β} {key : α → γ} {label : β → γ}
    {values source : List α} (keep : α → Bool) (same : ∀ value, value ∈ values ↔ value ∈ source)
    (returns : ∀ value ∈ source, ∃ answer, body value = .ok answer ∧ label answer = key value) :
    ∃ answers, (values.filter keep).mapM body = .ok answers ∧
      ∀ k, (∃ answer ∈ answers, label answer = k) ↔
        ∃ value ∈ source, key value = k ∧ keep value = true := by
  have kept : ∀ value ∈ values.filter keep, ∃ answer, body value = .ok answer ∧
      label answer = key value := fun value inside =>
    returns value ((same value).mp (List.mem_filter.mp inside).1)
  obtain ⟨answers, returned, labels⟩ := mapM_returns kept
  refine ⟨answers, returned, fun k => ?_⟩
  calc (∃ answer ∈ answers, label answer = k)
      ↔ k ∈ answers.map label := List.mem_map.symm
    _ ↔ ∃ value ∈ source, key value = k ∧ keep value = true := by
        rw [labels, List.mem_map]
        simp only [List.mem_filter, same]
        constructor
        · intro holds
          obtain ⟨value, ⟨inside, passes⟩, named⟩ := holds
          exact ⟨value, inside, named, passes⟩
        · intro holds
          obtain ⟨value, inside, named, passes⟩ := holds
          exact ⟨value, ⟨inside, passes⟩, named⟩

/-- A list is returned only where each of its values is. -/
theorem mapM_returned {body : α → Except ε β} {values : List α} {answers : List β}
    (returned : values.mapM body = .ok answers) :
    ∀ value ∈ values, ∃ answer, body value = .ok answer := by
  induction values generalizing answers with
  | nil => exact nofun
  | cons value rest ih =>
      rw [List.mapM_cons] at returned
      obtain ⟨answer, first, returned⟩ := returned_of_bind returned
      obtain ⟨others, later, _⟩ := returned_of_bind returned
      intro other inside
      rcases List.mem_cons.mp inside with rfl | inside
      · exact ⟨answer, first⟩
      · exact ih later other inside

/-- What ends a list is raised at one of its values. -/
theorem mapM_raised {body : α → Except ε β} {values : List α} {reason : ε}
    (raised : values.mapM body = .error reason) : ∃ value ∈ values, body value = .error reason := by
  induction values with
  | nil => cases raised
  | cons value rest ih =>
      rw [List.mapM_cons] at raised
      cases first : body value with
      | error other =>
          rw [first] at raised
          cases raised
          exact ⟨value, List.mem_cons_self, first⟩
      | ok answer =>
          cases later : rest.mapM body with
          | error other =>
              rw [first, later] at raised
              cases raised
              obtain ⟨value, inside, stopped⟩ := ih later
              exact ⟨value, List.mem_cons_of_mem _ inside, stopped⟩
          | ok answers =>
              rw [first, later] at raised
              cases raised

/-- What each turn of a loop keeps holds when the loop returns. -/
theorem foldlM_invariant {body : σ → α → Except ε σ} {inv : σ → Prop}
    (keeps : ∀ state value next, inv state → body state value = .ok next → inv next)
    {values : List α} {state final : σ} (holds : inv state)
    (returned : values.foldlM body state = .ok final) : inv final := by
  induction values generalizing state with
  | nil =>
      cases returned
      exact holds
  | cons value rest ih =>
      rw [List.foldlM_cons] at returned
      cases turn : body state value with
      | error reason =>
          rw [turn] at returned
          cases returned
      | ok next =>
          rw [turn] at returned
          exact ih (keeps state value next holds turn) returned

/-- Two loops whose bodies agree while an invariant holds are the same. -/
theorem foldlM_congr {first second : σ → α → Except ε σ} {inv : σ → Prop}
    (keeps : ∀ state value next, inv state → second state value = .ok next → inv next)
    (values : List α)
    (same : ∀ value ∈ values, ∀ state, inv state → first state value = second state value)
    {state : σ} (holds : inv state) : values.foldlM first state = values.foldlM second state := by
  induction values generalizing state with
  | nil => rfl
  | cons value rest ih =>
      rw [List.foldlM_cons, List.foldlM_cons, same value List.mem_cons_self state holds]
      cases turn : second state value with
      | error reason => rfl
      | ok next =>
          exact ih (fun other inside => same other (List.mem_cons_of_mem _ inside))
            (keeps state value next holds turn)

/-- A loop over the image of a state is the image of the loop, where its turns are. -/
theorem foldlM_image {first : τ → α → Except ε τ} {second : σ → α → Except ε σ} {change : σ → τ}
    {values : List α}
    (same : ∀ state, ∀ value ∈ values, first (change state) value = (second state value).map change)
    (state : σ) :
    values.foldlM first (change state) = (values.foldlM second state).map change := by
  induction values generalizing state with
  | nil => rfl
  | cons value rest ih =>
      rw [List.foldlM_cons, List.foldlM_cons, same state value List.mem_cons_self]
      cases second state value with
      | error reason => rfl
      | ok next =>
          exact ih (fun state other inside => same state other (List.mem_cons_of_mem _ inside)) next

/-- Two checks that both return related values, or both raise the same. -/
def Agree (related : σ → τ → Prop) : Except ε σ → Except ε τ → Prop
  | .ok first, .ok second => related first second
  | .error first, .error second => first = second
  | _, _ => False

/-- Checks that agree, followed by checks that agree on related values. -/
theorem Agree.bind {σ' τ' : Type} {related : σ → τ → Prop} {after : σ' → τ' → Prop}
    {first : Except ε σ} {second : Except ε τ} {next : σ → Except ε σ'} {image : τ → Except ε τ'}
    (before : Agree related first second)
    (rest : ∀ value other, related value other → Agree after (next value) (image other)) :
    Agree after (first >>= next) (second >>= image) := by
  cases first with
  | error reason =>
      cases second with
      | error other => exact before
      | ok other => exact before.elim
  | ok value =>
      cases second with
      | error other => exact before.elim
      | ok other => exact rest value other before

/-- Without their values, checks that agree are the same. -/
theorem Agree.discard {related : σ → τ → Prop} {first : Except ε σ} {second : Except ε τ}
    (agree : Agree related first second) :
    first.map (fun _ => ()) = second.map (fun _ => ()) := by
  cases first with
  | error reason =>
      cases second with
      | error other => exact congrArg Except.error agree
      | ok other => exact agree.elim
  | ok value =>
      cases second with
      | error other => exact agree.elim
      | ok other => rfl

/-- Loops whose turns agree on related states agree. -/
theorem foldlM_agree {first : σ → α → Except ε σ} {second : τ → α → Except ε τ}
    {related : σ → τ → Prop} {values : List α}
    (turn : ∀ value ∈ values, ∀ state image, related state image →
      Agree related (first state value) (second image value))
    {state : σ} {image : τ} (start : related state image) :
    Agree related (values.foldlM first state) (values.foldlM second image) := by
  induction values generalizing state image with
  | nil => exact start
  | cons value rest ih =>
      rw [List.foldlM_cons, List.foldlM_cons]
      refine (turn value List.mem_cons_self state image start).bind (fun after next held => ?_)
      exact ih (fun other inside => turn other (List.mem_cons_of_mem _ inside)) held

end Lib
