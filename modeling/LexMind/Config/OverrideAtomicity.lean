import LexMind.Config.OverrideOrder
import LexMind.Config.RuntimeOverrides
import LexMind.Lib.Run

set_option autoImplicit false

/- What a `set_override` that raises leaves behind. -/
namespace LexMind.Config

open Lib Lib.Nested

section Walk

variable {value : Value Key Scalar} {target : Entries Key Scalar}

theorem assignAt_of_passable {path : List Key} (passable : Passable target path) :
    (assignAt value path target).1 = .ok () := by
  induction path generalizing target with
  | nil => rfl
  | cons key path ih =>
      cases path with
      | nil => rfl
      | cons next rest =>
          rw [passable_cons] at passable
          rw [assignAt]
          cases found : target.find? key with
          | none => exact ih (passable_nil _)
          | some value =>
              obtain ⟨inner, rfl, open'⟩ := passable value found
              exact ih open'

/-- A walk that is stopped has changed nothing. -/
theorem assignAt_of_blocked {path : List Key} (blocked : ¬ Passable target path) :
    (∃ exc, (assignAt value path target).1 = .error exc) ∧
      (assignAt value path target).2 = target := by
  induction path generalizing target with
  | nil =>
      refine absurd (fun front leaf above strict _ => ?_) blocked
      exact absurd (List.prefix_nil.mp above) strict
  | cons key path ih =>
      cases path with
      | nil => exact absurd (passable_single target key) blocked
      | cons next rest =>
          rw [passable_cons] at blocked
          push Not at blocked
          obtain ⟨old, found, stopped⟩ := blocked
          rw [assignAt, found]
          cases old with
          | map inner =>
              obtain ⟨raised, same⟩ := ih (stopped inner rfl)
              refine ⟨raised, ?_⟩
              dsimp only
              rw [same]
              exact Entries.put_of_find? found
          | scalar content =>
              dsimp only
              split
              · exact ⟨⟨_, rfl⟩, rfl⟩
              · exact ⟨⟨_, rfl⟩, rfl⟩
          | list items =>
              dsimp only
              split
              · exact ⟨⟨_, rfl⟩, rfl⟩
              · exact ⟨⟨_, rfl⟩, rfl⟩

/-- To assign what is there changes nothing. -/
theorem assignAt_of_at? {path : List Key} (present : (Value.map target).at? path = some value) :
    (assignAt value path target).2 = target := by
  induction path generalizing target with
  | nil => rfl
  | cons key path ih =>
      rw [Value.at?_map] at present
      obtain ⟨old, found, there⟩ := Option.bind_eq_some_iff.mp present
      cases path with
      | nil =>
          cases there
          exact Entries.put_of_find? found
      | cons next rest =>
          cases old with
          | map inner =>
              rw [assignAt, found]
              dsimp only
              rw [ih there]
              exact Entries.put_of_find? found
          | scalar content => cases there
          | list items => cases there

end Walk

variable {γ : Type} (libraries : Libraries γ)

/-- The call leaves the provider, and all that later calls answer and show, as they are. -/
structure Atomic (manager : ConfigManager γ) (made : Surroundings × ConfigCall) : Prop where
  provider : (configStep libraries manager made).2.provider = manager.provider
  later : ∀ calls : List (Surroundings × ConfigCall),
    (run (configStep libraries) (configStep libraries manager made).2 calls).1 =
      (run (configStep libraries) manager calls).1

/-- The manager with the override in its map. -/
def overriding (manager : ConfigManager γ) (dottedKey : String) (value : OverrideValue) :
    ConfigManager γ :=
  { manager with
    runtimeOverrides :=
      (assignOverride manager.runtimeOverrides (dottedPath dottedKey) value).2 }

/-- A `set_override` that raises does no harm: its walk is stopped, or nothing has been loaded, or
the configuration with the override loads, and is published; or the override is there already, and
a load that does not fail gives the provider that is there. -/
def Harmless (manager : ConfigManager γ) : Surroundings × ConfigCall → Prop
  | (surroundings, .setOverride dottedKey value) =>
      ¬ Passable manager.runtimeOverrides.entries (dottedPath dottedKey) ∨
      manager.provider = none ∨
      (∃ config, LoadsTo libraries surroundings.environ
        ((overriding manager dottedKey value).visit surroundings) config) ∧
        surroundings.publish (.loaded manager.environment) = .ok () ∧
        surroundings.publish (.changed dottedKey) = .ok () ∨
      (Value.map manager.runtimeOverrides.entries).at? (dottedPath dottedKey) = some value.1 ∧
        ∀ config, LoadsTo libraries surroundings.environ (manager.visit surroundings) config →
          manager.provider = some config
  | (_, .load) => True
  | (_, .reload) => True

variable {libraries} {manager : ConfigManager γ}

/-- What the directory held before a call does not matter to it. -/
theorem atomic_of_visit {made : Surroundings × ConfigCall}
    (same : (configStep libraries manager made).2 = manager.visit made.1) :
    Atomic libraries manager made where
  provider := by
    rw [same]
    rfl
  later := by
    rw [same]
    intro calls
    cases calls <;> rfl

/-- What a `set_override` does, by its walk and its load. -/
theorem call_setOverride (surroundings : Surroundings) (dottedKey : String)
    (value : OverrideValue) :
    call (ConfigManager.setOverride libraries surroundings dottedKey value) manager =
      andThen ((assignOverride manager.runtimeOverrides (dottedPath dottedKey) value).1,
        overriding manager dottedKey value) (fun _ =>
          if manager.provider.isSome then do
            let _ ← ConfigManager.loadIn libraries surroundings
            check (surroundings.publish (.changed dottedKey))
          else pure ()) := by
  unfold ConfigManager.setOverride
  simp only [call_bind, call_get, andThen_ok, call_set, call_check]
  rfl

/-- An override whose walk is stopped leaves the manager. -/
theorem setOverride_blocked {dottedKey : String}
    (blocked : ¬ Passable manager.runtimeOverrides.entries (dottedPath dottedKey))
    (surroundings : Surroundings) (value : OverrideValue) :
    (call (ConfigManager.setOverride libraries surroundings dottedKey value) manager).2 =
      manager := by
  obtain ⟨⟨exc, raised⟩, same⟩ := @assignAt_of_blocked value.1 _ _ blocked
  have kept : overriding manager dottedKey value = manager := by
    simp only [overriding, assignOverride, same]
  have stopped : (assignOverride manager.runtimeOverrides (dottedPath dottedKey) value).1 =
      .error exc := raised
  rw [call_setOverride, stopped, andThen_error]
  exact kept

/-- An override that is not stopped is in place before anything is loaded. -/
theorem setOverride_passable {dottedKey : String}
    (passable : Passable manager.runtimeOverrides.entries (dottedPath dottedKey))
    (surroundings : Surroundings) (value : OverrideValue) :
    call (ConfigManager.setOverride libraries surroundings dottedKey value) manager =
      if manager.provider.isSome then
        andThen (call (ConfigManager.loadIn libraries surroundings)
          (overriding manager dottedKey value))
          (fun _ => check (surroundings.publish (.changed dottedKey)))
      else (.ok (), overriding manager dottedKey value) := by
  have walked : (assignOverride manager.runtimeOverrides (dottedPath dottedKey) value).1 = .ok () :=
    assignAt_of_passable passable
  rw [call_setOverride, walked, andThen_ok, call_ite, call_bind]
  rfl

section Loading

variable {surroundings : Surroundings} {dottedKey : String} {value : OverrideValue}

theorem setOverride_unloaded
    (passable : Passable manager.runtimeOverrides.entries (dottedPath dottedKey))
    (unloaded : manager.provider = none) :
    (call (ConfigManager.setOverride libraries surroundings dottedKey value) manager).1 =
      .ok () := by
  rw [setOverride_passable passable, unloaded]
  rfl

/-- An override that is loaded and published returns. -/
theorem setOverride_loads
    (passable : Passable manager.runtimeOverrides.entries (dottedPath dottedKey)) {config : γ}
    (loads : LoadsTo libraries surroundings.environ (overriding manager dottedKey value) config)
    (loaded : surroundings.publish (.loaded manager.environment) = .ok ())
    (changed : surroundings.publish (.changed dottedKey) = .ok ()) :
    (call (ConfigManager.setOverride libraries surroundings dottedKey value) manager).1 =
      .ok () := by
  rw [setOverride_passable passable]
  cases manager.provider.isSome with
  | false => rfl
  | true =>
      rcases @loadIn_cases _ libraries (overriding manager dottedKey value) surroundings with
        ⟨_, fails⟩ | ⟨other, _, answered⟩
      · exact absurd loads (fails config)
      · have sent : surroundings.publish
            (.loaded (overriding manager dottedKey value).environment) = .ok () := loaded
        rw [if_pos rfl, answered, sent, map_ok, andThen_ok, call_check, changed]

/-- An override that is there already leaves the manager, if its load gives what is there. -/
theorem setOverride_there
    (passable : Passable manager.runtimeOverrides.entries (dottedPath dottedKey))
    (there : (Value.map manager.runtimeOverrides.entries).at? (dottedPath dottedKey) = some value.1)
    (same : ∀ config, LoadsTo libraries surroundings.environ manager config →
      manager.provider = some config) :
    (call (ConfigManager.setOverride libraries surroundings dottedKey value) manager).2 =
      manager := by
  have entries : (assignAt value.1 (dottedPath dottedKey) manager.runtimeOverrides.entries).2 =
      manager.runtimeOverrides.entries := assignAt_of_at? there
  have kept : overriding manager dottedKey value = manager := by
    simp only [overriding, assignOverride, entries]
  rw [setOverride_passable passable, kept]
  cases manager.provider.isSome with
  | false => rfl
  | true =>
      rw [if_pos rfl]
      rcases @loadIn_cases _ libraries manager surroundings with
        ⟨⟨failure, failed⟩, _⟩ | ⟨config, loads, answered⟩
      · rw [failed, andThen_error]
      · have provider : { manager with provider := some config } = manager := by
          rw [← same config loads]
        rw [answered, provider]
        cases surroundings.publish (.loaded manager.environment) with
        | error failure => rfl
        | ok _ => rw [map_ok, andThen_ok, call_check]

theorem unchanged_of_harmless
    (harmless : Harmless libraries manager (surroundings, .setOverride dottedKey value)) {exc : PyExc}
    (raised : (call (ConfigManager.setOverride libraries surroundings dottedKey value)
      (manager.visit surroundings)).1 = .error exc) :
    (call (ConfigManager.setOverride libraries surroundings dottedKey value)
      (manager.visit surroundings)).2 = manager.visit surroundings := by
  by_cases passable : Passable (manager.visit surroundings).runtimeOverrides.entries
      (dottedPath dottedKey)
  · rcases harmless with blocked | unloaded | ⟨⟨config, loads⟩, loaded, changed⟩ | ⟨there, same⟩
    · exact absurd passable blocked
    · have unloaded' : (manager.visit surroundings).provider = none := unloaded
      rw [setOverride_unloaded passable unloaded'] at raised
      cases raised
    · have returned := @setOverride_loads _ libraries (manager.visit surroundings) _ _ _ passable
        config loads loaded changed
      rw [returned] at raised
      cases raised
    · exact setOverride_there passable there same
  · exact setOverride_blocked passable surroundings value

end Loading

theorem configStep_setOverride (surroundings : Surroundings) (dottedKey : String)
    (value : OverrideValue) :
    configStep libraries manager (surroundings, .setOverride dottedKey value) =
      (((call (ConfigManager.setOverride libraries surroundings dottedKey value)
          (manager.visit surroundings)).1.map (fun _ => none),
        (call (ConfigManager.setOverride libraries surroundings dottedKey value)
          (manager.visit surroundings)).2.provider),
        (call (ConfigManager.setOverride libraries surroundings dottedKey value)
          (manager.visit surroundings)).2) := by
  unfold configStep ConfigCall.program
  dsimp only
  rw [call_bind]
  rcases call (ConfigManager.setOverride libraries surroundings dottedKey value)
    (manager.visit surroundings) with ⟨exc | _, after⟩
  · rfl
  · rfl

/-- Each override of the run that raises is as if it had not been made. -/
def OverridesAtomic (libraries : Libraries γ) (manager : ConfigManager γ)
    (calls : List (Surroundings × ConfigCall)) : Prop :=
  ∀ front surroundings dottedKey value back,
    calls = front ++ (surroundings, .setOverride dottedKey value) :: back →
    ∀ exc, (configStep libraries (run (configStep libraries) manager front).2
      (surroundings, .setOverride dottedKey value)).1.1 = .error exc →
    Atomic libraries (run (configStep libraries) manager front).2
      (surroundings, .setOverride dottedKey value)

/-- For every manager, loaded or not, every schema, and every run of loads and overrides, with
whatever the environment, the files and the bus do at each of them: where each override of the run
does no harm, each one that raises is atomic. -/
theorem overrides_atomic {calls : List (Surroundings × ConfigCall)}
    (harmless : Along (configStep libraries) (Harmless libraries) manager calls) :
    OverridesAtomic libraries manager calls := by
  intro front surroundings dottedKey value back split exc raised
  rw [split, along_append] at harmless
  apply atomic_of_visit
  rw [configStep_setOverride] at raised ⊢
  cases ended : (call (ConfigManager.setOverride libraries surroundings dottedKey value)
      ((run (configStep libraries) manager front).2.visit surroundings)).1 with
  | error failure => exact unchanged_of_harmless harmless.2.1 ended
  | ok _ =>
      rw [ended] at raised
      cases raised

def withSchema (libraries : Libraries γ) (modelValidate : Dict Key Scalar → Except String γ) :
    Libraries γ :=
  { libraries with modelValidate }

/-- A schema by which a port is no text. -/
def portLibraries : Libraries (Dict Key Scalar) :=
  withSchema asciiLibraries fun merged =>
    match (Value.map merged.entries).at? [.text "api", .text "port"] with
    | some (.scalar (.str _)) => .error "api.port: Input should be a valid integer"
    | _ => .ok merged

/-- No variables, no files and no bus. -/
def bare : Surroundings := ⟨[], ⟨id, fun _ => none⟩, fun _ => .ok ()⟩

def loadedManager (overrides : Dict Key Scalar) : ConfigManager (Dict Key Scalar) :=
  ⟨bare.configDir, .development, some .empty, overrides⟩

/-- An override that stands where the next one needs a map. -/
def apiText : Dict Key Scalar := Dict.empty.put (.text "api") (.scalar (.str "off")) trivial

def portOverride (content : Scalar) : Surroundings × ConfigCall :=
  (bare, .setOverride "api.port" ⟨.scalar content, trivial⟩)

theorem overrides_atomic_stopped :
    OverridesAtomic portLibraries (loadedManager apiText) [portOverride (.int 8123)] := by
  refine overrides_atomic ⟨.inl (fun passable => ?_), trivial⟩
  have map := passable [.text "api"] (.scalar (.str "off")) (by decide +kernel) (by decide +kernel) rfl
  cases map

/-- A port that is refused stays in the map, and no later load succeeds. -/
theorem refused_override_stays :
    (configStep portLibraries (loadedManager .empty) (portOverride (.str "many"))).1.1.isOk = false ∧
    ¬ OverridesAtomic portLibraries (loadedManager .empty) [portOverride (.str "many")] := by
  have refused : (configStep portLibraries (loadedManager .empty)
      (portOverride (.str "many"))).1.1.isOk = false := by decide +kernel
  refine ⟨refused, fun atomic => ?_⟩
  cases raised : (configStep portLibraries (loadedManager .empty)
      (portOverride (.str "many"))).1.1 with
  | ok _ =>
      rw [raised] at refused
      cases refused
  | error exc =>
      have later := (atomic [] bare "api.port" ⟨.scalar (.str "many"), trivial⟩ [] rfl exc
        raised).later [(bare, .reload)]
      have answers := congrArg (List.map (fun answer => answer.1.isOk)) later
      exact absurd answers (by decide +kernel)

end LexMind.Config
