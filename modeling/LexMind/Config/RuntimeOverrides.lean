import LexMind.Config.Manager

set_option autoImplicit false

namespace LexMind.Config

open Lib Lib.Nested

/-- The value of an override. -/
abbrev OverrideValue := { value : Value Key Scalar // value.WellFormed }

/-- What `target[key] = value` raises where the target is no map. -/
def assignmentError : Value Key Scalar → PyExc
  | .list _ => .typeError "list indices must be integers or slices, not str"
  | leaf => .typeError ("'" ++ typeName leaf ++ "' object does not support item assignment")

/-- The walk of `set_override` and the assignment at its end, with what the maps are afterwards,
also where it raises. -/
def assignAt (value : Value Key Scalar) :
    List Key → Entries Key Scalar → Except PyExc Unit × Entries Key Scalar
  | [], target => (.ok (), target)
  | [key], target => (.ok (), target.put key value)
  | key :: next :: rest, target =>
      match target.find? key with
      | none =>
          let walked := assignAt value (next :: rest) .nil
          (walked.1, target.put key (.map walked.2))
      | some (.map inner) =>
          let walked := assignAt value (next :: rest) inner
          (walked.1, target.put key (.map walked.2))
      | some leaf =>
          if rest = [] then (.error (assignmentError leaf), target)
          else (.error (.attributeError (typeName leaf) "setdefault"), target)

theorem wellFormed_assignAt {value : Value Key Scalar} (formed : value.WellFormed)
    (path : List Key) {target : Entries Key Scalar} (before : target.WellFormed) :
    (assignAt value path target).2.WellFormed := by
  induction path generalizing target with
  | nil => exact before
  | cons key path ih =>
      cases path with
      | nil => exact Entries.wellFormed_put before formed
      | cons next rest =>
          rw [assignAt]
          split
          · exact Entries.wellFormed_put before (ih Entries.wellFormed_nil)
          · rename_i inner found
            have known : inner.WellFormed := Entries.wellFormed_of_find? before found
            exact Entries.wellFormed_put before (ih known)
          · split
            · exact before
            · exact before

def assignOverride (overrides : Dict Key Scalar) (path : List Key) (value : OverrideValue) :
    Except PyExc Unit × Dict Key Scalar :=
  let assigned := assignAt value.1 path overrides.entries
  (assigned.1, ⟨assigned.2, wellFormed_assignAt value.2 path overrides.formed⟩)

/-- The keys that a dotted key names. -/
def dottedPath (dottedKey : String) : List Key := (pySplit '.' dottedKey).map Key.text

inductive ConfigEvent
  | loaded (environment : Environment)
  | validationFailed (error : String)
  | changed (key : String)

/-- What a call finds: the environment of the process, what the directory holds by then, and what
publishing an event answers. -/
structure Surroundings where
  environ : List (String × String)
  configDir : ConfigDir
  publish : ConfigEvent → Except PyExc Unit

variable {γ : Type} (libraries : Libraries γ) (surroundings : Surroundings)

namespace ConfigManager

/-- The manager with what its directory holds at a call. -/
def visit (manager : ConfigManager γ) : ConfigManager γ :=
  { manager with configDir := surroundings.configDir }

/-- What a load validates, once the sources are read and checked. -/
def loadable (environ : List (String × String)) (manager : ConfigManager γ) :
    Except PyExc (Dict Key Scalar) := do
  let sources ← manager.collectSources libraries environ
  let merged := mergeSources sources
  checkUnknownSections merged
  checkDeprecated libraries.deprecatedKeys merged
  return match manager.runtimeOverrides.entries with
    | .nil => merged
    | _ => deepMerge merged manager.runtimeOverrides

/-- `load` of a manager with an event bus. -/
def loadIn : Py (ConfigManager γ) γ := do
  let manager ← get
  let merged ← check (manager.loadable libraries surroundings.environ)
  match libraries.modelValidate merged with
  | .error message =>
      check (surroundings.publish (.validationFailed message))
      throw (.configValidation message)
  | .ok config =>
      set { manager with provider := some config }
      check (surroundings.publish (.loaded manager.environment))
      return config

def reload : Py (ConfigManager γ) γ := loadIn libraries surroundings

def setOverride (dottedKey : String) (value : OverrideValue) : Py (ConfigManager γ) Unit := do
  let manager ← get
  let assigned := assignOverride manager.runtimeOverrides (dottedPath dottedKey) value
  set { manager with runtimeOverrides := assigned.2 }
  check assigned.1
  if manager.provider.isSome then
    let _ ← loadIn libraries surroundings
    check (surroundings.publish (.changed dottedKey))

end ConfigManager

inductive ConfigCall
  | load
  | reload
  | setOverride (dottedKey : String) (value : OverrideValue)

/-- What the call returns, if it is a load. -/
def ConfigCall.program : ConfigCall → Py (ConfigManager γ) (Option γ)
  | .load => do
      let config ← ConfigManager.loadIn libraries surroundings
      return some config
  | .reload => do
      let config ← ConfigManager.reload libraries surroundings
      return some config
  | .setOverride dottedKey value => do
      ConfigManager.setOverride libraries surroundings dottedKey value
      return none

/-- A call with what it finds answers, and shows a provider. -/
def configStep (manager : ConfigManager γ) (made : Surroundings × ConfigCall) :
    (Except PyExc (Option γ) × Option γ) × ConfigManager γ :=
  let ended := call (made.2.program libraries made.1) (manager.visit made.1)
  ((ended.1, ended.2.provider), ended.2)

section Loading

variable {libraries} {manager : ConfigManager γ}

/-- Without a bus, it is `load`. -/
theorem call_load (environ : List (String × String)) (configDir : ConfigDir) :
    call (ConfigManager.load libraries environ) manager =
      call (ConfigManager.loadIn libraries ⟨environ, configDir, fun _ => .ok ()⟩) manager := by
  simp only [ConfigManager.load, ConfigManager.loadIn, ConfigManager.loadable, call_bind, call_get,
    andThen_ok, call_check]
  cases manager.collectSources libraries environ with
  | error exc => rfl
  | ok sources =>
      simp only [andThen_ok, Except.bind, bind]
      cases checkUnknownSections (mergeSources sources) with
      | error exc => rfl
      | ok known =>
          cases checkDeprecated libraries.deprecatedKeys (mergeSources sources) with
          | error exc => rfl
          | ok current => rfl

/-- The sources can be loaded, and this is what they make. -/
def LoadsTo (libraries : Libraries γ) (environ : List (String × String)) (manager : ConfigManager γ)
    (config : γ) : Prop :=
  ∃ merged, manager.loadable libraries environ = .ok merged ∧
    libraries.modelValidate merged = .ok config

/-- A load that fails changes nothing; another one has its provider in place when it publishes. -/
theorem loadIn_cases (surroundings : Surroundings) :
    (∃ exc, call (ConfigManager.loadIn libraries surroundings) manager = (.error exc, manager)) ∧
        (∀ config, ¬ LoadsTo libraries surroundings.environ manager config) ∨
      ∃ config, LoadsTo libraries surroundings.environ manager config ∧
        call (ConfigManager.loadIn libraries surroundings) manager =
          ((surroundings.publish (.loaded manager.environment)).map (fun _ => config),
            { manager with provider := some config }) := by
  simp only [ConfigManager.loadIn, call_bind, call_get, andThen_ok, call_check]
  cases read : manager.loadable libraries surroundings.environ with
  | error exc =>
      refine .inl ⟨⟨exc, rfl⟩, ?_⟩
      rintro config ⟨merged, loads, _⟩
      cases read.symm.trans loads
  | ok merged =>
      rw [andThen_ok]
      cases validated : libraries.modelValidate merged with
      | error message =>
          refine .inl ⟨?_, ?_⟩
          · cases answer : surroundings.publish (.validationFailed message) with
            | error exc => exact ⟨exc, by simp [answer]⟩
            | ok _ => exact ⟨.configValidation message, by simp [answer]⟩
          · rintro config ⟨other, loads, accepted⟩
            cases read.symm.trans loads
            cases validated.symm.trans accepted
      | ok config =>
          refine .inr ⟨config, ⟨merged, read, validated⟩, ?_⟩
          cases surroundings.publish (.loaded manager.environment) <;> simp

end Loading

end LexMind.Config
