import LexMind.Config.Loader

set_option autoImplicit false

namespace LexMind.Config

open Lib Lib.Nested

variable {γ : Type} (libraries : Libraries γ)

/-- `os.environ.get(name)`. -/
def environGet (environ : List (String × String)) (name : String) : Option String :=
  (environ.find? (fun entry => entry.1 = name)).map Prod.snd

def detectEnvironment (environ : List (String × String)) : Environment :=
  let text := (environGet environ "LEXMIND_ENV").getD ((environGet environ "ENV").getD "")
  let raw := libraries.lower (String.ofList (strip text.toList))
  (Environment.all.find? (fun environment => environment.value = raw)).getD .development

/-- The manager without an event bus; `γ` is what the root model makes of a configuration. -/
structure ConfigManager (γ : Type) where
  configDir : ConfigDir
  environment : Environment
  provider : Option γ
  runtimeOverrides : Dict Key Scalar

namespace ConfigManager

def init (environ : List (String × String)) (configDir : ConfigDir)
    (environment : Option Environment) : ConfigManager γ where
  configDir := configDir
  environment := environment.getD (detectEnvironment libraries environ)
  provider := none
  runtimeOverrides := .empty

/-- The source of a file, where it exists. -/
def fileSource (configDir : ConfigDir) (fileName : String) (sourceType : SourceType)
    (name : String) : Except PyExc (List (ConfigSource Key)) :=
  match configDir.file fileName with
  | none => .ok []
  | some content => do
      let source ← loadYamlSource libraries (configDir.str fileName) content sourceType name
      return [source]

def fileSources (configDir : ConfigDir) (environment : Environment) :
    Except PyExc (List (ConfigSource Key)) := do
  let defaults ← fileSource libraries configDir "default.yaml" .default "default"
  let selected ← fileSource libraries configDir (environment.value ++ ".yaml") .environment
    environment.value
  let workspace ← fileSource libraries configDir "workspace.yaml" .workspace "workspace"
  return defaults ++ selected ++ workspace

def collectSources (environ : List (String × String)) (manager : ConfigManager γ) :
    Except PyExc (List (ConfigSource Key)) := do
  let files ← fileSources libraries manager.configDir manager.environment
  let overrides ← loadEnvOverrides libraries environ
  return files ++ [overrides]

/-- `load`, in the environment of the process at the time of the call. -/
def load (environ : List (String × String)) : Py (ConfigManager γ) γ := do
  let manager ← get
  let sources ← check (manager.collectSources libraries environ)
  let merged := mergeSources sources
  check (checkUnknownSections merged)
  check (checkDeprecated libraries.deprecatedKeys merged)
  let merged :=
    match manager.runtimeOverrides.entries with
    | .nil => merged
    | _ => deepMerge merged manager.runtimeOverrides
  match libraries.modelValidate merged with
  | .error message => throw (.configValidation message)
  | .ok config =>
      set { manager with provider := some config }
      return config

end ConfigManager

end LexMind.Config
