import LexMind.Lib.Transcript
import LexMind.Plugins.CycleDetection
import LexMind.Plugins.PluginVersion

set_option autoImplicit false

/- The plugin manager: what it keeps registered, and when the dependencies of that stay valid. -/
namespace LexMind.Plugins

open Lib Relation

/-- Capabilities a plugin can advertise. -/
inductive PluginCapability
  | ocr
  | parser
  | embedding
  | vectorStore
  | retriever
  | reranker
  | llm
  | knowledgeGraph
  | timeline
  | exporter
  | importer
  | importQueue
  | worker
  | taskExecutor
  | imagePreprocessing
  | layoutAnalysis
  | tableDetection
  | barcodeQrDetection
  | languageDetection
  | ocrQualityMetrics
  | ocrBenchmark
  | ocrCache
  | ocrPipeline
  | ocrArtifactIntegration
  | fileWatch
  | ui
  | mcp
  | security
  | authentication
  | authorization
  | logging
  | monitoring
deriving DecidableEq

/-- The errors of the manager with their texts, and what it lets through from elsewhere. -/
inductive ManagerError
  | duplicatePlugin (message : String)
  | incompatibleKernel (message : String)
  | pluginDisabled (message : String)
  | python (exc : PyExc)
deriving DecidableEq

/-- The metadata of a plugin, as far as the manager reads it. -/
structure DeclaredMetadata extends PluginMetadata where
  enabled : Bool

/-- An object given as a plugin, with `none` for an attribute that it lacks. Its hooks take a
context, work on a `γ` and may raise. -/
structure PluginObject (κ γ : Type) where
  className : String
  id : Option String
  dependencies : Option (List String)
  capabilities : Option (List PluginCapability)
  metadata : Option DeclaredMetadata
  initializeHook : Option (κ → EStateM ManagerError γ Unit)
  startHook : Option (EStateM ManagerError γ Unit)
  stopHook : Option (EStateM ManagerError γ Unit)

/-- `_plugins`: the objects under their ids. -/
abbrev PluginObjects (κ γ : Type) := Keyed (Prod.fst : String × PluginObject κ γ → String)

structure PluginManager (κ γ : Type) where
  kernelVersion : String
  registry : PluginObjects κ γ
  host : γ

variable {κ γ : Type}

namespace PluginObjects

def register (plugin : PluginObject κ γ) : EStateM ManagerError (PluginObjects κ γ) Unit := do
  match plugin.id with
  | none => throw (.duplicatePlugin "Plugin has no id attribute.")
  | some pluginId =>
      if Keyed.contains (← get) pluginId then
        throw (.duplicatePlugin ("Plugin '" ++ pluginId ++ "' is already registered."))
      modify (fun objects => Keyed.put objects (pluginId, plugin))

def find (objects : PluginObjects κ γ) (pluginId : String) : Option (PluginObject κ γ) :=
  (objects.find? pluginId).map Prod.snd

def list (objects : PluginObjects κ γ) : List (PluginObject κ γ) := objects.rows.map Prod.snd

def findByCapability (objects : PluginObjects κ γ) (capability : PluginCapability) :
    List (PluginObject κ γ) :=
  objects.list.filter (fun plugin => capability ∈ plugin.capabilities.getD [])

/-- What the validation reads of the objects: their ids and dependencies. -/
def declared (objects : PluginObjects κ γ) : PluginRegistry :=
  ⟨objects.rows.map (fun row => ⟨row.1, row.2.dependencies⟩), by
    rw [List.map_map]
    exact objects.distinct⟩

end PluginObjects

namespace PluginManager

def create (kernelVersion : String) (host : γ) : PluginManager κ γ := ⟨kernelVersion, .empty, host⟩

/-- Whether a plugin's metadata, where it has some, accepts the kernel. -/
def checkKernel (unicode : UnicodeDigits) (kernelVersion pluginId : String)
    (plugin : PluginObject κ γ) : Except ManagerError Unit :=
  match plugin.metadata with
  | none => .ok ()
  | some metadata =>
      match metadata.isCompatibleKernel unicode kernelVersion with
      | .error exc => .error (.python exc)
      | .ok true => .ok ()
      | .ok false => .error (.incompatibleKernel
          ("Plugin '" ++ pluginId ++ "' is incompatible with kernel " ++ kernelVersion ++ "."))

def onRegistry (program : EStateM ManagerError (PluginObjects κ γ) Unit) :
    EStateM ManagerError (PluginManager κ γ) Unit :=
  onPart PluginManager.registry (fun manager registry => { manager with registry := registry })
    program

/-- A hook, where the plugin has it. -/
def runHook (hook : Option (EStateM ManagerError γ Unit)) :
    EStateM ManagerError (PluginManager κ γ) Unit :=
  match hook with
  | none => pure ()
  | some program =>
      onPart PluginManager.host (fun manager host => { manager with host := host }) program

def register (unicode : UnicodeDigits) (plugin : PluginObject κ γ) :
    EStateM ManagerError (PluginManager κ γ) Unit := do
  match plugin.id with
  | none => throw (.duplicatePlugin "Plugin has no id attribute.")
  | some pluginId =>
      check (checkKernel unicode (← get).kernelVersion pluginId plugin)
      onRegistry (PluginObjects.register plugin)

/-- Raises for a plugin that is disabled; the text needs its id. -/
def checkEnabled (plugin : PluginObject κ γ) : Except ManagerError Unit :=
  if plugin.metadata.any (fun metadata => !metadata.enabled) then
    match plugin.id with
    | none => .error (.python (.attributeError plugin.className "id"))
    | some pluginId => .error (.pluginDisabled ("Plugin '" ++ pluginId ++ "' is disabled."))
  else .ok ()

def load (plugin : PluginObject κ γ) (context : κ) :
    EStateM ManagerError (PluginManager κ γ) Unit := do
  check (checkEnabled plugin)
  runHook (plugin.initializeHook.map (fun hook => hook context))
  runHook plugin.startHook

/-- Only a plugin that has the hook `stop` is unregistered. -/
def unload (pluginId : String) : EStateM ManagerError (PluginManager κ γ) Unit := do
  match PluginObjects.find (← get).registry pluginId with
  | none => pure ()
  | some plugin =>
      if plugin.stopHook.isSome then
        runHook plugin.stopHook
        onRegistry (modify (fun objects => Keyed.erase objects pluginId))

def validate : EStateM ManagerError (PluginManager κ γ) Unit := do
  check ((PluginObjects.declared (← get).registry).validateDependencies.mapError .python)

end PluginManager

inductive PluginCall (κ γ : Type)
  | register (plugin : PluginObject κ γ)
  | load (plugin : PluginObject κ γ) (context : κ)
  | unload (pluginId : String)
  | validate

def PluginCall.program (unicode : UnicodeDigits) :
    PluginCall κ γ → EStateM ManagerError (PluginManager κ γ) Unit
  | register plugin => PluginManager.register unicode plugin
  | load plugin context => PluginManager.load plugin context
  | unload pluginId => PluginManager.unload pluginId
  | validate => PluginManager.validate

/-- A call, whether it returns or raises. -/
def managerStep (unicode : UnicodeDigits) (manager : PluginManager κ γ) (made : PluginCall κ γ) :
    Except ManagerError Unit × PluginManager κ γ :=
  call (made.program unicode) manager

section Changes

variable (unicode : UnicodeDigits) (manager : PluginManager κ γ)

/-- A plugin that a registration under its id accepts. -/
structure Admissible (plugin : PluginObject κ γ) (pluginId : String) : Prop where
  named : plugin.id = some pluginId
  compatible : PluginManager.checkKernel unicode manager.kernelVersion pluginId plugin = .ok ()
  fresh : manager.registry.find? pluginId = none

/-- A registered plugin whose hook `stop` returns. -/
structure Stops (plugin : PluginObject κ γ) (pluginId : String) : Prop where
  found : manager.registry.find? pluginId = some (pluginId, plugin)
  returns : ∃ stop, plugin.stopHook = some stop ∧ (call stop manager.host).1 = .ok ()

/-- A call that neither registers nor unregisters: a registration is refused, and a plugin to be
unloaded is not there, has no hook `stop`, or its hook raises. -/
structure Keeps (made : PluginCall κ γ) (ended : Except ManagerError Unit × PluginManager κ γ) :
    Prop where
  registry : ended.2.registry = manager.registry
  refused : ∀ plugin, made = .register plugin →
    ended.1 ≠ .ok () ∧ ∀ pluginId, ¬ Admissible unicode manager plugin pluginId
  stays : ∀ pluginId plugin, made = .unload pluginId →
    manager.registry.find? pluginId = some (pluginId, plugin) →
      (plugin.stopHook.isSome = true → ended.1 ≠ .ok ()) ∧ ¬ Stops manager plugin pluginId

variable {unicode manager}

theorem managerStep_load (plugin : PluginObject κ γ) (context : κ) :
    managerStep unicode manager (.load plugin context) =
      call (PluginManager.load plugin context) manager := by
  rw [managerStep, PluginCall.program]

theorem managerStep_validate :
    managerStep unicode manager .validate = call PluginManager.validate manager := by
  rw [managerStep, PluginCall.program]

@[simp] theorem call_onRegistry (program : EStateM ManagerError (PluginObjects κ γ) Unit)
    (manager : PluginManager κ γ) :
    call (PluginManager.onRegistry program) manager =
      ((call program manager.registry).1,
        { manager with registry := (call program manager.registry).2 }) := call_onPart _ _ _ _

/-- A hook changes the host alone. -/
theorem runHook_frame (hook : Option (EStateM ManagerError γ Unit)) (manager : PluginManager κ γ) :
    (call (PluginManager.runHook hook) manager).2.registry = manager.registry ∧
      (call (PluginManager.runHook hook) manager).2.kernelVersion = manager.kernelVersion := by
  cases hook with
  | none => exact ⟨rfl, rfl⟩
  | some program =>
      rw [PluginManager.runHook, call_onPart]
      exact ⟨rfl, rfl⟩

theorem load_frame (plugin : PluginObject κ γ) (context : κ) (manager : PluginManager κ γ) :
    (call (PluginManager.load plugin context) manager).2.registry = manager.registry ∧
      (call (PluginManager.load plugin context) manager).2.kernelVersion =
        manager.kernelVersion := by
  have keeps : Leaves (fun before after : PluginManager κ γ =>
      after.registry = before.registry ∧ after.kernelVersion = before.kernelVersion)
      (PluginManager.load plugin context) := by
    have trans : ∀ first middle last : PluginManager κ γ,
        middle.registry = first.registry ∧ middle.kernelVersion = first.kernelVersion →
        last.registry = middle.registry ∧ last.kernelVersion = middle.kernelVersion →
        last.registry = first.registry ∧ last.kernelVersion = first.kernelVersion :=
      fun _ _ _ before after => ⟨after.1.trans before.1, after.2.trans before.2⟩
    refine Leaves.bind trans (fun state => ?_) fun _ => Leaves.bind trans ?_ fun _ => ?_
    · rw [call_check]
      exact ⟨rfl, rfl⟩
    · exact fun state => runHook_frame _ state
    · exact fun state => runHook_frame _ state
  exact keeps manager

/-- A registration adds what is admissible, and changes nothing otherwise. -/
theorem register_cases (unicode : UnicodeDigits) (manager : PluginManager κ γ)
    (plugin : PluginObject κ γ) :
    (∃ pluginId, Admissible unicode manager plugin pluginId ∧
        managerStep unicode manager (.register plugin) =
          (.ok (), { manager with registry := manager.registry.put (pluginId, plugin) })) ∨
      ((∀ pluginId, ¬ Admissible unicode manager plugin pluginId) ∧
        ∃ reason, managerStep unicode manager (.register plugin) = (.error reason, manager)) := by
  rw [managerStep, PluginCall.program]
  unfold PluginManager.register PluginObjects.register
  cases named : plugin.id with
  | none =>
      refine .inr ⟨fun pluginId admissible => ?_, _, rfl⟩
      have given := admissible.named
      rw [named] at given
      cases given
  | some pluginId =>
      have own : ∀ other, Admissible unicode manager plugin other → other = pluginId := by
        intro other admissible
        exact (Option.some.inj (named.symm.trans admissible.named)).symm
      cases compatible :
          PluginManager.checkKernel unicode manager.kernelVersion pluginId plugin with
      | error reason =>
          refine .inr ⟨fun other admissible => ?_, reason, by simp [compatible]⟩
          obtain rfl := own other admissible
          rw [admissible.compatible] at compatible
          cases compatible
      | ok _ =>
          cases found : manager.registry.find? pluginId with
          | none =>
              exact .inl ⟨pluginId, ⟨named, compatible, found⟩, by
                simp [compatible, Keyed.contains, found]⟩
          | some row =>
              refine .inr ⟨fun other admissible => ?_, _, by
                simp [compatible, Keyed.contains, found]; rfl⟩
              obtain rfl := own other admissible
              rw [admissible.fresh] at found
              cases found

/-- An unloading takes out a plugin whose hook `stop` returns, and keeps the registry otherwise. -/
theorem unload_cases (unicode : UnicodeDigits) (manager : PluginManager κ γ) (pluginId : String) :
    (∃ plugin, Stops manager plugin pluginId ∧ ∃ host,
        managerStep unicode manager (.unload pluginId) =
          (.ok (), { manager with registry := manager.registry.erase pluginId, host := host })) ∨
      ((managerStep unicode manager (.unload pluginId)).2.registry = manager.registry ∧
        (managerStep unicode manager (.unload pluginId)).2.kernelVersion = manager.kernelVersion ∧
        ∀ plugin, manager.registry.find? pluginId = some (pluginId, plugin) →
          (plugin.stopHook.isSome = true →
            (managerStep unicode manager (.unload pluginId)).1 ≠ .ok ()) ∧
          ¬ Stops manager plugin pluginId) := by
  rw [managerStep, PluginCall.program]
  unfold PluginManager.unload PluginObjects.find
  cases found : manager.registry.find? pluginId with
  | none =>
      rw [call_bind, call_get, andThen_ok, found]
      refine .inr ⟨rfl, rfl, ?_⟩
      rintro plugin ⟨⟩
  | some row =>
      obtain ⟨key, plugin⟩ := row
      obtain rfl : key = pluginId := Keyed.key_of_find? found
      rw [call_bind, call_get, andThen_ok, found, Option.map_some]
      cases stop : plugin.stopHook with
      | none =>
          refine .inr ⟨by simp [stop], by simp [stop], ?_⟩
          rintro other same
          cases same
          refine ⟨fun some => ?_, fun stops => ?_⟩
          · rw [stop] at some
            cases some
          · obtain ⟨program, given, -⟩ := stops.returns
            rw [stop] at given
            cases given
      | some program =>
          rcases ended : call program manager.host with ⟨reason | value, host⟩
          · refine .inr ⟨by simp [stop, PluginManager.runHook, ended],
              by simp [stop, PluginManager.runHook, ended], ?_⟩
            rintro other same
            cases same
            refine ⟨fun _ => by simp [stop, PluginManager.runHook, ended], fun stops => ?_⟩
            obtain ⟨other, given, returned⟩ := stops.returns
            rw [stop] at given
            cases given
            rw [ended] at returned
            cases returned
          · refine .inl ⟨plugin, ⟨found, program, stop, by rw [ended]⟩, host, ?_⟩
            simp [stop, PluginManager.runHook, ended]

/-- What a call does to the registry: it admits a plugin, takes out one that stops, or keeps all. -/
theorem step_cases (unicode : UnicodeDigits) (manager : PluginManager κ γ) (made : PluginCall κ γ) :
    (∃ plugin pluginId, made = .register plugin ∧ Admissible unicode manager plugin pluginId ∧
        (managerStep unicode manager made).1 = .ok () ∧
        (managerStep unicode manager made).2.registry = manager.registry.put (pluginId, plugin)) ∨
      (∃ plugin pluginId, made = .unload pluginId ∧ Stops manager plugin pluginId ∧
        (managerStep unicode manager made).1 = .ok () ∧
        (managerStep unicode manager made).2.registry = manager.registry.erase pluginId) ∨
      Keeps unicode manager made (managerStep unicode manager made) := by
  cases made with
  | register plugin =>
      rcases register_cases unicode manager plugin with
        ⟨pluginId, admissible, same⟩ | ⟨refused, reason, same⟩
      · exact .inl ⟨plugin, pluginId, rfl, admissible, by rw [same], by rw [same]⟩
      · rw [same]
        refine .inr (.inr ⟨rfl, ?_, ?_⟩)
        · rintro other ⟨⟩
          refine ⟨?_, refused⟩
          rintro ⟨⟩
        · rintro pluginId other ⟨⟩
  | load plugin context =>
      rw [managerStep_load]
      refine .inr (.inr ⟨(load_frame plugin context manager).1, ?_, ?_⟩)
      · rintro other ⟨⟩
      · rintro pluginId other ⟨⟩
  | unload pluginId =>
      rcases unload_cases unicode manager pluginId with
        ⟨plugin, stops, host, same⟩ | ⟨kept, -, stays⟩
      · exact .inr (.inl ⟨plugin, pluginId, rfl, stops, by rw [same], by rw [same]⟩)
      · refine .inr (.inr ⟨kept, ?_, ?_⟩)
        · rintro plugin ⟨⟩
        · rintro other plugin ⟨⟩ found
          exact stays plugin found
  | validate =>
      refine .inr (.inr ⟨?_, ?_, ?_⟩)
      · simp [managerStep_validate, PluginManager.validate]
      · rintro other ⟨⟩
      · rintro pluginId other ⟨⟩

/-- No call changes the version of the kernel. -/
theorem step_kernelVersion (made : PluginCall κ γ) :
    (managerStep unicode manager made).2.kernelVersion = manager.kernelVersion := by
  cases made with
  | register plugin =>
      rcases register_cases unicode manager plugin with
        ⟨_, _, same⟩ | ⟨_, _, same⟩
      · rw [same]
      · rw [same]
  | load plugin context =>
      rw [managerStep_load]
      exact (load_frame plugin context manager).2
  | unload pluginId =>
      rcases unload_cases unicode manager pluginId with
        ⟨_, _, _, same⟩ | ⟨_, kept, _⟩
      · rw [same]
      · exact kept
  | validate => simp [managerStep_validate, PluginManager.validate]

end Changes

section Registered

/-- A call with its answer. -/
abbrev PluginEntry (κ γ : Type) := PluginCall κ γ × Except ManagerError Unit

/-- The entry is an accepted registration of the plugin under the id. -/
def Admits (pluginId : String) (plugin : PluginObject κ γ) (entry : PluginEntry κ γ) : Prop :=
  plugin.id = some pluginId ∧ entry = (.register plugin, .ok ())

/-- The entry has the plugin unloaded, as far as it has a hook to be stopped by. -/
def Releases (pluginId : String) (plugin : PluginObject κ γ) (entry : PluginEntry κ γ) : Prop :=
  plugin.stopHook.isSome = true ∧ entry = (.unload pluginId, .ok ())

/-- The registered plugins are those whose last accepted registration still stands. -/
def Standing (entries : List (PluginEntry κ γ)) (registry : PluginObjects κ γ) : Prop :=
  ∀ pluginId plugin, registry.find? pluginId = some (pluginId, plugin) ↔
    ∃ index, OpenAt (Admits pluginId plugin) (Releases pluginId plugin) entries index

variable {entries : List (PluginEntry κ γ)} {unicode : UnicodeDigits} {manager : PluginManager κ γ}

/-- An accepted registration puts the plugin under its id, a stopping unload takes out what is under
it, and no other call changes what is registered. -/
theorem registered_switches (manager : PluginManager κ γ) (made : PluginCall κ γ)
    (pluginId : String) (plugin : PluginObject κ γ) :
    (managerStep unicode manager made).2.registry.find? pluginId = some (pluginId, plugin) ↔
      Admits pluginId plugin (made, (managerStep unicode manager made).1) ∨
        manager.registry.find? pluginId = some (pluginId, plugin) ∧
          ¬ Releases pluginId plugin (made, (managerStep unicode manager made).1) := by
  rcases step_cases unicode manager made with
    ⟨new, newId, rfl, admissible, answer, registry⟩ |
      ⟨old, oldId, rfl, stops, answer, registry⟩ | keeps
  · have releases : ¬ Releases pluginId plugin (PluginCall.register new, .ok ()) := by
      rintro ⟨-, same⟩
      cases same
    rw [answer, registry, Keyed.find?_put]
    by_cases same : newId = pluginId
    · subst same
      rw [if_pos rfl, admissible.fresh]
      constructor
      · intro found
        cases found
        exact .inl ⟨admissible.named, rfl⟩
      · rintro (⟨-, entry⟩ | ⟨absent, -⟩)
        · cases entry
          rfl
        · cases absent
    · have admits : ¬ Admits pluginId plugin (PluginCall.register new, .ok ()) := by
        rintro ⟨named, entry⟩
        cases entry
        exact same (Option.some.inj (admissible.named.symm.trans named))
      rw [if_neg same]
      exact ⟨fun found => .inr ⟨found, releases⟩, fun held => (held.resolve_left admits).1⟩
  · have admits : ¬ Admits pluginId plugin (PluginCall.unload oldId, .ok ()) := by
      rintro ⟨-, same⟩
      cases same
    rw [answer, registry, Keyed.find?_erase]
    by_cases same : pluginId = oldId
    · subst same
      rw [if_pos rfl]
      refine iff_of_false (Option.some_ne_none _).symm ?_
      rintro (admitted | ⟨found, kept⟩)
      · exact admits admitted
      · rw [stops.found] at found
        cases found
        obtain ⟨stop, given, -⟩ := stops.returns
        exact kept ⟨by rw [given]; rfl, rfl⟩
    · have releases : ¬ Releases pluginId plugin (PluginCall.unload oldId, .ok ()) := by
        rintro ⟨-, entry⟩
        cases entry
        exact same rfl
      rw [if_neg same]
      exact ⟨fun found => .inr ⟨found, releases⟩, fun held => (held.resolve_left admits).1⟩
  · rw [keeps.registry]
    constructor
    · refine fun found => .inr ⟨found, ?_⟩
      rintro ⟨stoppable, same⟩
      obtain ⟨rfl, returned⟩ := Prod.mk.inj same
      exact (keeps.stays pluginId plugin rfl found).1 stoppable returned
    · rintro (⟨-, same⟩ | ⟨found, -⟩)
      · obtain ⟨rfl, returned⟩ := Prod.mk.inj same
        exact absurd returned (keeps.refused plugin rfl).1
      · exact found

/-- The registered plugins have their ids, and accept the kernel. -/
def Compatible (unicode : UnicodeDigits) (manager : PluginManager κ γ) : Prop :=
  ∀ row ∈ manager.registry.rows, row.2.id = some row.1 ∧
    PluginManager.checkKernel unicode manager.kernelVersion row.1 row.2 = .ok ()

theorem compatible_step (compatible : Compatible unicode manager) (made : PluginCall κ γ) :
    Compatible unicode (managerStep unicode manager made).2 := by
  intro row inside
  rw [step_kernelVersion]
  rcases step_cases unicode manager made with
    ⟨plugin, pluginId, -, admissible, -, registry⟩ | ⟨-, pluginId, -, -, -, registry⟩ | keeps
  · rw [registry] at inside
    rcases (Keyed.mem_put _ _ _).mp inside with rfl | ⟨old, -⟩
    · exact ⟨admissible.named, admissible.compatible⟩
    · exact compatible row old
  · rw [registry] at inside
    exact compatible row ((Keyed.mem_erase _ _ _).mp inside).1
  · rw [keeps.registry] at inside
    exact compatible row inside

end Registered

/-- After any calls, whatever the hooks do, a plugin is registered exactly where its last accepted
registration was not followed by an unloading that stopped it; it accepts the kernel, and a search
by capability finds those that advertise it. -/
theorem plugins_standing (unicode : UnicodeDigits) (kernelVersion : String) (host : γ)
    (calls : List (PluginCall κ γ)) :
    let manager := (run (managerStep unicode) (.create kernelVersion host) calls).2
    Standing (transcript (managerStep unicode) (.create kernelVersion host) calls)
        manager.registry ∧
      (∀ row ∈ manager.registry.rows, row.2.id = some row.1 ∧
        PluginManager.checkKernel unicode kernelVersion row.1 row.2 = .ok ()) ∧
      ∀ capability plugin, plugin ∈ PluginObjects.findByCapability manager.registry capability ↔
        capability ∈ plugin.capabilities.getD [] ∧
          ∃ pluginId, PluginObjects.find manager.registry pluginId = some plugin := by
  intro manager
  have standing : Standing (transcript (managerStep unicode) (.create kernelVersion host) calls)
      manager.registry := by
    intro pluginId plugin
    have switched := @switched_iff _ _ _ (managerStep unicode)
      (fun manager => manager.registry.find? pluginId = some (pluginId, plugin))
      (Admits pluginId plugin) (Releases pluginId plugin)
      (fun state made => registered_switches state made pluginId plugin)
      (.create kernelVersion host) calls
    exact switched.trans (or_iff_left fun held => (Option.some_ne_none _).symm held.1)
  obtain ⟨version, compatible⟩ : manager.kernelVersion = kernelVersion ∧
      Compatible unicode manager :=
    @run_invariant _ _ _ _
      (fun manager => manager.kernelVersion = kernelVersion ∧ Compatible unicode manager)
      (fun state made held =>
        ⟨(step_kernelVersion made).trans held.1, compatible_step held.2 made⟩)
      (.create kernelVersion host) ⟨rfl, List.forall_mem_nil _⟩ calls
  refine ⟨standing, fun row inside => version ▸ compatible row inside, fun capability plugin => ?_⟩
  rw [PluginObjects.findByCapability, PluginObjects.list, List.mem_filter, decide_eq_true_iff,
    and_comm, List.mem_map]
  apply and_congr_right
  intro _
  constructor
  · rintro ⟨row, inside, rfl⟩
    exact ⟨row.1, by rw [PluginObjects.find, Keyed.find?_of_mem _ inside, Option.map_some]⟩
  · rintro ⟨pluginId, found⟩
    obtain ⟨row, there, same⟩ := Option.map_eq_some_iff.mp found
    exact ⟨row, Keyed.mem_of_find? there, same⟩

section Validity

theorem PluginRegistry.validate_ok_iff (registry : PluginRegistry) :
    registry.validateDependencies = .ok () ↔ ¬ registry.Missing ∧ Acyclic registry.Requires := by
  rw [PluginRegistry.validateDependencies, PluginRegistry.plugins_eq]
  cases checked : registry.checkMissing with
  | error exc =>
      refine iff_of_false (fun returned => ?_) fun holds => ?_
      · cases returned
      · rw [PluginRegistry.checkMissing_ok_iff.mpr holds.1] at checked
        cases checked
  | ok _ =>
      have present := PluginRegistry.checkMissing_ok_iff.mp checked
      show registry.detectCycle none = .ok () ↔ _
      rcases PluginRegistry.detectCycle_cases present with
        ⟨message, raised, node, round⟩ | ⟨returned, acyclic⟩
      · rw [raised]
        refine iff_of_false (fun returned => ?_) fun holds => holds.2 node round
        cases returned
      · exact iff_of_true returned ⟨present, acyclic⟩

variable (manager : PluginManager κ γ)

/-- The ids that a plugin depends on. -/
def PluginObject.requires (plugin : PluginObject κ γ) : List String :=
  plugin.dependencies.getD []

/-- The dependencies of the registered plugins pass their validation. -/
def ValidDependencies : Prop := (call PluginManager.validate manager).1 = .ok ()

/-- A plugin that is admitted finds its dependencies registered, and one that is taken out is no
dependency of another. -/
def Orderly (unicode : UnicodeDigits) (manager : PluginManager κ γ) (made : PluginCall κ γ) :
    Prop :=
  (∀ plugin pluginId, made = .register plugin → Admissible unicode manager plugin pluginId →
    ∀ dep ∈ plugin.requires, manager.registry.contains dep = true) ∧
  ∀ plugin pluginId, made = .unload pluginId → Stops manager plugin pluginId →
    ∀ row ∈ manager.registry.rows, row.1 ≠ pluginId → pluginId ∉ row.2.requires

variable {manager} {objects : PluginObjects κ γ}

theorem declared_requires (first second : String) :
    objects.declared.Requires first second ↔
      ∃ row ∈ objects.rows, row.1 = first ∧ second ∈ row.2.requires := by
  unfold PluginRegistry.Requires
  constructor
  · rintro ⟨_, inside, named, needed⟩
    obtain ⟨row, held, rfl⟩ := List.mem_map.mp inside
    exact ⟨row, held, named, needed⟩
  · rintro ⟨row, held, named, needed⟩
    exact ⟨_, List.mem_map_of_mem held, named, needed⟩

theorem declared_contains (key : String) :
    objects.declared.contains key = objects.contains key := by
  unfold Keyed.contains
  have same : objects.declared.find? key =
      (objects.find? key).map (fun row => (⟨row.1, row.2.dependencies⟩ : Plugin)) :=
    List.find?_map
  rw [same, Option.isSome_map]

/-- Valid are the dependencies that are all registered and that lead in no circle. -/
theorem validDependencies_iff : ValidDependencies manager ↔
    (∀ row ∈ manager.registry.rows, ∀ dep ∈ row.2.requires,
      manager.registry.contains dep = true) ∧
    Acyclic (manager.registry.declared.Requires) := by
  have answer : (call PluginManager.validate manager).1 =
      (manager.registry.declared.validateDependencies).mapError .python := by
    simp [PluginManager.validate]
  have returned : (call PluginManager.validate manager).1 = .ok () ↔
      manager.registry.declared.validateDependencies = .ok () := by
    rw [answer]
    cases manager.registry.declared.validateDependencies with
    | error exc => simp [Except.mapError]
    | ok _ => exact iff_of_true rfl rfl
  rw [ValidDependencies, returned, PluginRegistry.validate_ok_iff]
  apply and_congr_left
  intro _
  unfold PluginRegistry.Missing
  constructor
  · intro present row inside dep needed
    by_contra absent
    refine present ⟨_, List.mem_map_of_mem inside, dep, needed, ?_⟩
    rw [declared_contains]
    exact eq_false_of_ne_true absent
  · rintro known ⟨_, inside, dep, needed, absent⟩
    obtain ⟨row, held, rfl⟩ := List.mem_map.mp inside
    rw [declared_contains, known row held dep needed] at absent
    cases absent

theorem contains_put (row : String × PluginObject κ γ) (key : String) :
    (objects.put row).contains key = true ↔ key = row.1 ∨ objects.contains key = true := by
  unfold Keyed.contains
  rw [Keyed.find?_put]
  split
  · rename_i same
    simp [same]
  · rename_i apart
    simp [Ne.symm apart]

theorem contains_erase (pluginId key : String) :
    (objects.erase pluginId).contains key = true ↔
      key ≠ pluginId ∧ objects.contains key = true := by
  unfold Keyed.contains
  rw [Keyed.find?_erase]
  split
  · rename_i same
    simp [same]
  · rename_i apart
    simp [apart]

/-- From valid dependencies, a plugin is added validly exactly where its own are registered. -/
theorem valid_admitted_iff {unicode : UnicodeDigits} (valid : ValidDependencies manager)
    {plugin : PluginObject κ γ} {pluginId : String}
    (admissible : Admissible unicode manager plugin pluginId) {after : PluginManager κ γ}
    (registry : after.registry = manager.registry.put (pluginId, plugin)) :
    ValidDependencies after ↔
      ∀ dep ∈ plugin.requires, manager.registry.contains dep = true := by
  obtain ⟨known, acyclic⟩ := validDependencies_iff.mp valid
  have absent := admissible.fresh
  have unnamed : ∀ row ∈ manager.registry.rows, row.1 ≠ pluginId :=
    (Keyed.find?_eq_none_iff _ _).mp absent
  have unregistered : ¬ manager.registry.contains pluginId = true := by
    rw [Keyed.contains, absent]
    exact Bool.noConfusion
  rw [validDependencies_iff, registry]
  constructor
  · rintro ⟨knownAfter, acyclicAfter⟩ dep needed
    have own := (Keyed.mem_put manager.registry (pluginId, plugin) _).mpr (.inl rfl)
    rcases (contains_put _ dep).mp (knownAfter _ own dep needed) with rfl | before
    · exact absurd (.single ((declared_requires _ _).mpr ⟨_, own, rfl, needed⟩)) (acyclicAfter _)
    · exact before
  · intro registered
    constructor
    · intro row inside dep needed
      rw [contains_put]
      rcases (Keyed.mem_put _ _ _).mp inside with rfl | ⟨old, -⟩
      · exact .inr (registered dep needed)
      · exact .inr (known row old dep needed)
    · refine acyclic.grow pluginId (fun first second apart edge => ?_) fun first edge => ?_
      · obtain ⟨row, inside, rfl, needed⟩ := (declared_requires _ _).mp edge
        rcases (Keyed.mem_put _ _ _).mp inside with rfl | ⟨old, -⟩
        · exact absurd rfl apart
        · exact (declared_requires _ _).mpr ⟨row, old, rfl, needed⟩
      · -- No plugin depends on the new one: neither those before nor itself.
        obtain ⟨row, inside, -, needed⟩ := (declared_requires _ _).mp edge
        rcases (Keyed.mem_put _ _ _).mp inside with rfl | ⟨old, -⟩
        · exact unregistered (registered _ needed)
        · exact unregistered (known row old _ needed)

/-- From valid dependencies, a plugin is taken out validly exactly where no other one needs it. -/
theorem valid_released_iff (valid : ValidDependencies manager) {pluginId : String}
    {after : PluginManager κ γ} (registry : after.registry = manager.registry.erase pluginId) :
    ValidDependencies after ↔
      ∀ row ∈ manager.registry.rows, row.1 ≠ pluginId → pluginId ∉ row.2.requires := by
  obtain ⟨known, acyclic⟩ := validDependencies_iff.mp valid
  rw [validDependencies_iff, registry]
  constructor
  · rintro ⟨knownAfter, -⟩ row inside apart needed
    have left := knownAfter row ((Keyed.mem_erase _ _ _).mpr ⟨inside, apart⟩) pluginId needed
    exact ((contains_erase _ _).mp left).1 rfl
  · intro unneeded
    constructor
    · intro row inside dep needed
      obtain ⟨old, apart⟩ := (Keyed.mem_erase _ _ _).mp inside
      refine (contains_erase _ _).mpr ⟨?_, known row old dep needed⟩
      rintro rfl
      exact unneeded row old apart needed
    · refine acyclic.mono fun first second edge => ?_
      obtain ⟨row, inside, named, needed⟩ := (declared_requires _ _).mp edge
      exact (declared_requires _ _).mpr ⟨row, ((Keyed.mem_erase _ _ _).mp inside).1, named, needed⟩

theorem orderly_register_iff {unicode : UnicodeDigits} {plugin : PluginObject κ γ}
    {pluginId : String} (admissible : Admissible unicode manager plugin pluginId) :
    Orderly unicode manager (.register plugin) ↔
      ∀ dep ∈ plugin.requires, manager.registry.contains dep = true := by
  constructor
  · exact fun orderly => orderly.1 plugin pluginId rfl admissible
  · refine fun registered => ⟨?_, ?_⟩
    · rintro other otherId ⟨⟩ -
      exact registered
    · rintro other otherId ⟨⟩

theorem orderly_unload_iff {unicode : UnicodeDigits} {plugin : PluginObject κ γ} {pluginId : String}
    (stops : Stops manager plugin pluginId) :
    Orderly unicode manager (.unload pluginId) ↔
      ∀ row ∈ manager.registry.rows, row.1 ≠ pluginId → pluginId ∉ row.2.requires := by
  constructor
  · exact fun orderly => orderly.2 plugin pluginId rfl stops
  · refine fun unneeded => ⟨?_, ?_⟩
    · rintro other otherId ⟨⟩
    · rintro other otherId ⟨⟩ -
      exact unneeded

theorem valid_step_iff {unicode : UnicodeDigits} (valid : ValidDependencies manager)
    (made : PluginCall κ γ) :
    ValidDependencies (managerStep unicode manager made).2 ↔ Orderly unicode manager made := by
  rcases step_cases unicode manager made with
    ⟨plugin, pluginId, rfl, admissible, -, registry⟩ |
      ⟨plugin, pluginId, rfl, stops, -, registry⟩ | keeps
  · rw [orderly_register_iff admissible]
    exact valid_admitted_iff valid admissible registry
  · rw [orderly_unload_iff stops]
    exact valid_released_iff valid registry
  · refine iff_of_true ?_ ⟨fun plugin pluginId same admissible => ?_,
      fun plugin pluginId same stops => ?_⟩
    · rw [validDependencies_iff, keeps.registry]
      exact validDependencies_iff.mp valid
    · exact absurd admissible ((keeps.refused plugin same).2 pluginId)
    · exact absurd stops (keeps.stays pluginId plugin same stops.found).2

end Validity

/-- The dependencies are valid all along a run exactly where every plugin comes after those it
depends on and leaves before them. -/
theorem plugins_valid_iff (unicode : UnicodeDigits) (kernelVersion : String) (host : γ)
    (calls : List (PluginCall κ γ)) :
    Throughout (managerStep unicode) ValidDependencies (.create kernelVersion host) calls ↔
      Along (managerStep unicode) (Orderly unicode) (.create kernelVersion host) calls := by
  have start : ValidDependencies (.create kernelVersion host : PluginManager κ γ) := by
    refine validDependencies_iff.mpr ⟨List.forall_mem_nil _, fun node cycle => ?_⟩
    obtain ⟨previous, -, edge⟩ := TransGen.tail'_iff.mp cycle
    obtain ⟨row, inside, -⟩ := (declared_requires _ _).mp edge
    cases inside
  exact @throughout_iff_along _ _ _ (managerStep unicode) (Orderly unicode) (fun _ => True)
    ValidDependencies (fun _ _ _ _ => trivial) (fun _ made _ valid => valid_step_iff valid made)
    _ trivial start calls

end LexMind.Plugins
