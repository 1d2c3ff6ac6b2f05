import LexMind.Lib.Call
import LexMind.Lib.Keyed

set_option autoImplicit false

namespace LexMind.Core

open Lib

/-- Capabilities a module may expose. -/
inductive Capability
  | ocr
  | parser
  | embedding
  | vectorStore
  | retriever
  | knowledgeGraph
  | timeline
  | contradictionDetection
  | aiProvider
  | plugin
deriving DecidableEq, Repr

def Capability.value : Capability → String
  | ocr => "ocr"
  | parser => "parser"
  | embedding => "embedding"
  | vectorStore => "vector_store"
  | retriever => "retriever"
  | knowledgeGraph => "knowledge_graph"
  | timeline => "timeline"
  | contradictionDetection => "contradiction_detection"
  | aiProvider => "ai_provider"
  | plugin => "plugin"

/-- The protocol `Module`, as far as the kernel reads it: the objects of a type are modules. -/
class Module (μ : Type) where
  id : μ → String
  capabilities : μ → List Capability

/-- The two errors of the module registry, with their texts. -/
inductive ModuleError
  | duplicateModule (message : String)
  | moduleNotFound (message : String)
deriving DecidableEq, Repr

abbrev ModuleRegistry (μ : Type) [Module μ] := Keyed (Module.id : μ → String)

/-- The capability index is a dictionary from values to modules. -/
abbrev CapabilityMap (μ : Type) := Keyed (Prod.fst : String × μ → String)

structure Kernel (μ : Type) [Module μ] where
  registry : ModuleRegistry μ
  capabilities : CapabilityMap μ

variable {μ : Type} [Module μ]

namespace ModuleRegistry

def register (module : μ) : EStateM ModuleError (ModuleRegistry μ) Unit := do
  if Keyed.contains (← get) (Module.id module) then
    throw (.duplicateModule ("Module '" ++ Module.id module ++ "' is already registered."))
  modify (fun registry => registry.put module)

def unregister (moduleId : String) : EStateM ModuleError (ModuleRegistry μ) Unit := do
  if ¬ Keyed.contains (← get) moduleId then
    throw (.moduleNotFound ("Module '" ++ moduleId ++ "' is not registered."))
  modify (fun registry => registry.erase moduleId)

/-- `registry.get(module_id)`. -/
def getModule (registry : ModuleRegistry μ) (moduleId : String) : Except ModuleError μ :=
  match registry.find? moduleId with
  | some module => .ok module
  | none => .error (.moduleNotFound ("Module '" ++ moduleId ++ "' is not registered."))

end ModuleRegistry

namespace CapabilityMap

/-- The module becomes the entry of each of its capabilities. -/
def enter (index : CapabilityMap μ) (module : μ) : CapabilityMap μ :=
  (Module.capabilities module).foldl
    (fun index capability => index.put (capability.value, module)) index

/-- The module's capabilities lose their entries. -/
def leave (index : CapabilityMap μ) (module : μ) : CapabilityMap μ :=
  (Module.capabilities module).foldl (fun index capability => index.erase capability.value) index

end CapabilityMap

namespace Kernel

def create : Kernel μ := ⟨.empty, .empty⟩

def registerModule (module : μ) : EStateM ModuleError (Kernel μ) Unit := do
  onPart Kernel.registry (fun kernel registry => { kernel with registry := registry })
    (ModuleRegistry.register module)
  modify (fun kernel =>
    { kernel with capabilities := CapabilityMap.enter kernel.capabilities module })

def unregisterModule (moduleId : String) : EStateM ModuleError (Kernel μ) Unit := do
  let module ← check (ModuleRegistry.getModule (← get).registry moduleId)
  modify (fun kernel =>
    { kernel with capabilities := CapabilityMap.leave kernel.capabilities module })
  onPart Kernel.registry (fun kernel registry => { kernel with registry := registry })
    (ModuleRegistry.unregister moduleId)

/-- The registered modules. -/
def modules (kernel : Kernel μ) : List μ := kernel.registry.rows

/-- `kernel.capabilities.get(capability.value)`. -/
def provider (kernel : Kernel μ) (capability : Capability) : Option μ :=
  (kernel.capabilities.find? capability.value).map Prod.snd

end Kernel

inductive KernelCall (μ : Type)
  | register (module : μ)
  | unregister (moduleId : String)

/-- A call, whether it returns or raises. -/
def kernelStep (kernel : Kernel μ) : KernelCall μ → Except ModuleError Unit × Kernel μ
  | .register module => call (Kernel.registerModule module) kernel
  | .unregister moduleId => call (Kernel.unregisterModule moduleId) kernel

section Calls

variable (kernel : Kernel μ)

/-- A registration raises where the id is taken, and enters the module otherwise. -/
theorem call_registerModule (module : μ) :
    call (Kernel.registerModule module) kernel =
      if kernel.registry.contains (Module.id module) then
        (.error (.duplicateModule ("Module '" ++ Module.id module ++ "' is already registered.")),
          kernel)
      else
        (.ok (), ⟨kernel.registry.put module, CapabilityMap.enter kernel.capabilities module⟩) := by
  unfold Kernel.registerModule ModuleRegistry.register
  by_cases taken : kernel.registry.contains (Module.id module) = true
  · simp [taken]
  · simp [taken]

/-- A removal raises where nothing has the id, and takes the module out otherwise. -/
theorem call_unregisterModule (moduleId : String) :
    call (Kernel.unregisterModule moduleId) kernel =
      match kernel.registry.find? moduleId with
      | none =>
          (.error (.moduleNotFound ("Module '" ++ moduleId ++ "' is not registered.")), kernel)
      | some module =>
          (.ok (), ⟨kernel.registry.erase moduleId,
            CapabilityMap.leave kernel.capabilities module⟩) := by
  unfold Kernel.unregisterModule ModuleRegistry.unregister ModuleRegistry.getModule
  cases found : kernel.registry.find? moduleId with
  | none => simp [found]
  | some module => simp [found, Keyed.contains]

end Calls

end LexMind.Core
