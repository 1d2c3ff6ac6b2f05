import LexMind.Core.Kernel
import LexMind.Lib.Run

set_option autoImplicit false

/- The capability index against what the registered modules declare. -/
namespace LexMind.Core

open Lib

theorem Capability.value_injective : Function.Injective Capability.value := by
  intro first second same
  cases first <;> cases second <;> first | rfl | exact absurd same (by decide)

variable {μ : Type} [Module μ]

namespace CapabilityMap

/-- The entries of some capabilities are one module, the others stay. -/
theorem find?_enter (index : CapabilityMap μ) (module : μ) (capability : Capability) :
    (index.enter module).find? capability.value =
      if capability ∈ Module.capabilities module then some (capability.value, module)
      else index.find? capability.value := by
  unfold enter
  induction Module.capabilities module generalizing index with
  | nil => simp
  | cons first rest ih =>
      rw [List.foldl_cons, ih, Keyed.find?_put]
      by_cases later : capability ∈ rest
      · simp [later]
      · by_cases same : first = capability
        · simp [same]
        · have differs : first.value ≠ capability.value := fun equal =>
            same (Capability.value_injective equal)
          simp [later, differs, Ne.symm same]

theorem find?_leave (index : CapabilityMap μ) (module : μ) (capability : Capability) :
    (index.leave module).find? capability.value =
      if capability ∈ Module.capabilities module then none else index.find? capability.value := by
  unfold leave
  induction Module.capabilities module generalizing index with
  | nil => simp
  | cons first rest ih =>
      rw [List.foldl_cons, ih, Keyed.find?_erase]
      by_cases later : capability ∈ rest
      · simp [later]
      · by_cases same : capability = first
        · simp [same]
        · have differs : capability.value ≠ first.value := fun equal =>
            same (Capability.value_injective equal)
          simp [later, differs, same]

end CapabilityMap

namespace Kernel

/-- The entries are registered modules that declare the capabilities. -/
def Declared (kernel : Kernel μ) : Prop :=
  ∀ capability module, kernel.provider capability = some module →
    module ∈ kernel.modules ∧ capability ∈ Module.capabilities module

/-- A capability has an entry exactly where a registered module declares it, and the entry is such a
module. -/
structure Indexed (kernel : Kernel μ) : Prop where
  listed : ∀ capability, (kernel.provider capability).isSome = true ↔
    ∃ module ∈ kernel.modules, capability ∈ Module.capabilities module
  declared : kernel.Declared

theorem create_declared : (create : Kernel μ).Declared := by
  intro capability module found
  cases found

theorem create_indexed : (create : Kernel μ).Indexed where
  listed capability := iff_of_false Bool.false_ne_true (by rintro ⟨_, inside, _⟩; cases inside)
  declared := create_declared

/-- No other module declares a capability of the module that is removed. -/
def RemovesSole (kernel : Kernel μ) (made : KernelCall μ) : Prop :=
  ∀ module ∈ kernel.modules, made = .unregister (Module.id module) →
    ∀ other ∈ kernel.modules, other ≠ module →
      ∀ capability ∈ Module.capabilities module, capability ∉ Module.capabilities other

section Registration

variable {kernel : Kernel μ} (module : μ)

theorem provider_registered (capability : Capability) :
    (Kernel.mk (kernel.registry.put module) (kernel.capabilities.enter module)).provider
        capability =
      if capability ∈ Module.capabilities module then some module
      else kernel.provider capability := by
  rw [provider, CapabilityMap.find?_enter]
  split <;> rfl

variable (fresh : kernel.registry.contains (Module.id module) = false)

include fresh

theorem modules_registered :
    (Kernel.mk (kernel.registry.put module) (kernel.capabilities.enter module)).modules =
      kernel.modules ++ [module] :=
  Keyed.rows_put_fresh kernel.registry module fresh

theorem registered_declared (declared : kernel.Declared) :
    (Kernel.mk (kernel.registry.put module) (kernel.capabilities.enter module)).Declared := by
  intro capability found entry
  rw [provider_registered] at entry
  rw [modules_registered module fresh]
  split at entry
  · rename_i own
    cases entry
    exact ⟨List.mem_append_right _ List.mem_cons_self, own⟩
  · obtain ⟨inside, declares⟩ := declared capability found entry
    exact ⟨List.mem_append_left _ inside, declares⟩

/-- A new module joins the registered ones and takes over its capabilities. -/
theorem registered_indexed (indexed : kernel.Indexed) :
    (Kernel.mk (kernel.registry.put module) (kernel.capabilities.enter module)).Indexed where
  listed capability := by
    rw [provider_registered, modules_registered module fresh]
    by_cases own : capability ∈ Module.capabilities module
    · simp [own]
    · simp [own, indexed.listed, or_and_right, exists_or]
  declared := registered_declared module fresh indexed.declared

end Registration

section Removal

variable {kernel : Kernel μ} {module : μ}

theorem provider_removed (module : μ) (moduleId : String) (capability : Capability) :
    (Kernel.mk (kernel.registry.erase moduleId) (kernel.capabilities.leave module)).provider
        capability =
      if capability ∈ Module.capabilities module then none else kernel.provider capability := by
  rw [provider, CapabilityMap.find?_leave]
  split <;> rfl

variable (inside : module ∈ kernel.modules)

include inside

theorem mem_removed (other : μ) :
    other ∈ (Kernel.mk (kernel.registry.erase (Module.id module))
        (kernel.capabilities.leave module)).modules ↔ other ∈ kernel.modules ∧ other ≠ module := by
  refine (Keyed.mem_erase kernel.registry (Module.id module) other).trans ?_
  apply and_congr_right
  intro registered
  rw [not_iff_not]
  exact ⟨fun same => kernel.registry.eq_of_key_eq registered inside same, congrArg Module.id⟩

/-- No entry of the removed module stays. -/
theorem removed_declared (declared : kernel.Declared) :
    (Kernel.mk (kernel.registry.erase (Module.id module))
      (kernel.capabilities.leave module)).Declared := by
  intro capability found entry
  rw [provider_removed] at entry
  split at entry
  · cases entry
  · rename_i foreign
    obtain ⟨registered, declares⟩ := declared capability found entry
    refine ⟨(mem_removed inside found).mpr ⟨registered, ?_⟩, declares⟩
    rintro rfl
    exact foreign declares

/-- The entries of a removed module's capabilities go, whoever else declares them. -/
theorem removed_indexed_iff (indexed : kernel.Indexed) :
    (Kernel.mk (kernel.registry.erase (Module.id module))
        (kernel.capabilities.leave module)).Indexed ↔
      ∀ other ∈ kernel.modules, other ≠ module →
        ∀ capability ∈ Module.capabilities module, capability ∉ Module.capabilities other := by
  constructor
  · intro after other registered apart capability own declares
    have entry := (after.listed capability).mpr
      ⟨other, (mem_removed inside other).mpr ⟨registered, apart⟩, declares⟩
    rw [provider_removed, if_pos own] at entry
    cases entry
  · intro sole
    refine ⟨fun capability => ?_, removed_declared inside indexed.declared⟩
    rw [provider_removed]
    constructor
    · intro entry
      split at entry
      · cases entry
      · rename_i foreign
        obtain ⟨other, registered, declares⟩ := (indexed.listed capability).mp entry
        refine ⟨other, (mem_removed inside other).mpr ⟨registered, ?_⟩, declares⟩
        rintro rfl
        exact foreign declares
    · rintro ⟨other, kept, declares⟩
      obtain ⟨registered, apart⟩ := (mem_removed inside other).mp kept
      rw [if_neg (fun own => sole other registered apart capability own declares)]
      exact (indexed.listed capability).mpr ⟨other, registered, declares⟩

end Removal

theorem step_declared {kernel : Kernel μ} (declared : kernel.Declared) (made : KernelCall μ) :
    (kernelStep kernel made).2.Declared := by
  cases made with
  | register module =>
      rw [kernelStep, call_registerModule]
      split
      · exact declared
      · rename_i fresh
        exact registered_declared module (eq_false_of_ne_true fresh) declared
  | unregister moduleId =>
      rw [kernelStep, call_unregisterModule]
      cases found : kernel.registry.find? moduleId with
      | none => exact declared
      | some module =>
          obtain ⟨inside, rfl⟩ := (kernel.registry.find?_eq_some_iff _ _).mp found
          exact removed_declared inside declared

/-- Whatever is called, the entries are registered modules that declare the capabilities. -/
theorem run_declared (calls : List (KernelCall μ)) :
    (run kernelStep (create : Kernel μ) calls).2.Declared :=
  @run_invariant _ _ _ kernelStep Declared (fun _ made declared => step_declared declared made)
    create create_declared calls

/-- A call keeps the index exactly where it removes no module whose capabilities another
declares. -/
theorem step_indexed_iff {kernel : Kernel μ} (indexed : kernel.Indexed) (made : KernelCall μ) :
    (kernelStep kernel made).2.Indexed ↔ kernel.RemovesSole made := by
  cases made with
  | register module =>
      have sole : kernel.RemovesSole (.register module) := by
        intro other _ removal
        cases removal
      refine iff_of_true ?_ sole
      rw [kernelStep, call_registerModule]
      split
      · exact indexed
      · rename_i fresh
        exact registered_indexed module (eq_false_of_ne_true fresh) indexed
  | unregister moduleId =>
      rw [kernelStep, call_unregisterModule]
      cases found : kernel.registry.find? moduleId with
      | none =>
          refine iff_of_true indexed ?_
          intro module inside removal
          cases removal
          exact absurd rfl ((kernel.registry.find?_eq_none_iff _).mp found module inside)
      | some module =>
          obtain ⟨inside, rfl⟩ := (kernel.registry.find?_eq_some_iff _ _).mp found
          refine (removed_indexed_iff inside indexed).trans ⟨fun sole => ?_, fun sole => ?_⟩
          · intro other registered removal
            obtain rfl := kernel.registry.eq_of_key_eq registered inside
              (KernelCall.unregister.inj removal).symm
            exact sole
          · exact sole module inside rfl

/-- The index is what the registered modules declare all along exactly where no module is removed
whose capabilities another one declares. -/
theorem capability_index_iff (calls : List (KernelCall μ)) :
    Throughout kernelStep Indexed create calls ↔
      Along kernelStep RemovesSole (create : Kernel μ) calls :=
  @throughout_iff_along _ _ _ kernelStep RemovesSole (fun _ => True) Indexed
    (fun _ _ _ _ => trivial) (fun _ made _ indexed => step_indexed_iff indexed made)
    create trivial create_indexed calls

end Kernel

/-- A module of its id and capabilities. -/
structure BaseModule where
  id : String
  capabilities : List Capability
deriving DecidableEq

instance : Module BaseModule := ⟨BaseModule.id, BaseModule.capabilities⟩

/-- Of two modules that offer text recognition one is removed, and the other's entry is gone. -/
theorem shared_capability_lost :
    ¬ Throughout kernelStep Kernel.Indexed Kernel.create
      [.register (BaseModule.mk "ocr1" [.ocr]), .register ⟨"ocr2", [.ocr]⟩,
        .unregister "ocr1"] := by
  rintro ⟨_, _, _, indexed⟩
  exact absurd ((indexed.listed .ocr).mpr ⟨⟨"ocr2", [.ocr]⟩, by decide, by decide⟩) (by decide)

end LexMind.Core
