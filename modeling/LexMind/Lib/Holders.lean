import Mathlib.Algebra.BigOperators.Group.Finset.Basic
import Mathlib.Data.Fintype.Basic
import Mathlib.Logic.Function.Basic

set_option autoImplicit false

namespace Lib

variable {ι α : Type} [Fintype ι]

/-- How many members of a family are in a state that the property marks. -/
def holders (mark : ι → α → Bool) (family : ι → α) : Nat :=
  ∑ i, (mark i (family i)).toNat

theorem holders_eq_zero_iff (mark : ι → α → Bool) (family : ι → α) :
    holders mark family = 0 ↔ ∀ i, mark i (family i) = false := by
  simp [holders]

variable [DecidableEq ι]

/-- When one member moves, only its own mark changes the count. -/
theorem holders_update (mark : ι → α → Bool) (family : ι → α) (mover : ι) (state : α) :
    holders mark (Function.update family mover state) + (mark mover (family mover)).toNat =
      holders mark family + (mark mover state).toNat := by
  have others : ∑ i ∈ Finset.univ.erase mover,
        (mark i (Function.update family mover state i)).toNat =
      ∑ i ∈ Finset.univ.erase mover, (mark i (family i)).toNat := by
    apply Finset.sum_congr rfl
    intro i inside
    rw [Function.update_of_ne (Finset.ne_of_mem_erase inside)]
  have inside := Finset.mem_univ mover
  unfold holders
  rw [← Finset.add_sum_erase _ _ inside, ← Finset.add_sum_erase _ (fun i => (mark i (family i)).toNat)
    inside, others, Function.update_self]
  omega

end Lib
