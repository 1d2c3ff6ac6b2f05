import Mathlib.Algebra.GroupWithZero.Nat
import Mathlib.Algebra.Order.BigOperators.Group.List
import Mathlib.Algebra.Order.Group.Nat
import Mathlib.Data.List.Nodup
import Mathlib.Logic.Relation

set_option autoImplicit false

/- A loop that pops a node from a stack, takes down what it finds there and pushes the nodes that
come next. -/
namespace Lib

open Relation

variable {ν ρ : Type} (next : ν → List ν) (found : ν → List ρ)

/-- The top of the stack is its head; `none` when the fuel is used up first. -/
def stackWalk : Nat → List ν → Option (List ρ)
  | _, [] => some []
  | 0, _ :: _ => none
  | fuel + 1, node :: stack => (stackWalk fuel (next node ++ stack)).map (found node ++ ·)

variable {next found}

/-- Where each node weighs more than all nodes that come next, as much fuel as the stack weighs is
enough, and the loop finds what there is at the nodes that it can reach. -/
theorem stackWalk_spec {weight : ν → Nat}
    (shrinks : ∀ node, ((next node).map weight).sum < weight node) {fuel : Nat} {stack : List ν}
    (enough : (stack.map weight).sum ≤ fuel) :
    ∃ rows, stackWalk next found fuel stack = some rows ∧ ∀ row, row ∈ rows ↔
      ∃ start ∈ stack, ∃ node, ReflTransGen (fun first second => second ∈ next first) start node ∧
        row ∈ found node := by
  induction fuel generalizing stack with
  | zero =>
      cases stack with
      | nil => exact ⟨[], rfl, fun row => by simp⟩
      | cons node rest =>
          have positive := shrinks node
          rw [List.map_cons, List.sum_cons] at enough
          omega
  | succ fuel ih =>
      cases stack with
      | nil => exact ⟨[], rfl, fun row => by simp⟩
      | cons node rest =>
          have lighter : ((next node ++ rest).map weight).sum ≤ fuel := by
            have smaller := shrinks node
            rw [List.map_cons, List.sum_cons] at enough
            rw [List.map_append, List.sum_append]
            omega
          obtain ⟨rows, walked, reached⟩ := ih lighter
          refine ⟨found node ++ rows, by rw [stackWalk, walked, Option.map_some], fun row => ?_⟩
          rw [List.mem_append, reached]
          constructor
          · rintro (here | ⟨start, inside, other, path, held⟩)
            · exact ⟨node, List.mem_cons_self, node, .refl, here⟩
            · rcases List.mem_append.mp inside with step | later
              · exact ⟨node, List.mem_cons_self, other, .head step path, held⟩
              · exact ⟨start, List.mem_cons_of_mem _ later, other, path, held⟩
          · rintro ⟨start, inside, other, path, held⟩
            rcases List.mem_cons.mp inside with rfl | later
            · rcases path.cases_head with rfl | ⟨middle, step, path⟩
              · exact .inl held
              · exact .inr ⟨middle, List.mem_append_left _ step, other, path, held⟩
            · exact .inr ⟨start, List.mem_append_right _ later, other, path, held⟩

section Subtrees

variable {α : Type}

theorem append_prefix_unique {path other : List α} {first second : α}
    (left : path ++ [first] <+: other) (right : path ++ [second] <+: other) : first = second := by
  obtain ⟨rest, rfl⟩ := left
  rw [List.append_assoc, List.prefix_append_right_inj] at right
  exact (List.cons_prefix_cons.mp right).1.symm

theorem below_of_append {path other : List α} {name : α} (inside : path ++ [name] <+: other) :
    path <+: other ∧ path ≠ other := by
  obtain ⟨rest, rfl⟩ := inside
  refine ⟨⟨name :: rest, by simp⟩, fun same => ?_⟩
  have lengths := congrArg List.length same
  simp at lengths

variable [DecidableEq α]

/-- How many of the paths lie below one. -/
def below (paths : List (List α)) (path : List α) : Nat :=
  paths.countP (fun other => path <+: other ∧ path ≠ other)

/-- A path below another one lies in the subtree of at most one name. -/
theorem countP_subtrees_le {names : List α} (distinct : names.Nodup) (path other : List α) :
    names.countP (fun name => path ++ [name] <+: other) ≤
      if path <+: other ∧ path ≠ other then 1 else 0 := by
  by_cases none : ∀ name ∈ names, ¬ path ++ [name] <+: other
  · rw [List.countP_eq_zero.mpr (fun name inside => by simpa using none name inside)]
    exact Nat.zero_le _
  · push Not at none
    obtain ⟨name, _, within⟩ := none
    rw [if_pos (below_of_append within)]
    calc names.countP (fun name => path ++ [name] <+: other)
        ≤ names.countP (· == name) := by
          refine List.countP_mono_left (fun second _ also => ?_)
          exact beq_iff_eq.mpr (append_prefix_unique (of_decide_eq_true also) within)
      _ ≤ 1 := List.nodup_iff_count_le_one.mp distinct name

theorem sum_subtrees_le {names : List α} (distinct : names.Nodup) (paths : List (List α))
    (path : List α) :
    (names.map (fun name => paths.countP (path ++ [name] <+: ·))).sum ≤ below paths path := by
  induction paths with
  | nil => simp
  | cons other rest ih =>
      have split : (names.map (fun name => rest.countP (path ++ [name] <+: ·) +
            if path ++ [name] <+: other then 1 else 0)).sum =
          (names.map (fun name => rest.countP (path ++ [name] <+: ·))).sum +
            names.countP (fun name => path ++ [name] <+: other) := by
        clear distinct ih
        induction names with
        | nil => rfl
        | cons name names ih =>
            rw [List.map_cons, List.map_cons, List.sum_cons, List.sum_cons, ih, List.countP_cons]
            simp only [decide_eq_true_eq]
            omega
      have once := countP_subtrees_le distinct path other
      rw [below, List.countP_cons]
      simp only [List.countP_cons, decide_eq_true_eq]
      rw [split]
      exact Nat.add_le_add ih once

/-- The subtrees at different names below a path hold each path below it at most once, and their
own tops besides. -/
theorem sum_below_le {names : List α} (distinct : names.Nodup) {paths : List (List α)}
    {path : List α} (listed : ∀ name ∈ names, path ++ [name] ∈ paths) :
    (names.map (fun name => 1 + below paths (path ++ [name]))).sum ≤ below paths path := by
  have one : ∀ name ∈ names, 1 + below paths (path ++ [name]) ≤
      paths.countP (path ++ [name] <+: ·) := by
    intro name inside
    obtain ⟨front, back, rfl⟩ := List.append_of_mem (listed name inside)
    have less : below (front ++ back) (path ++ [name]) ≤
        (front ++ back).countP (path ++ [name] <+: ·) :=
      List.countP_mono_left (fun other _ strict => decide_eq_true (of_decide_eq_true strict).1)
    simp only [below, List.countP_append, List.countP_cons, ne_eq, not_true_eq_false, and_false,
      List.prefix_rfl, decide_false, decide_true, Bool.false_eq_true, ↓reduceIte] at less ⊢
    omega
  exact (List.sum_le_sum one).trans (sum_subtrees_le distinct paths path)

end Subtrees

end Lib
