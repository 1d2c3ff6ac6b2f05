import Mathlib.Algebra.GroupWithZero.Nat
import Mathlib.Data.Set.Finite.Basic
import Mathlib.Logic.Relation
import Mathlib.Order.WellFounded

set_option autoImplicit false

/- Directed graphs given by an edge relation: acyclicity, sources, and the
depth-first search for a path. -/
namespace Lib

open Relation

variable {α : Type}

def Acyclic (edge : α → α → Prop) : Prop := ∀ node, ¬ TransGen edge node node

theorem Acyclic.mono {small large : α → α → Prop} (acyclic : Acyclic large)
    (sub : ∀ first second, small first second → large first second) : Acyclic small :=
  fun node cycle => acyclic node (TransGen.mono sub node node cycle)

/-- A path over one more edge is a path without it, or leads to its source and on from
its target. -/
theorem transGen_insert {edge : α → α → Prop} {parent child first last : α}
    (clear : ¬ ReflTransGen edge child parent)
    (path : TransGen (fun p c => edge p c ∨ p = parent ∧ c = child) first last) :
    TransGen edge first last ∨ ReflTransGen edge first parent ∧ ReflTransGen edge child last := by
  induction path with
  | single step =>
      rcases step with old | ⟨rfl, rfl⟩
      · exact .inl (.single old)
      · exact .inr ⟨.refl, .refl⟩
  | tail _ step ih =>
      rcases ih with before | ⟨toParent, fromChild⟩
      · rcases step with old | ⟨rfl, rfl⟩
        · exact .inl (before.tail old)
        · exact .inr ⟨before.to_reflTransGen, .refl⟩
      · rcases step with old | ⟨rfl, rfl⟩
        · exact .inr ⟨toParent, fromChild.tail old⟩
        · exact absurd fromChild clear

/-- An edge whose source cannot be reached from its target closes no cycle. -/
theorem Acyclic.insert {edge : α → α → Prop} (acyclic : Acyclic edge) {parent child : α}
    (clear : ¬ ReflTransGen edge child parent) :
    Acyclic (fun p c => edge p c ∨ p = parent ∧ c = child) := by
  intro node cycle
  rcases transGen_insert clear cycle with old | ⟨toParent, fromChild⟩
  · exact acyclic node old
  · exact clear (fromChild.trans toParent)

/-- A node that no edge leads to closes no cycle with the edges it brings. -/
theorem Acyclic.grow {small large : α → α → Prop} (acyclic : Acyclic small) (node : α)
    (old : ∀ first second, first ≠ node → large first second → small first second)
    (source : ∀ first, ¬ large first node) : Acyclic large := by
  have without : ∀ first last, first ≠ node → TransGen large first last →
      TransGen small first last := by
    intro first last apart path
    induction path with
    | single step => exact .single (old _ _ apart step)
    | @tail middle last before step ih =>
        refine ih.tail (old _ _ ?_ step)
        rintro rfl
        obtain ⟨previous, -, into⟩ := TransGen.tail'_iff.mp before
        exact source previous into
  intro other cycle
  by_cases same : other = node
  · obtain ⟨previous, -, into⟩ := TransGen.tail'_iff.mp cycle
    exact source previous (same ▸ into)
  · exact acyclic other (without other other same cycle)

/-- Among finitely many nodes of an acyclic graph, one has no parent among them. -/
theorem Acyclic.exists_source {edge : α → α → Prop} (acyclic : Acyclic edge) {nodes : List α}
    (some : nodes ≠ []) : ∃ node ∈ nodes, ∀ parent ∈ nodes, ¬ edge parent node := by
  obtain ⟨start, rest, rfl⟩ := List.exists_cons_of_ne_nil some
  let Listed := { node // node ∈ start :: rest }
  have finite : Finite Listed := (start :: rest).finite_toSet
  let before : Listed → Listed → Prop := fun first second => TransGen edge first.1 second.1
  have trans : IsTrans Listed before := ⟨fun _ _ _ first second => TransGen.trans first second⟩
  have irrefl : Std.Irrefl before := ⟨fun node cycle => acyclic node.1 cycle⟩
  have founded : WellFounded before := Finite.wellFounded_of_trans_of_irrefl before
  obtain ⟨source, _, least⟩ :=
    founded.has_min Set.univ ⟨⟨start, List.mem_cons_self⟩, Set.mem_univ _⟩
  exact ⟨source.1, source.2, fun parent inside step =>
    least ⟨parent, inside⟩ (Set.mem_univ _) (.single step)⟩

/-- In a list without repetitions, what stands in front of a node has a smaller index. -/
theorem idxOf_lt_of_front [DecidableEq α] {front back : List α} {node other : α}
    (distinct : (front ++ node :: back).Nodup) (before : other ∈ front) :
    (front ++ node :: back).idxOf other < (front ++ node :: back).idxOf node := by
  have fresh : node ∉ front := fun held =>
    (List.nodup_append.mp distinct).2.2 node held node List.mem_cons_self rfl
  rw [List.idxOf_append_of_mem before, List.idxOf_append_of_notMem fresh, List.idxOf_cons_self]
  exact Nat.lt_of_lt_of_le (List.idxOf_lt_length_of_mem before) (Nat.le_add_right _ _)

section Positions

variable [DecidableEq α] {nodes : List α} {start : Nat} {node : α}

/-- What is left of a list without repetitions keeps its positions. -/
theorem idxOf_of_mem_drop (distinct : nodes.Nodup) (inside : node ∈ nodes.drop start) :
    nodes.idxOf node = start + (nodes.drop start).idxOf node := by
  have whole := List.take_append_drop start nodes
  have fresh : node ∉ nodes.take start := fun held =>
    (List.nodup_append.mp (whole.symm ▸ distinct)).2.2 node held node inside rfl
  have length : (nodes.take start).length = start := by
    have some := List.length_pos_of_mem inside
    rw [List.length_drop] at some
    rw [List.length_take]
    omega
  calc nodes.idxOf node = (nodes.take start ++ nodes.drop start).idxOf node := by rw [whole]
    _ = start + (nodes.drop start).idxOf node := by
        rw [List.idxOf_append_of_notMem fresh, length]

theorem mem_drop_iff (distinct : nodes.Nodup) :
    node ∈ nodes.drop start ↔ node ∈ nodes ∧ start ≤ nodes.idxOf node := by
  constructor
  · intro inside
    have position := idxOf_of_mem_drop distinct inside
    exact ⟨List.mem_of_mem_drop inside, by omega⟩
  · rintro ⟨inside, late⟩
    by_contra early
    rw [← List.take_append_drop start nodes, List.mem_append] at inside
    have held := inside.resolve_right early
    have before : nodes.idxOf node = (nodes.take start).idxOf node := by
      conv_lhs => rw [← List.take_append_drop start nodes]
      exact List.idxOf_append_of_mem held
    have bound := List.idxOf_lt_length_of_mem held
    rw [List.length_take] at bound
    omega

end Positions

section Search

variable [DecidableEq α] (next : α → List α) (target : α)

/-- Depth-first search with a stack, whose top is the head, and the visited nodes; `none`
when the fuel is used up first. -/
def search : Nat → List α → List α → Option Bool
  | _, _, [] => some false
  | 0, _, _ :: _ => none
  | fuel + 1, visited, node :: stack =>
      if node = target then some true
      else if node ∈ visited then search fuel visited stack
      else search fuel (node :: visited) (next node ++ stack)

variable {next target}

theorem search_true {fuel : Nat} {visited stack : List α}
    (found : search next target fuel visited stack = some true) :
    ∃ node ∈ stack, ReflTransGen (fun first second => second ∈ next first) node target := by
  induction fuel generalizing visited stack with
  | zero => cases stack <;> simp [search] at found
  | succ fuel ih =>
      cases stack with
      | nil => simp [search] at found
      | cons node stack =>
          unfold search at found
          split at found
          · rename_i same
            exact ⟨node, List.mem_cons_self, same ▸ .refl⟩
          · split at found
            · obtain ⟨other, inside, path⟩ := ih found
              exact ⟨other, List.mem_cons_of_mem _ inside, path⟩
            · obtain ⟨other, inside, path⟩ := ih found
              rcases List.mem_append.mp inside with child | later
              · exact ⟨node, List.mem_cons_self, .head child path⟩
              · exact ⟨other, List.mem_cons_of_mem _ later, path⟩

/-- When the search fails, the nodes it has seen are closed under edges and miss the target. -/
theorem search_false {fuel : Nat} {visited stack : List α}
    (missed : search next target fuel visited stack = some false) (away : target ∉ visited)
    (closed : ∀ node ∈ visited, ∀ child ∈ next node, child ∈ visited ∨ child ∈ stack) :
    ∃ seen : List α, (∀ node, node ∈ visited ∨ node ∈ stack → node ∈ seen) ∧ target ∉ seen ∧
      ∀ node ∈ seen, ∀ child ∈ next node, child ∈ seen := by
  induction fuel generalizing visited stack with
  | zero =>
      cases stack with
      | nil => exact ⟨visited, by simp, away, by simpa using closed⟩
      | cons node stack => simp [search] at missed
  | succ fuel ih =>
      cases stack with
      | nil => exact ⟨visited, by simp, away, by simpa using closed⟩
      | cons node stack =>
          unfold search at missed
          split at missed
          · simp at missed
          · rename_i differs
            split at missed
            · rename_i known
              obtain ⟨seen, holds, misses, shut⟩ := ih missed away (by
                intro old inside child edge
                rcases closed old inside child edge with done | waiting
                · exact .inl done
                · rcases List.mem_cons.mp waiting with rfl | later
                  · exact .inl known
                  · exact .inr later)
              refine ⟨seen, ?_, misses, shut⟩
              rintro other (inside | waiting)
              · exact holds other (.inl inside)
              · rcases List.mem_cons.mp waiting with rfl | later
                · exact holds other (.inl known)
                · exact holds other (.inr later)
            · obtain ⟨seen, holds, misses, shut⟩ := ih missed
                (by simpa [Ne.symm differs] using away) (by
                intro old inside child edge
                rcases List.mem_cons.mp inside with rfl | earlier
                · exact .inr (List.mem_append_left _ edge)
                · rcases closed old earlier child edge with done | waiting
                  · exact .inl (List.mem_cons_of_mem _ done)
                  · rcases List.mem_cons.mp waiting with rfl | later
                    · exact .inl List.mem_cons_self
                    · exact .inr (List.mem_append_right _ later))
              refine ⟨seen, ?_, misses, shut⟩
              rintro other (inside | waiting)
              · exact holds other (.inl (List.mem_cons_of_mem _ inside))
              · rcases List.mem_cons.mp waiting with rfl | later
                · exact holds other (.inl List.mem_cons_self)
                · exact holds other (.inr (List.mem_append_right _ later))

/-- The edges out of the nodes that are not visited yet. -/
def unexplored (next : α → List α) (nodes visited : List α) : Nat :=
  ((nodes.filter (· ∉ visited)).map (fun node => (next node).length)).sum

/-- A node visited for the first time pays with its own edges for those it stacks. -/
theorem unexplored_visit {nodes visited : List α} (distinct : nodes.Nodup) {node : α}
    (fresh : node ∉ visited) (known : next node ≠ [] → node ∈ nodes) :
    unexplored next nodes (node :: visited) + (next node).length = unexplored next nodes visited := by
  induction nodes with
  | nil =>
      have empty : next node = [] := by
        by_contra some
        simpa using known some
      simp [unexplored, empty]
  | cons first rest ih =>
      obtain ⟨apart, distinct⟩ := List.nodup_cons.mp distinct
      by_cases same : first = node
      · subst same
        have others : rest.filter (fun other => ¬ (other = first ∨ other ∈ visited)) =
            rest.filter (· ∉ visited) :=
          List.filter_congr (fun other inside => by
            have differs : other ≠ first := fun same => apart (same ▸ inside)
            simp [differs])
        simp only [unexplored, List.filter_cons, List.mem_cons, true_or, not_true_eq_false,
          decide_false, Bool.false_eq_true, ↓reduceIte, fresh, not_false_eq_true, decide_true,
          List.map_cons, List.sum_cons]
        rw [others, Nat.add_comm]
      · have later := ih distinct (fun some =>
          (List.mem_cons.mp (known some)).resolve_left (Ne.symm same))
        by_cases seen : first ∈ visited
        · simpa [unexplored, seen, same] using later
        · simp only [unexplored, List.filter_cons, List.mem_cons, same, seen, or_self,
            not_false_eq_true, decide_true, ↓reduceIte, List.map_cons, List.sum_cons] at later ⊢
          omega

/-- Fuel for each stacked node and for each edge not explored yet is enough. -/
theorem search_isSome {nodes : List α} (distinct : nodes.Nodup)
    (known : ∀ node, next node ≠ [] → node ∈ nodes) {fuel : Nat} {visited stack : List α}
    (enough : stack.length + unexplored next nodes visited ≤ fuel) :
    (search next target fuel visited stack).isSome := by
  induction fuel generalizing visited stack with
  | zero =>
      cases stack with
      | nil => rfl
      | cons node stack => simp at enough
  | succ fuel ih =>
      cases stack with
      | nil => rfl
      | cons node stack =>
          rw [List.length_cons] at enough
          unfold search
          split
          · rfl
          · split
            · exact ih (by omega)
            · rename_i fresh
              have paid := unexplored_visit distinct fresh (known node)
              exact ih (by rw [List.length_append]; omega)

/-- The search from one node decides reachability. -/
theorem search_eq_true_iff {nodes : List α} (distinct : nodes.Nodup)
    (known : ∀ node, next node ≠ [] → node ∈ nodes) {fuel : Nat}
    (enough : 1 + unexplored next nodes [] ≤ fuel) (start : α) :
    search next target fuel [] [start] = some true ↔
      ReflTransGen (fun first second => second ∈ next first) start target := by
  constructor
  · intro found
    obtain ⟨node, inside, path⟩ := search_true found
    rwa [List.mem_singleton.mp inside] at path
  · intro path
    have ends := @search_isSome α _ next target nodes distinct known fuel [] [start]
      (by simpa using enough)
    obtain ⟨answer, done⟩ := Option.isSome_iff_exists.mp ends
    cases answer with
    | true => exact done
    | false =>
        obtain ⟨seen, holds, misses, shut⟩ := search_false done (by simp) (by simp)
        have reached : ∀ node, ReflTransGen (fun first second => second ∈ next first) start node →
            node ∈ seen := by
          intro node steps
          induction steps with
          | refl => exact holds start (.inr List.mem_cons_self)
          | tail _ edge ih => exact shut _ ih _ edge
        exact absurd (reached target path) misses

end Search

end Lib
