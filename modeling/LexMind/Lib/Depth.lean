import LexMind.Lib.Digraph
import Mathlib.Order.Bounds.Basic

set_option autoImplicit false

namespace Lib

open Relation

variable {α : Type} {edge : α → α → Prop}

/-- A path of the given number of edges. -/
inductive Walk (edge : α → α → Prop) : Nat → α → α → Prop
  | refl (node : α) : Walk edge 0 node node
  | tail {length : Nat} {first mid last : α} :
      Walk edge length first mid → edge mid last → Walk edge (length + 1) first last

/-- The length of a shortest path to a node from one that no edge leads to. -/
def Depth (edge : α → α → Prop) (node : α) (depth : Nat) : Prop :=
  IsLeast { length | ∃ root, (∀ parent, ¬ edge parent root) ∧ Walk edge length root node } depth

theorem Walk.trans {length length' : Nat} {first mid last : α} (front : Walk edge length first mid)
    (back : Walk edge length' mid last) : Walk edge (length + length') first last := by
  induction back with
  | refl => exact front
  | tail _ step ih => exact .tail (ih front) step

theorem Walk.same_or_path {length : Nat} {first last : α} (walk : Walk edge length first last) :
    first = last ∨ TransGen edge first last := by
  induction walk with
  | refl => exact .inl rfl
  | tail _ step ih =>
      rcases ih with rfl | path
      · exact .inr (.single step)
      · exact .inr (path.tail step)

/-- A node that no edge leads to is a root itself. -/
theorem depth_root {node : α} (unparented : ∀ parent, ¬ edge parent node) : Depth edge node 0 :=
  ⟨⟨node, unparented, .refl node⟩, fun _ _ => Nat.zero_le _⟩

/-- A root that leads to a node with ancestors is one of them. -/
theorem root_above {node top root : α} {length : Nat} (above : TransGen edge top node)
    (unparented : ∀ parent, ¬ edge parent root) (walk : Walk edge length root node) :
    TransGen edge root node := by
  rcases walk.same_or_path with rfl | path
  · obtain ⟨parent, _, step⟩ := TransGen.tail'_iff.mp above
    exact absurd step (unparented parent)
  · exact path

/-- A list in which both ends of every edge stand, and the first end earlier. -/
structure Linear [DecidableEq α] (edge : α → α → Prop) (nodes : List α) : Prop where
  distinct : nodes.Nodup
  listed : ∀ first second, edge first second → first ∈ nodes ∧ second ∈ nodes
  before : ∀ first second, edge first second → nodes.idxOf first < nodes.idxOf second

/-- From one position of the list to another one, each node has an edge to the next one and to no
later one. -/
def Line [DecidableEq α] (edge : α → α → Prop) (nodes : List α) (start stop : Nat) : Prop :=
  ∀ first ∈ nodes, ∀ second ∈ nodes, start ≤ nodes.idxOf first →
    nodes.idxOf first < nodes.idxOf second → nodes.idxOf second ≤ stop →
    (edge first second ↔ nodes.idxOf second = nodes.idxOf first + 1)

theorem Line.mono [DecidableEq α] {nodes : List α} {start start' stop : Nat}
    (line : Line edge nodes start stop) (later : start ≤ start') : Line edge nodes start' stop :=
  fun first inside second inside' late => line first inside second inside' (later.trans late)

namespace Linear

variable [DecidableEq α] {nodes : List α}

theorem path_listed (linear : Linear edge nodes) {first last : α} (path : TransGen edge first last) :
    first ∈ nodes ∧ last ∈ nodes := by
  obtain ⟨_, start, _⟩ := TransGen.head'_iff.mp path
  obtain ⟨_, _, stop⟩ := TransGen.tail'_iff.mp path
  exact ⟨(linear.listed _ _ start).1, (linear.listed _ _ stop).2⟩

theorem path_before (linear : Linear edge nodes) {first last : α} (path : TransGen edge first last) :
    nodes.idxOf first < nodes.idxOf last := by
  induction path with
  | single step => exact linear.before _ _ step
  | tail _ step ih => exact ih.trans (linear.before _ _ step)

/-- Each edge of a path goes at least one position on. -/
theorem walk_le (linear : Linear edge nodes) {length : Nat} {first last : α}
    (walk : Walk edge length first last) : nodes.idxOf first + length ≤ nodes.idxOf last := by
  induction walk with
  | refl => exact Nat.le_refl _
  | tail _ step ih =>
      have further := linear.before _ _ step
      omega

theorem node_at (linear : Linear edge nodes) {position : Nat} (bound : position < nodes.length) :
    ∃ node ∈ nodes, nodes.idxOf node = position :=
  ⟨nodes[position], List.getElem_mem bound, linear.distinct.idxOf_getElem position bound⟩

theorem eq_of_idxOf {first second : α} (inside : first ∈ nodes)
    (same : nodes.idxOf first = nodes.idxOf second) : first = second :=
  (List.idxOf_inj inside).mp same

/-- A path that is as long as its ends lie apart visits every position between them. -/
theorem tight_walk (linear : Linear edge nodes) {length : Nat} {first last : α}
    (walk : Walk edge length first last) (tight : nodes.idxOf first + length = nodes.idxOf last)
    {node next : α} (inside : node ∈ nodes) (start : nodes.idxOf first ≤ nodes.idxOf node)
    (neighbours : nodes.idxOf next = nodes.idxOf node + 1) (inside' : next ∈ nodes)
    (stop : nodes.idxOf next ≤ nodes.idxOf last) : edge node next := by
  induction walk with
  | refl => omega
  | @tail length first mid last front step ih =>
      have reached := linear.walk_le front
      have further := linear.before _ _ step
      have held : nodes.idxOf first + length = nodes.idxOf mid := by omega
      by_cases early : nodes.idxOf next ≤ nodes.idxOf mid
      · exact ih held start early
      · have final : next = last := eq_of_idxOf inside' (by omega)
        have source : node = mid := eq_of_idxOf inside (by omega)
        rw [source, final]
        exact step

/-- Where each node has an edge to the next one, there is a path between any two nodes. -/
theorem steps_walk (linear : Linear edge nodes) {start stop : Nat}
    (steps : ∀ node ∈ nodes, ∀ next ∈ nodes, start ≤ nodes.idxOf node →
      nodes.idxOf next = nodes.idxOf node + 1 → nodes.idxOf next ≤ stop → edge node next)
    {first : α} (inside : first ∈ nodes) (late : start ≤ nodes.idxOf first) (length : Nat)
    {last : α} (inside' : last ∈ nodes) (apart : nodes.idxOf last = nodes.idxOf first + length)
    (early : nodes.idxOf last ≤ stop) : Walk edge length first last := by
  induction length generalizing last with
  | zero =>
      rw [eq_of_idxOf inside apart.symm]
      exact .refl last
  | succ length ih =>
      have bound := List.idxOf_lt_length_of_mem inside'
      obtain ⟨mid, held, position⟩ :=
        linear.node_at (show nodes.idxOf first + length < nodes.length by omega)
      have step : edge mid last :=
        steps mid held last inside' (by omega) (by omega) early
      exact .tail (ih held position (by omega)) step

/-- Along a line, a path is as long as its ends lie apart. -/
theorem line_walk_length (linear : Linear edge nodes) {start stop : Nat}
    (line : Line edge nodes start stop) {length : Nat} {first last : α}
    (walk : Walk edge length first last) (late : start ≤ nodes.idxOf first)
    (early : nodes.idxOf last ≤ stop) : nodes.idxOf last = nodes.idxOf first + length := by
  induction walk with
  | refl => rfl
  | @tail length first mid last front step ih =>
      obtain ⟨held, inside⟩ := linear.listed _ _ step
      have reached := linear.walk_le front
      have further := linear.before _ _ step
      have next := (line mid held last inside (by omega) further early).mp step
      have before := ih late (by omega)
      omega

variable {node top : α}

/-- The first ancestor has no ancestors. -/
theorem earliest_root (linear : Linear edge nodes) (above : TransGen edge top node)
    (earliest : ∀ ancestor, TransGen edge ancestor node → nodes.idxOf top ≤ nodes.idxOf ancestor)
    (parent : α) : ¬ edge parent top := by
  intro step
  have before := linear.before _ _ step
  have later := earliest parent (.head step above)
  omega

theorem line_of_depth (linear : Linear edge nodes) (above : TransGen edge top node)
    (earliest : ∀ ancestor, TransGen edge ancestor node → nodes.idxOf top ≤ nodes.idxOf ancestor)
    (depth : Depth edge node (nodes.idxOf node - nodes.idxOf top)) :
    Line edge nodes (nodes.idxOf top) (nodes.idxOf node) := by
  obtain ⟨⟨root, unparented, walk⟩, least⟩ := depth
  obtain ⟨held, inside⟩ := linear.path_listed above
  have apart := linear.path_before above
  have first_le := earliest root (root_above above unparented walk)
  have walked := linear.walk_le walk
  -- The shortest path is as long as a path can be, so that it visits all positions.
  have steps : ∀ first ∈ nodes, ∀ next ∈ nodes, nodes.idxOf top ≤ nodes.idxOf first →
      nodes.idxOf next = nodes.idxOf first + 1 → nodes.idxOf next ≤ nodes.idxOf node →
      edge first next := fun first among next among' late neighbours early =>
    linear.tight_walk walk (by omega) among (by omega) neighbours among' early
  intro first among second among' late further early
  refine ⟨fun step => ?_, fun neighbours => steps first among second among' late neighbours early⟩
  have front : Walk edge (nodes.idxOf first - nodes.idxOf top) top first :=
    linear.steps_walk steps held le_rfl _ among (by omega) (by omega)
  have back : Walk edge (nodes.idxOf node - nodes.idxOf second) second node :=
    linear.steps_walk steps among' (by omega) _ inside (by omega) le_rfl
  have detour := least ⟨top, linear.earliest_root above earliest, (front.tail step).trans back⟩
  omega

theorem depth_of_line (linear : Linear edge nodes) (above : TransGen edge top node)
    (earliest : ∀ ancestor, TransGen edge ancestor node → nodes.idxOf top ≤ nodes.idxOf ancestor)
    (line : Line edge nodes (nodes.idxOf top) (nodes.idxOf node)) :
    Depth edge node (nodes.idxOf node - nodes.idxOf top) := by
  obtain ⟨held, inside⟩ := linear.path_listed above
  have apart := linear.path_before above
  constructor
  · refine ⟨top, linear.earliest_root above earliest, linear.steps_walk ?_ held le_rfl _ inside
      (by omega) le_rfl⟩
    intro first among next among' late neighbours early
    exact (line first among next among' late (by omega) early).mpr neighbours
  · rintro length ⟨root, unparented, walk⟩
    have path := root_above above unparented walk
    have late := earliest root path
    have walked := linear.line_walk_length line walk late le_rfl
    -- A root after the first ancestor would be the child of the one listed before it.
    have first : nodes.idxOf root = nodes.idxOf top := by
      by_contra differs
      have among := (linear.path_listed path).1
      have bound := List.idxOf_lt_length_of_mem among
      obtain ⟨previous, among', position⟩ :=
        linear.node_at (show nodes.idxOf root - 1 < nodes.length by omega)
      have step := (line previous among' root among (by omega) (by omega) (by omega)).mpr (by omega)
      exact unparented previous step
    omega

/-- How far a node lies from its first ancestor is its depth just where the list is a line from
there on. -/
theorem depth_iff (linear : Linear edge nodes) (above : TransGen edge top node)
    (earliest : ∀ ancestor, TransGen edge ancestor node → nodes.idxOf top ≤ nodes.idxOf ancestor) :
    Depth edge node (nodes.idxOf node - nodes.idxOf top) ↔
      Line edge nodes (nodes.idxOf top) (nodes.idxOf node) :=
  ⟨linear.line_of_depth above earliest, linear.depth_of_line above earliest⟩

end Linear

end Lib
