import Mathlib.Data.List.Nodup
import Mathlib.Data.List.Perm.Subperm
import Mathlib.Logic.Relation

set_option autoImplicit false

/- Breadth-first collection of what can be reached over at least one edge. -/
namespace Lib

open Relation

variable {α : Type} [DecidableEq α]

/-- What is not seen yet, once each, in its order. -/
def unseen : List α → List α → List α
  | _, [] => []
  | seen, node :: rest =>
      if node ∈ seen then unseen seen rest else node :: unseen (seen ++ [node]) rest

/-- The queue and what is seen so far; `none` when the fuel is used up first. -/
def breadthFirst (next : α → List α) : Nat → List α → List α → Option (List α)
  | _, [], seen => some seen
  | 0, _ :: _, _ => none
  | fuel + 1, node :: queue, seen =>
      let fresh := unseen seen (next node)
      breadthFirst next fuel (queue ++ fresh) (seen ++ fresh)

theorem mem_unseen (seen nodes : List α) (node : α) :
    node ∈ unseen seen nodes ↔ node ∈ nodes ∧ node ∉ seen := by
  induction nodes generalizing seen with
  | nil => simp [unseen]
  | cons first rest ih =>
      unfold unseen
      by_cases old : first ∈ seen
      · rw [if_pos old, ih]
        constructor
        · rintro ⟨inside, fresh⟩
          exact ⟨List.mem_cons_of_mem _ inside, fresh⟩
        · rintro ⟨inside, fresh⟩
          rcases List.mem_cons.mp inside with rfl | later
          · exact absurd old fresh
          · exact ⟨later, fresh⟩
      · rw [if_neg old, List.mem_cons, ih]
        by_cases same : node = first
        · simp [same, old]
        · simp [same]

theorem nodup_append_unseen {seen : List α} (distinct : seen.Nodup) (nodes : List α) :
    (seen ++ unseen seen nodes).Nodup := by
  induction nodes generalizing seen with
  | nil => simpa [unseen] using distinct
  | cons first rest ih =>
      unfold unseen
      split
      · exact ih distinct
      · rename_i fresh
        have longer : (seen ++ [first]).Nodup := by
          rw [← List.concat_eq_append]
          exact distinct.concat fresh
        rw [← List.singleton_append, ← List.append_assoc]
        exact ih longer

variable {next : α → List α} {start : α}

/-- What the loop keeps: all that is seen is reached, and all that is reached from what was popped
is seen. -/
structure Spreading (next : α → List α) (start : α) (queue seen : List α) : Prop where
  distinct : seen.Nodup
  reached : ∀ node ∈ seen, TransGen (fun first second => second ∈ next first) start node
  queued : ∀ node ∈ queue, node = start ∨ node ∈ seen
  closed : ∀ node, node = start ∨ node ∈ seen → node ∈ queue ∨ ∀ other ∈ next node, other ∈ seen

omit [DecidableEq α] in
theorem Spreading.initial (next : α → List α) (start : α) : Spreading next start [start] [] where
  distinct := List.nodup_nil
  reached := fun _ none => absurd none List.not_mem_nil
  queued := fun _ inside => .inl (List.mem_singleton.mp inside)
  closed := fun node origin => by
    rcases origin with rfl | none
    · exact .inl List.mem_cons_self
    · exact absurd none List.not_mem_nil

theorem Spreading.step {node : α} {queue seen : List α}
    (spreading : Spreading next start (node :: queue) seen) :
    Spreading next start (queue ++ unseen seen (next node)) (seen ++ unseen seen (next node)) where
  distinct := nodup_append_unseen spreading.distinct (next node)
  reached := fun other inside => by
    rcases List.mem_append.mp inside with old | new
    · exact spreading.reached other old
    · have edge := ((mem_unseen _ _ _).mp new).1
      rcases spreading.queued node List.mem_cons_self with rfl | before
      · exact .single edge
      · exact (spreading.reached node before).tail edge
  queued := fun other inside => by
    rcases List.mem_append.mp inside with old | new
    · rcases spreading.queued other (List.mem_cons_of_mem _ old) with rfl | before
      · exact .inl rfl
      · exact .inr (List.mem_append_left _ before)
    · exact .inr (List.mem_append_right _ new)
  closed := fun other known => by
    have covered : ∀ child ∈ next node, child ∈ seen ++ unseen seen (next node) := by
      intro child edge
      by_cases old : child ∈ seen
      · exact List.mem_append_left _ old
      · exact List.mem_append_right _ ((mem_unseen _ _ _).mpr ⟨edge, old⟩)
    have earlier : other = start ∨ other ∈ seen → other ∈ queue ++ unseen seen (next node) ∨
        ∀ child ∈ next other, child ∈ seen ++ unseen seen (next node) := by
      intro before
      rcases spreading.closed other before with waiting | done
      · rcases List.mem_cons.mp waiting with rfl | later
        · exact .inr covered
        · exact .inl (List.mem_append_left _ later)
      · exact .inr (fun child edge => List.mem_append_left _ (done child edge))
    rcases known with origin | inside
    · exact earlier (.inl origin)
    · rcases List.mem_append.mp inside with old | new
      · exact earlier (.inr old)
      · exact .inl (List.mem_append_right _ new)

omit [DecidableEq α] in
/-- An empty queue leaves out nothing that is reached. -/
theorem Spreading.complete {seen : List α} (spreading : Spreading next start [] seen) (node : α) :
    node ∈ seen ↔ TransGen (fun first second => second ∈ next first) start node := by
  have closed : ∀ other, other = start ∨ other ∈ seen → ∀ child ∈ next other, child ∈ seen := by
    intro other known
    rcases spreading.closed other known with none | done
    · exact absurd none List.not_mem_nil
    · exact done
  constructor
  · exact spreading.reached node
  · intro path
    induction path with
    | single edge => exact closed start (.inl rfl) _ edge
    | tail _ edge ih => exact closed _ (.inr ih) _ edge

/-- Fuel for each queued node and for each one still to be seen is enough. -/
theorem breadthFirst_returns {nodes : List α} (known : ∀ node, ∀ other ∈ next node, other ∈ nodes)
    {fuel : Nat} {queue seen : List α} (spreading : Spreading next start queue seen)
    (within : ∀ node ∈ seen, node ∈ nodes)
    (enough : queue.length + nodes.length ≤ fuel + seen.length) :
    ∃ result, breadthFirst next fuel queue seen = some result ∧
      Spreading next start [] result := by
  induction fuel generalizing queue seen with
  | zero =>
      have few := (spreading.distinct.subperm within).length_le
      cases queue with
      | nil => exact ⟨seen, rfl, spreading⟩
      | cons node queue =>
          rw [List.length_cons] at enough
          omega
  | succ fuel ih =>
      cases queue with
      | nil => exact ⟨seen, rfl, spreading⟩
      | cons node queue =>
          refine ih spreading.step ?_ ?_
          · intro other inside
            rcases List.mem_append.mp inside with old | new
            · exact within other old
            · exact known node other ((mem_unseen _ _ _).mp new).1
          · rw [List.length_cons] at enough
            rw [List.length_append, List.length_append]
            omega

/-- The collection from one node lists what it reaches, each once. -/
theorem breadthFirst_spec {nodes : List α} (known : ∀ node, ∀ other ∈ next node, other ∈ nodes)
    {fuel : Nat} (enough : nodes.length < fuel) (start : α) :
    ∃ result, breadthFirst next fuel [start] [] = some result ∧ result.Nodup ∧
      ∀ node, node ∈ result ↔ TransGen (fun first second => second ∈ next first) start node := by
  have room : [start].length + nodes.length ≤ fuel + ([] : List α).length := by
    rw [List.length_singleton, List.length_nil]
    omega
  obtain ⟨result, returned, spreading⟩ := breadthFirst_returns known (.initial next start)
    (fun _ none => absurd none List.not_mem_nil) room
  exact ⟨result, returned, spreading.distinct, spreading.complete⟩

end Lib
