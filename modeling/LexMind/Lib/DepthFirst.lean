import LexMind.Lib.Call
import LexMind.Lib.Digraph

set_option autoImplicit false

/- Depth-first search that tells the nodes under visit from the finished ones. -/
namespace Lib.DepthFirst

open Relation

/-- The nodes under visit, innermost first, and the finished ones, oldest first. -/
structure Marks (α : Type) where
  entered : List α
  finished : List α

variable {α ε : Type} [DecidableEq α] (next : α → List α) (cycle : List α → α → ε)

/-- A visit, nested at most `fuel` deep; coming back to a node under visit ends the search. -/
def visit : Nat → Marks α → α → Except ε (Marks α)
  | 0, marks, _ => .ok marks
  | fuel + 1, marks, node =>
      if node ∈ marks.finished then .ok marks
      else if node ∈ marks.entered then .error (cycle marks.entered node)
      else do
        let inner ← (next node).foldlM (visit fuel) { marks with entered := node :: marks.entered }
        return ⟨inner.entered.erase node, inner.finished ++ [node]⟩

/-- What every visit keeps. A finished node has its successors before it. -/
structure Searching (nodes : List α) (marks : Marks α) : Prop where
  distinct : marks.finished.Nodup
  listed : ∀ node ∈ marks.finished, node ∈ nodes
  apart : ∀ node ∈ marks.entered, node ∉ marks.finished
  ordered : ∀ front node back, marks.finished = front ++ node :: back →
    ∀ other ∈ next node, other ∈ front

/-- The nodes under visit are distinct, so that the fuel outlasts them. -/
structure Room (nodes : List α) (fuel : Nat) (marks : Marks α) : Prop where
  distinct : marks.entered.Nodup
  listed : marks.entered ⊆ nodes
  enough : nodes.length < fuel + marks.entered.length

/-- A search over some nodes has come back to a node under visit, which is then on a cycle, or
it has finished all of them. -/
def Searched (nodes : List α) (marks : Marks α) (visits : List α)
    (result : Except ε (Marks α)) : Prop :=
  (∃ path node, result = .error (cycle path node) ∧
    TransGen (fun first second => second ∈ next first) node node) ∨
  ∃ after, result = .ok after ∧ after.entered = marks.entered ∧
    (∀ node ∈ marks.finished, node ∈ after.finished) ∧ Searching next nodes after ∧
    ∀ node ∈ visits, node ∈ after.finished

variable {next cycle} {nodes : List α} {marks : Marks α} {fuel : Nat}

omit [DecidableEq α] in
theorem Room.enter (room : Room nodes (fuel + 1) marks) {node : α} (inside : node ∈ nodes)
    (fresh : node ∉ marks.entered) :
    Room nodes fuel { marks with entered := node :: marks.entered } where
  distinct := List.nodup_cons.mpr ⟨fresh, room.distinct⟩
  listed := List.cons_subset.mpr ⟨inside, room.listed⟩
  enough := by
    have enough := room.enough
    rw [List.length_cons]
    omega

omit [DecidableEq α] in
theorem Room.spent (room : Room nodes 0 marks) : False := by
  have few := (room.distinct.subperm room.listed).length_le
  have enough := room.enough
  omega

omit [DecidableEq α] in
theorem Room.same {after : Marks α} (room : Room nodes fuel marks)
    (same : after.entered = marks.entered) : Room nodes fuel after := by
  refine ⟨?_, ?_, ?_⟩
  · rw [same]
    exact room.distinct
  · rw [same]
    exact room.listed
  · rw [same]
    exact room.enough

omit [DecidableEq α] in
theorem Room.outermost (enough : nodes.length < fuel) (none : marks.entered = []) :
    Room nodes fuel marks := by
  have start : Room nodes fuel (⟨[], marks.finished⟩ : Marks α) :=
    ⟨List.nodup_nil, List.nil_subset _, enough⟩
  exact start.same none

omit [DecidableEq α] in
theorem Searching.enter (searching : Searching next nodes marks) {node : α}
    (fresh : node ∉ marks.finished) :
    Searching next nodes { marks with entered := node :: marks.entered } :=
  { searching with
    apart := fun other inside => by
      rcases List.mem_cons.mp inside with rfl | outer
      · exact fresh
      · exact searching.apart other outer }

omit [DecidableEq α] in
/-- The innermost node is finished once its successors are. -/
theorem Searching.leave {node : α} {outer : List α} {finished : List α}
    (searching : Searching next nodes ⟨node :: outer, finished⟩) (inside : node ∈ nodes)
    (fresh : node ∉ outer) (done : ∀ other ∈ next node, other ∈ finished) :
    Searching next nodes ⟨outer, finished ++ [node]⟩ where
  distinct := by
    rw [← List.concat_eq_append]
    exact searching.distinct.concat (searching.apart node List.mem_cons_self)
  listed := fun other held => by
    rcases List.mem_append.mp held with before | last
    · exact searching.listed other before
    · exact List.mem_singleton.mp last ▸ inside
  apart := fun other held finishes => by
    rcases List.mem_append.mp finishes with before | last
    · exact searching.apart other (List.mem_cons_of_mem _ held) before
    · exact fresh (List.mem_singleton.mp last ▸ held)
  ordered := fun front other back split => by
    rcases List.eq_nil_or_concat back with rfl | ⟨inner, final, rfl⟩
    · obtain ⟨rfl, same⟩ := List.append_inj' split rfl
      cases same
      exact done
    · have shorter : finished ++ [node] = (front ++ other :: inner) ++ [final] := by
        simpa using split
      obtain ⟨same, _⟩ := List.append_inj' shorter rfl
      exact searching.ordered front other inner same

omit [DecidableEq α] in
/-- Visits one after another, each of which searches its node. -/
theorem searched_foldlM {step : Marks α → α → Except ε (Marks α)} {visits : List α}
    (searching : Searching next nodes marks)
    (each : ∀ before, before.entered = marks.entered → Searching next nodes before →
      ∀ node ∈ visits, Searched next cycle nodes before [node] (step before node)) :
    Searched next cycle nodes marks visits (visits.foldlM step marks) := by
  induction visits generalizing marks with
  | nil => exact .inr ⟨marks, rfl, rfl, fun _ held => held, searching, nofun⟩
  | cons node rest ih =>
      rw [List.foldlM_cons]
      rcases each marks rfl searching node List.mem_cons_self with
        ⟨path, last, raised, round⟩ | ⟨middle, returned, same, grown, searching, done⟩
      · rw [raised]
        exact .inl ⟨path, last, rfl, round⟩
      · rw [returned]
        rcases ih searching (fun before kept inv other inside =>
            each before (kept.trans same) inv other (List.mem_cons_of_mem _ inside)) with
          ⟨path, last, raised, round⟩ | ⟨after, returned, kept, more, searching, later⟩
        · exact .inl ⟨path, last, raised, round⟩
        · refine .inr ⟨after, returned, kept.trans same,
            fun other held => more other (grown other held), searching, ?_⟩
          intro other inside
          rcases List.mem_cons.mp inside with rfl | inside
          · exact more other (done other List.mem_cons_self)
          · exact later other inside

/-- A visit that returns leaves the nodes under visit as they were. -/
theorem visit_entered {node : α} {after : Marks α}
    (returned : visit next cycle fuel marks node = .ok after) : after.entered = marks.entered := by
  induction fuel generalizing marks node after with
  | zero =>
      cases returned
      rfl
  | succ fuel ih =>
      rw [visit] at returned
      split at returned
      · cases returned
        rfl
      split at returned
      · cases returned
      cases inner : (next node).foldlM (visit next cycle fuel)
          { marks with entered := node :: marks.entered } with
      | error reason =>
          rw [inner] at returned
          cases returned
      | ok last =>
          rw [inner] at returned
          cases returned
          have keeps (before : Marks α) (other : α) (middle : Marks α)
              (same : before.entered = node :: marks.entered)
              (visited : visit next cycle fuel before other = .ok middle) :
              middle.entered = node :: marks.entered := (ih visited).trans same
          have restored : last.entered = node :: marks.entered := foldlM_invariant keeps rfl inner
          simp only [restored, List.erase_cons_head]

/-- Fuel beyond one visit of each node outside those under visit is never used. -/
theorem visit_fuel (known : ∀ node ∈ nodes, ∀ other ∈ next node, other ∈ nodes) {node : α}
    (room : Room nodes fuel marks) (inside : node ∈ nodes) :
    visit next cycle (fuel + 1) marks node = visit next cycle fuel marks node := by
  induction fuel generalizing marks node with
  | zero => exact room.spent.elim
  | succ fuel ih =>
      rw [visit, visit]
      split
      · rfl
      split
      · rfl
      rename_i fresh
      have inner := room.enter inside fresh
      have keeps (before : Marks α) (other : α) (after : Marks α)
          (same : before.entered = node :: marks.entered)
          (returned : visit next cycle fuel before other = .ok after) :
          after.entered = node :: marks.entered := (visit_entered returned).trans same
      rw [foldlM_congr keeps (next node)
        (fun other edge before same => ih (inner.same same) (known node inside other edge)) rfl]

/-- So a search uses no more than one visit of each node. -/
theorem search_fuel (known : ∀ node ∈ nodes, ∀ other ∈ next node, other ∈ nodes)
    (enough : nodes.length < fuel) (extra : Nat) :
    nodes.foldlM (visit next cycle (fuel + extra)) ⟨[], []⟩ =
      nodes.foldlM (visit next cycle fuel) ⟨[], []⟩ := by
  induction extra with
  | zero => rfl
  | succ extra ih =>
      have more : nodes.length < fuel + extra := by omega
      have keeps (before : Marks α) (node : α) (after : Marks α) (none : before.entered = [])
          (returned : visit next cycle (fuel + extra) before node = .ok after) :
          after.entered = [] := (visit_entered returned).trans none
      rw [← ih]
      exact foldlM_congr keeps nodes
        (fun node inside before none => visit_fuel known (.outermost more none) inside) rfl

/-- A visit of a node that all nodes under visit lead to. The induction is on the fuel. -/
theorem visit_searched (known : ∀ node ∈ nodes, ∀ other ∈ next node, other ∈ nodes) {node : α}
    (searching : Searching next nodes marks) (room : Room nodes fuel marks) (inside : node ∈ nodes)
    (leads : ∀ outer ∈ marks.entered,
      TransGen (fun first second => second ∈ next first) outer node) :
    Searched next cycle nodes marks [node] (visit next cycle fuel marks node) := by
  induction fuel generalizing marks node with
  | zero => exact room.spent.elim
  | succ fuel ih =>
      rw [visit]
      split
      · rename_i finished
        refine .inr ⟨marks, rfl, rfl, fun _ held => held, searching, fun other single => ?_⟩
        exact List.mem_singleton.mp single ▸ finished
      split
      · rename_i underVisit
        exact .inl ⟨_, node, rfl, leads node underVisit⟩
      rename_i unfinished fresh
      have inner : Searched next cycle nodes { marks with entered := node :: marks.entered }
          (next node) ((next node).foldlM (visit next cycle fuel)
            { marks with entered := node :: marks.entered }) := by
        refine searched_foldlM (searching.enter unfinished) (fun before same inv other edge => ?_)
        refine ih inv ((room.enter inside fresh).same same) (known node inside other edge) ?_
        intro outer held
        rw [same] at held
        rcases List.mem_cons.mp held with rfl | held
        · exact .single edge
        · exact (leads outer held).tail edge
      rcases inner with ⟨path, last, raised, round⟩ | ⟨after, returned, same, grown, inv, done⟩
      · rw [raised]
        exact .inl ⟨path, last, rfl, round⟩
      · rw [returned]
        obtain ⟨entered, finished⟩ := after
        cases same
        have restored : (node :: marks.entered).erase node = marks.entered :=
          List.erase_cons_head node marks.entered
        refine .inr ⟨_, rfl, restored, ?_, ?_, ?_⟩
        · exact fun other held => List.mem_append_left _ (grown other held)
        · show Searching next nodes ⟨(node :: marks.entered).erase node, finished ++ [node]⟩
          rw [restored]
          exact inv.leave inside fresh done
        · intro other single
          exact List.mem_append_right _ single

/-- Where every node comes after its successors, no node is on a cycle. -/
theorem acyclic_of_ordered {order : List α} (distinct : order.Nodup)
    (listed : ∀ node, ∀ other ∈ next node, node ∈ order)
    (ordered : ∀ front node back, order = front ++ node :: back →
      ∀ other ∈ next node, other ∈ front) :
    Acyclic (fun first second => second ∈ next first) := by
  have earlier : ∀ first second, TransGen (fun first second => second ∈ next first) first second →
      order.idxOf second < order.idxOf first := by
    intro first second path
    have single : ∀ node other, other ∈ next node → order.idxOf other < order.idxOf node := by
      intro node other edge
      obtain ⟨front, back, rfl⟩ := List.append_of_mem (listed node other edge)
      exact idxOf_lt_of_front distinct (ordered front node back rfl other edge)
    induction path with
    | single edge => exact single _ _ edge
    | tail _ edge ih => exact (single _ _ edge).trans ih
  exact fun node round => Nat.lt_irrefl _ (earlier node node round)

/-- The search from every node ends at a cycle, or lists all of them, successors first, and
there is no cycle. -/
theorem search_spec (next : α → List α) (cycle : List α → α → ε) {nodes : List α}
    (distinct : nodes.Nodup)
    (known : ∀ node, ∀ other ∈ next node, node ∈ nodes ∧ other ∈ nodes)
    (enough : nodes.length < fuel) :
    (∃ path node, nodes.foldlM (visit next cycle fuel) ⟨[], []⟩ = .error (cycle path node) ∧
      TransGen (fun first second => second ∈ next first) node node) ∨
    ∃ order, nodes.foldlM (visit next cycle fuel) ⟨[], []⟩ = .ok ⟨[], order⟩ ∧
      order.Perm nodes ∧
      (∀ front node back, order = front ++ node :: back → ∀ other ∈ next node, other ∈ front) ∧
      Acyclic (fun first second => second ∈ next first) := by
  have start : Searching next nodes ⟨[], []⟩ :=
    ⟨List.nodup_nil, nofun, nofun, fun front node back split => by simp at split⟩
  have searched : Searched next cycle nodes ⟨[], []⟩ nodes
      (nodes.foldlM (visit next cycle fuel) ⟨[], []⟩) := by
    refine searched_foldlM start (fun before same inv node inside => ?_)
    refine visit_searched (fun node _ other edge => (known node other edge).2) inv
      (.outermost enough same) inside ?_
    intro outer held
    rw [same] at held
    cases held
  rcases searched with found | ⟨after, returned, same, _, inv, done⟩
  · exact .inl found
  · obtain ⟨entered, order⟩ := after
    cases same
    have all : ∀ node, node ∈ order ↔ node ∈ nodes := fun node => ⟨inv.listed node, done node⟩
    refine .inr ⟨order, returned, (List.perm_ext_iff_of_nodup inv.distinct distinct).mpr all,
      inv.ordered, ?_⟩
    exact acyclic_of_ordered inv.distinct
      (fun node other edge => (all node).mpr (known node other edge).1) inv.ordered

end Lib.DepthFirst
