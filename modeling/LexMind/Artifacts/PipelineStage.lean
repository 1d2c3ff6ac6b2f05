import LexMind.Artifacts.FullChain
import LexMind.Lib.Depth
import Mathlib.Data.Finset.Max

set_option autoImplicit false

namespace LexMind.Artifacts

open Lib Relation

namespace LineageTracker

/-- The loop over the ancestors of an artifact. -/
def deepest (tracker : LineageTracker) (order : SetOrder) (artifactId : String)
    (ancestors : List String) : ExceptT PyExc Option Nat :=
  ancestors.foldlM (fun maxDepth ancestor => do
    let chain ← (tracker.fullChain order ancestor : ExceptT PyExc Option (List String))
    return if artifactId ∈ chain then max maxDepth (chain.idxOf artifactId) else maxDepth) 0

def pipelineStage (tracker : LineageTracker) (order : SetOrder) (artifactId : String) :
    Option (Except PyExc Nat) := do
  let ancestors ← tracker.ancestors order artifactId
  if ancestors = [] then return .ok 0
  tracker.deepest order artifactId ancestors

variable {tracker : LineageTracker} {order : SetOrder} {listed : List String}

/-- A loop that takes the maximum of what its iterations compute. -/
theorem foldlM_max {ε : Type} {nodes : List String} {step : Nat → String → ExceptT ε Option Nat}
    {value : String → Nat}
    (steps : ∀ node ∈ nodes, ∀ depth, step depth node = some (.ok (max depth (value node))))
    (start : Nat) : nodes.foldlM step start = some (.ok (nodes.foldl (fun depth node =>
      max depth (value node)) start)) := by
  induction nodes generalizing start with
  | nil => rfl
  | cons node rest ih =>
      rw [List.foldlM_cons, steps node List.mem_cons_self, List.foldl_cons]
      exact ih (fun other later => steps other (List.mem_cons_of_mem _ later)) _

theorem le_foldl_max (value : String → Nat) (nodes : List String) (start : Nat) :
    start ≤ nodes.foldl (fun depth node => max depth (value node)) start ∧
      ∀ node ∈ nodes, value node ≤ nodes.foldl (fun depth node => max depth (value node)) start := by
  induction nodes generalizing start with
  | nil => exact ⟨le_rfl, nofun⟩
  | cons node rest ih =>
      obtain ⟨first, others⟩ := ih (max start (value node))
      refine ⟨(le_max_left _ _).trans first, fun other among => ?_⟩
      rcases List.mem_cons.mp among with rfl | later
      · exact (le_max_right _ _).trans first
      · exact others other later

theorem foldl_max_le (value : String → Nat) {nodes : List String} {start bound : Nat}
    (first : start ≤ bound) (others : ∀ node ∈ nodes, value node ≤ bound) :
    nodes.foldl (fun depth node => max depth (value node)) start ≤ bound := by
  induction nodes generalizing start with
  | nil => exact first
  | cons node rest ih =>
      exact ih (max_le first (others node List.mem_cons_self))
        (fun other later => others other (List.mem_cons_of_mem _ later))

theorem Ordered.linear {graph : DependencyGraph} (ordered : Ordered graph listed)
    (sound : graph.Sound) : Linear graph.Edge listed where
  distinct := ordered.distinct
  listed := fun first second edge => by
    obtain ⟨parent, child⟩ := sound.listed edge
    exact ⟨(ordered.complete first).mpr parent, (ordered.complete second).mpr child⟩
  before := fun first second edge => ordered.before first second (.single edge)

/-- Where the chain of an ancestor starts. -/
def chainStart (tracker : LineageTracker) (order : SetOrder) (ancestor : String) : String :=
  tracker.firstRoot ancestor ((tracker.ancestors order ancestor).getD [])

theorem pipelineStage_orphan (sound : tracker.graph.Sound) {artifactId : String}
    (orphan : ∀ parent, ¬ tracker.graph.Edge parent artifactId) :
    tracker.pipelineStage order artifactId = some (.ok 0) := by
  obtain ⟨above, up, _, exact⟩ := ancestors_spec order sound artifactId
  have none : above = [] := by
    refine List.eq_nil_iff_forall_not_mem.mpr (fun ancestor held => ?_)
    obtain ⟨parent, _, edge⟩ := TransGen.tail'_iff.mp ((exact ancestor).mp held)
    exact orphan parent edge
  rw [pipelineStage, up, none]
  rfl

/-- In the chain of an ancestor, the artifact stands as far on as in the topological order. -/
theorem fullChain_position (sound : tracker.graph.Sound)
    (sorted : tracker.graph.topologicalOrder order = .ok listed)
    (ordered : Ordered tracker.graph listed) {ancestor artifactId : String}
    (path : TransGen tracker.graph.Edge ancestor artifactId) :
    ∃ chain, tracker.fullChain order ancestor = some (.ok chain) ∧ artifactId ∈ chain ∧
      chain.idxOf artifactId =
        listed.idxOf artifactId - listed.idxOf (tracker.chainStart order ancestor) ∧
      listed.idxOf (tracker.chainStart order ancestor) ≤ listed.idxOf ancestor := by
  obtain ⟨above, up, _, exact⟩ := ancestors_spec order sound ancestor
  have held := (ordered.linear sound).path_listed path
  obtain ⟨more, chained, _, _, _⟩ := chainOf_begins sound sorted ordered held.1 exact
  have start := firstRoot_le sound ordered held.1 exact
  have before := ordered.before ancestor artifactId path
  have named : tracker.chainStart order ancestor = tracker.firstRoot ancestor above := by
    rw [chainStart, up, Option.getD_some]
  have cut : artifactId ∈ listed.drop (listed.idxOf (tracker.firstRoot ancestor above)) :=
    (mem_drop_iff ordered.distinct).mpr ⟨held.2, by omega⟩
  refine ⟨_, ?_, List.mem_append_left more cut, ?_, ?_⟩
  · rw [fullChain, up, Option.map_some, chained]
  · have position := idxOf_of_mem_drop ordered.distinct cut
    rw [List.idxOf_append_of_mem cut, named]
    omega
  · rw [named]
    exact start

/-- The start of an ancestor's chain leads to the artifact. -/
theorem chainStart_above (sound : tracker.graph.Sound) {ancestor artifactId : String}
    (path : TransGen tracker.graph.Edge ancestor artifactId) :
    TransGen tracker.graph.Edge (tracker.chainStart order ancestor) artifactId := by
  obtain ⟨above, up, _, exact⟩ := ancestors_spec order sound ancestor
  obtain ⟨_, _, kinds⟩ := chainRoots_cases sound exact
  rw [chainStart, up, Option.getD_some]
  rcases kinds with ⟨_, _, same⟩ | ⟨first, _⟩
  · rwa [same]
  · exact ((exact _).mp first).trans path

/-- The stage is the distance, in the topological order, from the first listed ancestor. -/
theorem pipelineStage_spec (sound : tracker.graph.Sound)
    (sorted : tracker.graph.topologicalOrder order = .ok listed)
    (ordered : Ordered tracker.graph listed) {artifactId parent : String}
    (parented : tracker.graph.Edge parent artifactId) :
    ∃ top, TransGen tracker.graph.Edge top artifactId ∧
      (∀ ancestor, TransGen tracker.graph.Edge ancestor artifactId →
        listed.idxOf top ≤ listed.idxOf ancestor) ∧
      tracker.pipelineStage order artifactId =
        some (.ok (listed.idxOf artifactId - listed.idxOf top)) := by
  obtain ⟨above, up, _, exact⟩ := ancestors_spec order sound artifactId
  have some : above ≠ [] := List.ne_nil_of_mem ((exact parent).mpr (.single parented))
  obtain ⟨top, among, earliest⟩ := above.toFinset.exists_min_image listed.idxOf
    (List.toFinset_nonempty_iff above |>.mpr some)
  simp only [List.mem_toFinset] at among earliest
  have path := (exact top).mp among
  refine ⟨top, path, fun ancestor leads => earliest ancestor ((exact ancestor).mpr leads), ?_⟩
  let value (ancestor : String) : Nat :=
    listed.idxOf artifactId - listed.idxOf (tracker.chainStart order ancestor)
  have looped : tracker.deepest order artifactId above =
      Option.some (.ok (above.foldl (fun depth node => max depth (value node)) 0)) := by
    refine foldlM_max (fun ancestor held depth => ?_) 0
    obtain ⟨chain, chained, inside, position, _⟩ :=
      fullChain_position sound sorted ordered ((exact ancestor).mp held)
    rw [chained]
    show Option.some (Except.ok (if artifactId ∈ chain then _ else _)) = _
    rw [if_pos inside, position]
  have deepest : above.foldl (fun depth node => max depth (value node)) 0 =
      listed.idxOf artifactId - listed.idxOf top := by
    apply le_antisymm
    · refine foldl_max_le value (Nat.zero_le _) (fun ancestor held => ?_)
      have start : TransGen tracker.graph.Edge (tracker.chainStart order ancestor) artifactId :=
        chainStart_above sound ((exact ancestor).mp held)
      have late := earliest _ ((exact _).mpr start)
      exact Nat.sub_le_sub_left late _
    · refine le_trans (Nat.sub_le_sub_left ?_ _) ((le_foldl_max value above 0).2 top among)
      obtain ⟨_, _, _, _, begins⟩ := fullChain_position sound sorted ordered path
      exact begins
  rw [pipelineStage, up]
  show (if above = [] then _ else tracker.deepest order artifactId above) = _
  rw [if_neg some, looped, deepest]

end LineageTracker

/-- In every state that a graph reaches, the stage of an artifact is its distance from the nearest
root exactly where the topological order is a line from each ancestor up to the artifact: each
listed artifact is a parent of the next one, and of no later one. -/
theorem pipeline_stage_exact (graphCalls : List GraphCall) (order : SetOrder) (artifactId : String) :
    let tracker : LineageTracker := ⟨(run graphStep DependencyGraph.empty graphCalls).2⟩
    ∃ listed stage, tracker.graph.topologicalOrder order = .ok listed ∧
      tracker.pipelineStage order artifactId = some (.ok stage) ∧
      (Depth tracker.graph.Edge artifactId stage ↔
        ∀ ancestor, TransGen tracker.graph.Edge ancestor artifactId →
          Line tracker.graph.Edge listed (listed.idxOf ancestor) (listed.idxOf artifactId)) := by
  intro tracker
  have sound : tracker.graph.Sound := graph_sound graphCalls
  obtain ⟨listed, sorted, ordered⟩ := LineageTracker.exists_ordered sound order
  refine ⟨listed, ?_⟩
  by_cases parented : ∃ parent, tracker.graph.Edge parent artifactId
  · obtain ⟨parent, edge⟩ := parented
    obtain ⟨top, path, earliest, staged⟩ :=
      LineageTracker.pipelineStage_spec sound sorted ordered edge
    refine ⟨_, sorted, staged, ?_⟩
    rw [(ordered.linear sound).depth_iff path earliest]
    exact ⟨fun line ancestor leads => line.mono (earliest ancestor leads),
      fun lines => lines top path⟩
  · have orphan : ∀ parent, ¬ tracker.graph.Edge parent artifactId :=
      fun parent edge => parented ⟨parent, edge⟩
    refine ⟨0, sorted, LineageTracker.pipelineStage_orphan sound orphan,
      fun _ ancestor leads => ?_, fun _ => depth_root orphan⟩
    obtain ⟨parent, _, edge⟩ := TransGen.tail'_iff.mp leads
    exact absurd edge (orphan parent)

/-- The other parent of a page's index counts as a stage before it. -/
theorem pipeline_stage_two_roots :
    let tracker : LineageTracker := ⟨(run graphStep DependencyGraph.empty
      [.add .asStored ⟨"text", "index", "produced_by", ""⟩,
        .add .asStored ⟨"image", "index", "produced_by", ""⟩]).2⟩
    tracker.pipelineStage .asStored "index" = some (.ok 2) ∧
      ¬ Depth tracker.graph.Edge "index" 2 := by
  intro tracker
  have sound : tracker.graph.Sound := graph_sound _
  have orphan : ∀ parent, ¬ tracker.graph.Edge parent "text" := by
    intro parent edge
    have none : (tracker.graph.parents "text").rows = [] := by decide +kernel
    have held := (sound.transposed parent "text").mp edge
    rw [none] at held
    cases held
  have edge : tracker.graph.Edge "text" "index" := by
    unfold DependencyGraph.Edge
    decide +kernel
  refine ⟨by decide +kernel, fun depth => ?_⟩
  have nearer := depth.2 ⟨"text", orphan, .tail (.refl "text") edge⟩
  omega

end LexMind.Artifacts
