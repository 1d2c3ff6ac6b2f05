import LexMind.Plugins.PluginManager

set_option autoImplicit false

namespace LexMind.Plugins

open Lib Relation

namespace PluginRegistry

variable (plugins : PluginRegistry)

def keys : List String := plugins.rows.map Plugin.id

/-- The dependencies of a plugin; none where it is not registered. -/
def requiredBy (node : String) : List String := ((plugins.find? node).map Plugin.requires).getD []

/-- The first plugin names the second one as a dependency. -/
def Requires (first second : String) : Prop :=
  ∃ plugin ∈ plugins.rows, plugin.id = first ∧ second ∈ plugin.requires

/-- Some plugin names a dependency that is not registered. -/
def Missing : Prop := ∃ plugin ∈ plugins.rows, ∃ dep ∈ plugin.requires, plugins.contains dep = false

/-- What the search reports when it comes back to a node: the way there, from the outermost. -/
def cycleFound (entered : List String) (dep : String) : PyExc := cycleError entered.reverse dep

/-- The color that the marks of the search give a node. -/
def colorOf (marks : DepthFirst.Marks String) (node : String) : Color :=
  if node ∈ marks.finished then .black else if node ∈ marks.entered then .gray else .white

/-- The registered nodes, and only they, are colored as marked. -/
def Colored (color : Coloring) (marks : DepthFirst.Marks String) : Prop :=
  ∀ node, color.find? node =
    if node ∈ plugins.keys then some (node, colorOf marks node) else none

variable {plugins}

theorem plugins_eq (registry : PluginRegistry) : registry.plugins = registry :=
  Keyed.putAll_empty registry

theorem mem_keys (node : String) :
    node ∈ plugins.keys ↔ ∃ plugin, plugins.find? node = some plugin := by
  rw [keys, List.mem_map]
  constructor
  · rintro ⟨plugin, inside, rfl⟩
    exact ⟨plugin, plugins.find?_of_mem inside⟩
  · rintro ⟨plugin, found⟩
    exact ⟨plugin, Keyed.mem_of_find? found, Keyed.key_of_find? found⟩

theorem contains_iff (node : String) : plugins.contains node = true ↔ node ∈ plugins.keys := by
  rw [Keyed.contains_eq_true_iff, mem_keys]

theorem mem_requiredBy (first second : String) :
    second ∈ plugins.requiredBy first ↔ plugins.Requires first second := by
  rw [requiredBy]
  constructor
  · intro edge
    cases found : plugins.find? first with
    | none =>
        rw [found] at edge
        cases edge
    | some plugin =>
        rw [found] at edge
        exact ⟨plugin, Keyed.mem_of_find? found, Keyed.key_of_find? found, edge⟩
  · rintro ⟨plugin, inside, rfl, needed⟩
    rw [plugins.find?_of_mem inside]
    exact needed

theorem not_missing_iff :
    ¬ plugins.Missing ↔ ∀ first, ∀ second ∈ plugins.requiredBy first, second ∈ plugins.keys := by
  simp only [mem_requiredBy, ← contains_iff]
  constructor
  · rintro present first second ⟨plugin, inside, rfl, needed⟩
    by_contra absent
    exact present ⟨plugin, inside, second, needed, eq_false_of_ne_true absent⟩
  · rintro all ⟨plugin, inside, dep, needed, absent⟩
    rw [all plugin.id dep ⟨plugin, inside, rfl, needed⟩] at absent
    cases absent

theorem checkMissing_ok_iff : plugins.checkMissing = .ok () ↔ ¬ plugins.Missing := by
  have one (plugin : Plugin) (dep : String) :
      (if plugins.contains dep then .ok () else .error (.missingDependency
        ("Plugin '" ++ plugin.id ++ "' requires missing dependency '" ++ dep ++ "'.")) :
        Except PyExc Unit) = .ok () ↔ plugins.contains dep = true := by
    cases plugins.contains dep <;> simp
  rw [checkMissing, forM_ok_iff]
  simp only [forM_ok_iff, one, Missing, not_exists, not_and, Bool.not_eq_false]

theorem checkMissing_error {exc : PyExc} (raised : plugins.checkMissing = .error exc) :
    ∃ message, exc = .missingDependency message := by
  obtain ⟨plugin, _, inner⟩ := forM_raised raised
  obtain ⟨dep, _, missing⟩ := forM_raised inner
  split at missing
  · cases missing
  · cases missing
    exact ⟨_, rfl⟩

theorem colored_uncolored : plugins.Colored plugins.uncolored ⟨[], []⟩ := by
  intro node
  have row (found : node ∈ plugins.keys) :
      (node, Color.white) ∈ plugins.uncolored.rows := by
    obtain ⟨plugin, inside, rfl⟩ := List.mem_map.mp found
    exact List.mem_map_of_mem (f := fun plugin : Plugin => (plugin.id, Color.white)) inside
  split
  · rename_i registered
    exact plugins.uncolored.find?_of_mem (row registered)
  · rename_i absent
    rw [Keyed.find?_eq_none_iff]
    intro entry inside same
    obtain ⟨plugin, held, rfl⟩ := List.mem_map.mp inside
    exact absent (List.mem_map.mpr ⟨plugin, held, same⟩)

/-- Coloring one registered node, as the marks then say. -/
theorem Colored.put {color : Coloring} {marks after : DepthFirst.Marks String}
    (colored : plugins.Colored color marks) {node : String} (inside : node ∈ plugins.keys)
    {shade : Color} (own : colorOf after node = shade)
    (others : ∀ other, other ≠ node → colorOf after other = colorOf marks other) :
    plugins.Colored (color.put (node, shade)) after := by
  intro other
  rw [Keyed.find?_put]
  by_cases same : node = other
  · subst same
    rw [if_pos rfl, if_pos inside, own]
  · rw [if_neg same, colored other, others other (Ne.symm same)]

theorem Colored.enter {color : Coloring} {marks : DepthFirst.Marks String}
    (colored : plugins.Colored color marks) {node : String} (inside : node ∈ plugins.keys)
    (unfinished : node ∉ marks.finished) :
    plugins.Colored (color.put (node, .gray)) { marks with entered := node :: marks.entered } := by
  refine colored.put inside ?_ (fun other differs => ?_)
  · rw [colorOf, if_neg unfinished, if_pos List.mem_cons_self]
  · simp only [colorOf, List.mem_cons, differs, false_or]

theorem Colored.leave {color : Coloring} {node : String} {outer finished : List String}
    (colored : plugins.Colored color ⟨node :: outer, finished⟩) (inside : node ∈ plugins.keys) :
    plugins.Colored (color.put (node, .black)) ⟨outer, finished ++ [node]⟩ := by
  refine colored.put inside ?_ (fun other differs => ?_)
  · exact if_pos (List.mem_append_right _ List.mem_cons_self)
  · simp only [colorOf, List.mem_append, List.mem_cons, List.not_mem_nil, differs, or_false,
      false_or]

/-- The recursion is the depth-first search over the dependencies, with the marks as colors. -/
theorem visit_agree (known : ∀ first, ∀ second ∈ plugins.requiredBy first, second ∈ plugins.keys)
    {fuel : Nat} {color : Coloring} {marks : DepthFirst.Marks String} {node : String}
    (colored : plugins.Colored color marks) (room : DepthFirst.Room plugins.keys fuel marks)
    (inside : node ∈ plugins.keys) (unfinished : node ∉ marks.finished)
    (fresh : node ∉ marks.entered) :
    Agree (fun color after => plugins.Colored color after ∧ after.entered = marks.entered)
      (plugins.visit fuel color node (node :: marks.entered).reverse)
      (DepthFirst.visit plugins.requiredBy cycleFound fuel marks node) := by
  induction fuel generalizing color marks node with
  | zero => exact room.spent.elim
  | succ fuel ih =>
      obtain ⟨plugin, found⟩ := (mem_keys node).mp inside
      have listed : plugins.requiredBy node = plugin.requires := by
        rw [requiredBy, found]
        rfl
      have deeper := room.enter inside fresh
      have turn : ∀ dep ∈ plugin.requires, ∀ (state : Coloring) (image : DepthFirst.Marks String),
          plugins.Colored state image ∧ image.entered = node :: marks.entered →
          Agree (fun color after =>
              plugins.Colored color after ∧ after.entered = node :: marks.entered)
            (follow (plugins.visit fuel) (node :: marks.entered).reverse state dep)
            (DepthFirst.visit plugins.requiredBy cycleFound fuel image dep) := by
        rintro dep needed state image ⟨colored, same⟩
        have room := deeper.same same
        have registered := known node dep (listed ▸ needed)
        rw [follow, colored dep, if_pos registered, colorOf]
        cases fuel with
        | zero => exact room.spent.elim
        | succ fuel =>
            by_cases finished : dep ∈ image.finished
            · rw [DepthFirst.visit, if_pos finished, if_pos finished]
              exact ⟨colored, same⟩
            by_cases entered : dep ∈ image.entered
            · rw [DepthFirst.visit, if_neg finished, if_neg finished, if_pos entered,
                if_pos entered, same]
              rfl
            · rw [if_neg finished, if_neg entered]
              have nested := ih colored room registered finished entered
              rw [same, List.reverse_cons] at nested
              exact nested
      have inner := foldlM_agree turn ⟨colored.enter inside unfinished, rfl⟩
      rw [visit, DepthFirst.visit, if_neg unfinished, if_neg fresh, found, listed]
      refine inner.bind ?_
      rintro last ⟨entered, finished⟩ ⟨colored, rfl⟩
      have restored : (node :: marks.entered).erase node = marks.entered :=
        List.erase_cons_head node marks.entered
      show plugins.Colored _ ⟨(node :: marks.entered).erase node, _⟩ ∧
        (node :: marks.entered).erase node = _
      rw [restored]
      exact ⟨colored.leave inside, rfl⟩

/-- The search from all plugins, nested as deep as there are plugins. -/
theorem roots_agree (known : ∀ first, ∀ second ∈ plugins.requiredBy first, second ∈ plugins.keys)
    {fuel : Nat} (enough : plugins.keys.length < fuel) :
    Agree (fun color after => plugins.Colored color after ∧ after.entered = [])
      ((plugins.roots none).foldlM (enterRoot (plugins.visit fuel)) plugins.uncolored)
      (plugins.keys.foldlM (DepthFirst.visit plugins.requiredBy cycleFound fuel) ⟨[], []⟩) := by
  refine foldlM_agree (fun node inside color marks related => ?_) ⟨colored_uncolored, rfl⟩
  obtain ⟨colored, outermost⟩ := related
  have registered : node ∈ plugins.keys := inside
  have room : DepthFirst.Room plugins.keys fuel marks := .outermost enough outermost
  have fresh : node ∉ marks.entered := by
    rw [outermost]
    exact List.not_mem_nil
  rw [enterRoot, unseen, colored node, if_pos registered]
  by_cases finished : node ∈ marks.finished
  · have shade : colorOf marks node = .black := if_pos finished
    obtain ⟨deeper, rfl⟩ := Nat.exists_eq_add_of_lt enough
    rw [DepthFirst.visit, if_pos finished, Option.map_some, Option.getD_some, shade]
    exact ⟨colored, outermost⟩
  · have shade : colorOf marks node = .white := by
      rw [colorOf, if_neg finished, if_neg fresh]
    have visited := visit_agree known colored room registered finished fresh
    rw [outermost] at visited
    rw [Option.map_some, Option.getD_some, shade]
    exact visited

theorem detectCycleWithin_eq (present : ¬ plugins.Missing) {fuel : Nat}
    (enough : plugins.keys.length < fuel) :
    detectCycleWithin fuel plugins none =
      (plugins.keys.foldlM (DepthFirst.visit plugins.requiredBy cycleFound fuel) ⟨[], []⟩).map
        (fun _ => ()) := by
  rw [← (roots_agree (not_missing_iff.mp present) enough).discard, detectCycleWithin]
  cases (plugins.roots none).foldlM (enterRoot (plugins.visit fuel)) plugins.uncolored with
  | error exc => rfl
  | ok color => rfl

/-- Visits nested deeper than there are plugins are never reached. -/
theorem detectCycle_fuel (present : ¬ plugins.Missing) {fuel : Nat}
    (enough : plugins.rows.length < fuel) :
    detectCycleWithin fuel plugins none = plugins.detectCycle none := by
  have length : plugins.keys.length = plugins.rows.length := List.length_map _
  obtain ⟨extra, rfl⟩ := Nat.exists_eq_add_of_le (Nat.succ_le_of_lt enough)
  rw [detectCycle, detectCycleWithin_eq present (by omega),
    detectCycleWithin_eq present (by omega)]
  rw [DepthFirst.search_fuel (fun first _ => not_missing_iff.mp present first) (by omega) extra]

/-- The search raises at a cycle, and returns where there is none. -/
theorem detectCycle_cases (present : ¬ plugins.Missing) :
    (∃ message, plugins.detectCycle none = .error (.circularDependency message) ∧
      ∃ node, TransGen plugins.Requires node node) ∨
    plugins.detectCycle none = .ok () ∧ Acyclic plugins.Requires := by
  have edge : (fun first second => second ∈ plugins.requiredBy first) = plugins.Requires :=
    funext (fun first => funext (fun second => propext (mem_requiredBy first second)))
  have registered (first second : String) (needed : second ∈ plugins.requiredBy first) :
      first ∈ plugins.keys := by
    obtain ⟨plugin, inside, rfl, _⟩ := (mem_requiredBy first second).mp needed
    exact List.mem_map_of_mem inside
  have enough : plugins.keys.length < plugins.rows.length + 1 := by
    rw [keys, List.length_map]
    exact Nat.lt_succ_self _
  have searched := DepthFirst.search_spec plugins.requiredBy cycleFound plugins.distinct
    (fun first second needed =>
      ⟨registered first second needed, not_missing_iff.mp present first second needed⟩) enough
  rw [edge] at searched
  rw [detectCycle, detectCycleWithin_eq present enough]
  rcases searched with ⟨path, node, raised, round⟩ | ⟨order, returned, _, _, acyclic⟩
  · rw [keys, raised]
    exact .inl ⟨_, rfl, node, round⟩
  · rw [keys, returned]
    exact .inr ⟨rfl, acyclic⟩

end PluginRegistry

/-- A missing dependency is reported first; without one, the dependencies are refused exactly
where plugins require each other in a circle. Nothing else is raised. -/
theorem validate_dependencies_exact (registry : PluginRegistry) :
    (¬ registry.Missing → ∀ fuel, registry.rows.length < fuel →
      registry.plugins.detectCycleWithin fuel none = registry.plugins.detectCycle none) ∧
    ((∃ message, registry.validateDependencies = .error (.missingDependency message)) ↔
      registry.Missing) ∧
    ((∃ message, registry.validateDependencies = .error (.circularDependency message)) ↔
      ¬ registry.Missing ∧ ∃ node, TransGen registry.Requires node node) ∧
    (registry.validateDependencies = .ok () ↔
      ¬ registry.Missing ∧ Acyclic registry.Requires) := by
  rw [PluginRegistry.validateDependencies, PluginRegistry.plugins_eq]
  refine ⟨fun present fuel enough => PluginRegistry.detectCycle_fuel present enough, ?_⟩
  cases checked : registry.checkMissing with
  | error exc =>
      obtain ⟨message, rfl⟩ := PluginRegistry.checkMissing_error checked
      have missing : registry.Missing := by
        by_contra present
        rw [PluginRegistry.checkMissing_ok_iff.mpr present] at checked
        cases checked
      refine ⟨⟨fun _ => missing, fun _ => ⟨message, rfl⟩⟩, ⟨?_, ?_⟩, ⟨?_, ?_⟩⟩
      · rintro ⟨other, raised⟩
        cases raised
      · exact fun holds => absurd missing holds.1
      · intro returned
        cases returned
      · exact fun holds => absurd missing holds.1
  | ok _ =>
      have present := PluginRegistry.checkMissing_ok_iff.mp checked
      show ((∃ message, registry.detectCycle none = _) ↔ _) ∧
        ((∃ message, registry.detectCycle none = _) ↔ _) ∧ (registry.detectCycle none = _ ↔ _)
      rcases PluginRegistry.detectCycle_cases present with
        ⟨message, raised, round⟩ | ⟨returned, acyclic⟩
      · rw [raised]
        refine ⟨⟨?_, fun missing => absurd missing present⟩, ⟨fun _ => ⟨present, round⟩,
          fun _ => ⟨message, rfl⟩⟩, ⟨?_, ?_⟩⟩
        · rintro ⟨other, same⟩
          cases same
        · intro same
          cases same
        · rintro ⟨_, acyclic⟩
          obtain ⟨node, round⟩ := round
          exact absurd round (acyclic node)
      · rw [returned]
        refine ⟨⟨?_, fun missing => absurd missing present⟩, ⟨?_, ?_⟩, ⟨fun _ => ⟨present, acyclic⟩,
          fun _ => rfl⟩⟩
        · rintro ⟨other, same⟩
          cases same
        · rintro ⟨other, same⟩
          cases same
        · rintro ⟨_, node, round⟩
          exact absurd round (acyclic node)

end LexMind.Plugins
