import LexMind.Lib.DepthFirst
import LexMind.Python

set_option autoImplicit false

/- Plugins and the validation of their dependencies. -/
namespace LexMind.Plugins

open Lib Relation

/-- A plugin; an object without the attribute `dependencies` has none. -/
structure Plugin where
  id : String
  dependencies : Option (List String)

def Plugin.requires (plugin : Plugin) : List String := plugin.dependencies.getD []

abbrev PluginRegistry := Keyed Plugin.id

inductive Color
  | white
  | gray
  | black
deriving DecidableEq

abbrev Coloring := Keyed (Prod.fst : String × Color → String)

namespace PluginRegistry

/-- `{p.id: p for p in registry.list()}`. -/
def plugins (registry : PluginRegistry) : PluginRegistry := Keyed.empty.putAll registry.rows

def checkMissing (plugins : PluginRegistry) : Except PyExc Unit :=
  plugins.rows.forM (fun plugin => plugin.requires.forM (fun dep =>
    if plugins.contains dep then .ok ()
    else .error (.missingDependency
      ("Plugin '" ++ plugin.id ++ "' requires missing dependency '" ++ dep ++ "'."))))

/-- `dict.fromkeys(plugins, WHITE)`. -/
def uncolored (plugins : PluginRegistry) : Coloring :=
  ⟨plugins.rows.map (fun plugin => (plugin.id, .white)), by
    rw [List.map_map]
    exact plugins.distinct⟩

def cycleError (stack : List String) (dep : String) : PyExc :=
  .circularDependency ("Circular plugin dependency: " ++ " -> ".intercalate (stack ++ [dep]))

/-- One dependency of the node on top of the stack. -/
def follow (visit : Coloring → String → List String → Except PyExc Coloring) (stack : List String)
    (color : Coloring) (dep : String) : Except PyExc Coloring :=
  match color.find? dep with
  | none => .ok color
  | some (_, .gray) => .error (cycleError stack dep)
  | some (_, .white) => visit color dep (stack ++ [dep])
  | some (_, .black) => .ok color

/-- The recursion of `visit`, nested at most `fuel` deep. -/
def visit (plugins : PluginRegistry) : Nat → Coloring → String → List String →
    Except PyExc Coloring
  | 0, color, _, _ => .ok color
  | fuel + 1, color, node, stack => do
      let entered := color.put (node, .gray)
      match plugins.find? node with
      | none => .error (.keyError node)
      | some plugin =>
          let inner ← plugin.requires.foldlM (follow (visit plugins fuel) stack) entered
          return inner.put (node, .black)

def roots (plugins : PluginRegistry) (start : Option String) : List String :=
  match start with
  | none => plugins.rows.map Plugin.id
  | some node => if node = "" then plugins.rows.map Plugin.id else [node]

/-- `color.get(node, WHITE) == WHITE`. -/
def unseen (color : Coloring) (node : String) : Bool :=
  ((color.find? node).map Prod.snd).getD .white = .white

def enterRoot (visit : Coloring → String → List String → Except PyExc Coloring) (color : Coloring)
    (node : String) : Except PyExc Coloring :=
  if unseen color node then visit color node [node] else .ok color

def detectCycleWithin (fuel : Nat) (plugins : PluginRegistry) (start : Option String) :
    Except PyExc Unit := do
  let _ ← (plugins.roots start).foldlM (enterRoot (plugins.visit fuel)) plugins.uncolored
  return ()

/-- Visits nest at most once for each plugin. -/
def detectCycle (plugins : PluginRegistry) (start : Option String) : Except PyExc Unit :=
  detectCycleWithin (plugins.rows.length + 1) plugins start

def validateDependencies (registry : PluginRegistry) : Except PyExc Unit := do
  let plugins := registry.plugins
  plugins.checkMissing
  plugins.detectCycle none

end PluginRegistry

end LexMind.Plugins
