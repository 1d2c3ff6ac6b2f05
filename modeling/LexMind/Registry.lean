import LexMind.Python
import Mathlib.Data.List.Sort

set_option autoImplicit false

/- Registries of components by their names. -/
namespace LexMind

open Lib

variable {ν : Type} {name : ν → String}

/-- `sorted(registry)`. -/
def registeredNames (registry : Keyed name) : List String :=
  (registry.rows.map name).insertionSort (fun first second => first ≤ second)

/-- The component under a name, or the registry's own error. -/
def registered (registry : Keyed name) (missing : String → PyExc) (requested : String) :
    Except PyExc ν :=
  match registry.find? requested with
  | some component => .ok component
  | none => .error (missing requested)

/-- `requested or default or names[0]`: an empty name counts as none. -/
def chosenName (requested default : Option String) (names : List String) : Except PyExc String :=
  match requested.filter (fun given => given ≠ "") <|> default.filter (fun given => given ≠ "") with
  | some given => .ok given
  | none =>
      match names with
      | first :: _ => .ok first
      | [] => .error (.indexError "list index out of range")

def resolved (registry : Keyed name) (missing : String → PyExc) (requested default : Option String) :
    Except PyExc ν :=
  (chosenName requested default (registeredNames registry)).bind (registered registry missing)

end LexMind
