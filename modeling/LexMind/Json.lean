import LexMind.Lib.Nested
import LexMind.Python

set_option autoImplicit false

/- JSON columns, kept as the values their texts denote. -/
namespace LexMind

open Lib Lib.Nested

/-- The values of a document that are neither lists nor objects; a float is kept by its text. -/
inductive JsonScalar
  | null
  | bool (value : Bool)
  | int (value : Int)
  | number (literal : String)
  | str (content : String)
deriving DecidableEq, Repr

abbrev Json := Value String JsonScalar

namespace Json

def ofText (content : String) : Json := .scalar (.str content)

def ofInt (value : Int) : Json := .scalar (.int value)

def ofList (values : List Json) : Json := .list (Items.ofList values)

def ofObject (entries : List (String × Json)) : Json := .map (Entries.ofList entries)

/-- A value of another type than the entities have is refused here. -/
def mismatch {α : Type} (expected : String) : Except PyExc α :=
  .error (.typeError ("expected a JSON " ++ expected))

def asText : Json → Except PyExc String
  | .scalar (.str content) => .ok content
  | _ => mismatch "string"

def asInt : Json → Except PyExc Int
  | .scalar (.int value) => .ok value
  | _ => mismatch "integer"

def asList : Json → Except PyExc (List Json)
  | .list items => .ok items.toList
  | _ => mismatch "array"

def asObject : Json → Except PyExc (Entries String JsonScalar)
  | .map entries => .ok entries
  | _ => mismatch "object"

/-- `item[key]`. -/
def field (item : Entries String JsonScalar) (key : String) : Except PyExc Json :=
  match item.find? key with
  | some value => .ok value
  | none => .error (.keyError key)

/-- `item.get(key, "")`. -/
def textOr (item : Entries String JsonScalar) (key : String) : Except PyExc String :=
  match item.find? key with
  | some value => asText value
  | none => .ok ""

@[simp] theorem asList_ofList (values : List Json) : asList (ofList values) = .ok values := by
  rw [ofList, asList, Items.toList_ofList]

end Json

/-- Texts as an array, and back. -/
theorem mapM_asText (texts : List String) :
    (texts.map Json.ofText).mapM Json.asText = .ok texts := by
  induction texts with
  | nil => rfl
  | cons content rest ih =>
      rw [List.map_cons, List.mapM_cons, ih]
      rfl

end LexMind
