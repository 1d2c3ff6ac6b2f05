import LexMind.Lib.Nested
import LexMind.Python

set_option autoImplicit false

namespace LexMind.Config

open Lib.Nested

/-- Values of a configuration that are neither maps nor lists; of other types only the name
and what `str` gives are kept. -/
inductive Scalar
  | null
  | bool (value : Bool)
  | int (value : Int)
  | str (content : String)
  | other (typeName content : String) (truthy : Bool)
deriving DecidableEq, Repr

/-- Keys of a parsed mapping: texts, and what else a YAML document may have there. -/
inductive Key
  | text (content : String)
  | other (typeName content : String) (truthy : Bool)
deriving DecidableEq, Repr

def Key.str : Key → String
  | .text content => content
  | .other _ content _ => content

def Key.truthy : Key → Bool
  | .text content => content ≠ ""
  | .other _ _ truthy => truthy

def Scalar.truthy : Scalar → Bool
  | .null => false
  | .bool value => value
  | .int value => value ≠ 0
  | .str content => content ≠ ""
  | .other _ _ truthy => truthy

/-- `bool(value)`. -/
def truthy {κ : Type} : Value κ Scalar → Bool
  | .scalar content => content.truthy
  | .list .nil => false
  | .list _ => true
  | .map .nil => false
  | .map _ => true

/-- `type(value).__name__`. -/
def typeName {κ : Type} : Value κ Scalar → String
  | .map _ => "dict"
  | .list _ => "list"
  | .scalar .null => "NoneType"
  | .scalar (.bool _) => "bool"
  | .scalar (.int _) => "int"
  | .scalar (.str _) => "str"
  | .scalar (.other name _ _) => name

inductive Environment
  | development
  | testing
  | staging
  | production
deriving DecidableEq, Repr

namespace Environment

def value : Environment → String
  | development => "development"
  | testing => "testing"
  | staging => "staging"
  | production => "production"

def all : List Environment := [development, testing, staging, production]

end Environment

inductive SourceType
  | default
  | environment
  | plugin
  | workspace
  | runtime
deriving DecidableEq, Repr

/-- Higher overrides lower. -/
def sourcePriority : SourceType → Nat
  | .default => 0
  | .environment => 1
  | .plugin => 2
  | .workspace => 3
  | .runtime => 4

structure ConfigSource (κ : Type) where
  name : String
  sourceType : SourceType
  data : Dict κ Scalar
  path : Option String

def ConfigSource.priority {κ : Type} (source : ConfigSource κ) : Nat :=
  sourcePriority source.sourceType

end LexMind.Config
