import LexMind.Lib.Keyed

set_option autoImplicit false

/- The identity methods of decorated classes: which `==` and which hash the instances of a
class have, from its body, the options of the decorator and the class it derives from. -/
namespace Lib

inductive Equality (φ α : Type)
  | written (method : α → α → Bool)
  /-- Generated: the instances agree in each field. -/
  | fieldwise (fields : List φ)

inductive Hashing (φ α η : Type)
  | written (method : α → η)
  /-- Generated: the hash of the tuple of fields. -/
  | fieldwise (fields : List φ)
  /-- The name is bound to `None`. -/
  | refused

/-- The annotated fields of a body and the identity methods it defines. -/
structure ClassBody (φ α η : Type) where
  fields : List φ
  eq : Option (α → α → Bool) := none
  hash : Option (α → η) := none

structure DecoratorOptions where
  eq : Bool := true
  frozen : Bool := false

/-- A class with its methods looked up along its ancestors. -/
structure DataClass {φ : Type} (name : φ → String) (α η : Type) where
  fields : Keyed name
  eq : Equality φ α
  hash : Hashing φ α η

namespace DataClass

variable {φ α η ε : Type} {name : φ → String}

/-- Before the decorator: a body with `==` and without a hash binds the hash to `None`. -/
def classHash (parent : DataClass name α η) (body : ClassBody φ α η) : Hashing φ α η :=
  match body.hash, body.eq with
  | some method, _ => .written method
  | none, some _ => .refused
  | none, none => parent.hash

/-- The decorated class. -/
def decorate (options : DecoratorOptions) (parent : DataClass name α η)
    (body : ClassBody φ α η) : DataClass name α η :=
  let all := parent.fields.putAll body.fields
  { fields := all
    eq :=
      match body.eq with
      | some method => .written method
      | none => if options.eq then .fieldwise all.rows else parent.eq
    hash :=
      if options.eq ∧ body.hash.isNone then
        if options.frozen then .fieldwise all.rows else .refused
      else classHash parent body }

/-- Without options, a body that defines neither method loses both of its parent's. -/
theorem decorate_plain (parent : DataClass name α η) {body : ClassBody φ α η}
    (noEq : body.eq = none) (noHash : body.hash = none) :
    decorate {} parent body =
      ⟨parent.fields.putAll body.fields, .fieldwise (parent.fields.putAll body.fields).rows,
        .refused⟩ := by
  simp [decorate, noEq, noHash]

/-- A body that defines both methods keeps them. -/
theorem decorate_written (parent : DataClass name α η) {body : ClassBody φ α η}
    {eq : α → α → Bool} {hash : α → η} (definesEq : body.eq = some eq)
    (definesHash : body.hash = some hash) :
    decorate {} parent body =
      ⟨parent.fields.putAll body.fields, .written eq, .written hash⟩ := by
  simp [decorate, definesEq, definesHash, classHash]

/-- `first == second`, of two instances of the class. -/
def equals (equalIn : φ → α → α → Bool) (cls : DataClass name α η) (first second : α) : Bool :=
  match cls.eq with
  | .written method => method first second
  | .fieldwise fields => fields.all (fun field => equalIn field first second)

/-- `hash(self)`, of an instance of the class. -/
def hashOf (tupleHash : List φ → α → Except ε η) (unhashable : ε) (cls : DataClass name α η)
    (self : α) : Except ε η :=
  match cls.hash with
  | .written method => .ok (method self)
  | .fieldwise fields => tupleHash fields self
  | .refused => .error unhashable

end DataClass

/-- Instances stand for their keys, also as elements of hashed collections. -/
structure IdentityLaw {α κ η ε : Type} (Instance : α → Prop) (key : α → κ)
    (equals : α → α → Bool) (hash : α → Except ε η) : Prop where
  equal_iff : ∀ first second, Instance first → Instance second →
    (equals first second = true ↔ key first = key second)
  hashable : ∀ self, Instance self → ∃ value, hash self = .ok value
  hash_eq : ∀ first second, Instance first → Instance second →
    equals first second = true → hash first = hash second

namespace IdentityLaw

variable {α κ η ε : Type} {Instance : α → Prop} {key : α → κ} {equals : α → α → Bool}
  {hash : α → Except ε η}

/-- Methods that read the key alone keep the law. -/
theorem of_key [DecidableEq κ] {keyHash : κ → η}
    (byKey : ∀ first second, equals first second = decide (key first = key second))
    (fromKey : ∀ self, hash self = .ok (keyHash (key self))) :
    IdentityLaw Instance key equals hash where
  equal_iff first second _ _ := by
    rw [byKey]
    exact decide_eq_true_iff
  hashable self _ := ⟨_, fromKey self⟩
  hash_eq first second _ _ same := by
    rw [byKey] at same
    rw [fromKey, fromKey, of_decide_eq_true same]

theorem not_of_unhashable {self : α} {refusal : ε} (built : Instance self)
    (unhashable : hash self = .error refusal) : ¬ IdentityLaw Instance key equals hash := by
  intro law
  obtain ⟨value, hashed⟩ := law.hashable self built
  rw [unhashable] at hashed
  cases hashed

end IdentityLaw

end Lib
