import LexMind.Domain.Entities

set_option autoImplicit false

namespace LexMind.Entities

open Lib

variable {ω : Type} (py : Builtins ω)

theorem baseClass_eq :
    baseClass py =
      ⟨Keyed.empty.putAll (baseEntity py).fields, .written (fun self other => self.id = other.id),
        .written (fun self => py.hashText self.id)⟩ :=
  DataClass.decorate_written _ rfl rfl

/-- The base class, on its own, compares and hashes by the id. -/
theorem baseEntity_identity (Built : Entity ω → Prop) :
    IdentityLaw Built Entity.id ((baseClass py).equals (equalIn py))
      ((baseClass py).hashOf (hashFields py) (EntityClass.unhashable "BaseEntity")) := by
  rw [baseClass_eq]
  exact .of_key (fun _ _ => rfl) (fun _ => rfl)

namespace EntityClass

variable (cls : EntityClass)

/-- No body writes `__eq__` or `__hash__`. -/
theorem body_plain : (cls.body ω).eq = none ∧ (cls.body ω).hash = none := by
  cases cls <;> exact ⟨rfl, rfl⟩

theorem fields_eq : (cls.body ω).fields = (cls.body Empty).fields := by
  cases cls <;> rfl

theorem names_distinct_empty :
    (["id", "created_at", "updated_at"] ++ (cls.body Empty).fields.map Field.name).Nodup := by
  cases cls <;> decide

/-- No class has a field twice or one of `BaseEntity`. -/
theorem names_distinct :
    (((baseEntity py).fields ++ (cls.body ω).fields).map Field.name).Nodup := by
  rw [fields_eq, List.map_append]
  exact names_distinct_empty cls

theorem rows_fields :
    ((baseClass py).fields.putAll (cls.body ω).fields).rows =
      (baseEntity py).fields ++ (cls.body ω).fields := by
  have base : (baseClass py).fields.rows = (baseEntity py).fields := by
    rw [baseClass_eq]
    apply Keyed.rows_putAll
    show ["id", "created_at", "updated_at"].Nodup
    decide
  rw [Keyed.rows_putAll, base]
  rw [base]
  exact names_distinct py cls

theorem dataClass_eq :
    cls.dataClass py =
      ⟨(baseClass py).fields.putAll (cls.body ω).fields,
        .fieldwise ((baseEntity py).fields ++ (cls.body ω).fields), .refused⟩ := by
  rw [← rows_fields]
  exact DataClass.decorate_plain _ cls.body_plain.1 cls.body_plain.2

/-- Instances of one class are equal where they agree in everything. -/
theorem equals_iff (first second : Entity ω) :
    cls.equals py first second = true ↔
      first.id = second.id ∧ first.createdAt = second.createdAt ∧
        first.updatedAt = second.updatedAt ∧
        ∀ field ∈ (cls.body ω).fields, equalIn py field first second = true := by
  have base : (baseEntity py).fields.all (fun field => equalIn py field first second) =
      (decide (first.id = second.id) && (decide (first.createdAt = second.createdAt) &&
        (decide (first.updatedAt = second.updatedAt) && true))) := rfl
  have fieldwise : cls.equals py first second =
      ((baseEntity py).fields ++ (cls.body ω).fields).all
        (fun field => equalIn py field first second) := by
    rw [equals, dataClass_eq]
    rfl
  rw [fieldwise, List.all_append, base]
  simp only [Bool.and_eq_true, decide_eq_true_iff, List.all_eq_true, and_true, and_assoc]

theorem hash_refused (self : Entity ω) :
    cls.hash py self = .error (unhashable (cls.body ω).className) := by
  rw [hash, dataClass_eq]
  rfl

/-- Touched, an entity is no longer equal to what it was. -/
theorem equals_touch (self : Entity ω) {now : Timestamp} (later : now ≠ self.updatedAt) :
    cls.equals py self (self.touch now) = false := by
  rw [Bool.eq_false_iff]
  intro same
  obtain ⟨_, _, updated, _⟩ := (cls.equals_iff py self (self.touch now)).mp same
  exact later updated.symm

/-- What each constructor needs. -/
def sample (cls : EntityClass) : Arguments ω where
  own :=
    match cls with
    | annotation => [("document_id", .text "d"), ("content", .text "c")]
    | bookmark => [("document_id", .text "d")]
    | case => [("title", .text "t"), ("workspace_id", .text "w")]
    | courtDecision => [("court_name", .text "c"), ("decision_date", .text "2024-01-15")]
    | document => [("workspace_id", .text "w")]
    | documentVersion => [("document_id", .text "d"), ("version_number", .number 1)]
    | evidence => [("document_ids", .texts ["d"])]
    | finding => [("investigation_id", .text "i")]
    | folder => [("name", .text "n"), ("workspace_id", .text "w")]
    | investigation => [("case_id", .text "c")]
    | lawReference => [("title", .text "t")]
    | legalCitation => [("citation_text", .text "c")]
    | meeting => [("case_id", .text "c")]
    | organization => [("name", .text "n")]
    | person => []
    | relationship => [("source_entity_id", .text "s"), ("target_entity_id", .text "t")]
    | report => [("case_id", .text "c"), ("title", .text "t")]
    | searchQuery => [("query_text", .text "q")]
    | searchResult => [("query_id", .text "q"), ("document_id", .text "d")]
    | statement => [("source_person_id", .text "p")]
    | tag => [("name", .text "n")]
    | timelineEvent => [("date", .text "2024-01-15")]
    | witness => []
    | workspace => [("name", .text "n")]

theorem sample_constructed (cls : EntityClass) :
    ∃ self, cls.construct py cls.sample "id" 0 0 = .ok self := by
  cases cls <;> exact ⟨_, rfl⟩

/-- No class keeps the law of `BaseEntity`: none of its instances has a hash, and equality asks
for all fields, so that it goes by the id just where the fields with one id agree. -/
theorem entity_identity_never (cls : EntityClass) :
    ¬ IdentityLaw (cls.Instance py) Entity.id (cls.equals py) (cls.hash py) ∧
    (∀ self, cls.hash py self = .error (unhashable (cls.body ω).className)) ∧
    (∃ first second, cls.Instance py first ∧ cls.Instance py second ∧ first.id = second.id ∧
      cls.equals py first second = false) ∧
    (∀ first second,
      (cls.equals py first second = true ↔ first.id = second.id) ↔
        (first.id = second.id → first.createdAt = second.createdAt ∧
          first.updatedAt = second.updatedAt ∧
          ∀ field ∈ (cls.body ω).fields, equalIn py field first second = true)) := by
  obtain ⟨self, made⟩ := cls.sample_constructed py
  have built : cls.Instance py self := .built made
  refine ⟨IdentityLaw.not_of_unhashable built (cls.hash_refused py self), cls.hash_refused py,
    ?_, ?_⟩
  · refine ⟨self, self.touch (self.updatedAt + 1), built, .touched _ built, rfl, ?_⟩
    exact cls.equals_touch py self (Nat.succ_ne_self _)
  · intro first second
    rw [equals_iff]
    tauto

/-- Floats by their digits; the rest is not asked. -/
def byDigits : Builtins String where
  float digits := digits
  sameObject first second := first = second
  equalsNumber digits number := digits = toString number ++ ".0"
  truthy digits := digits ≠ "0.0"
  below _ _ := .ok false
  typeName _ := "float"
  hashText text := text.length
  hashTuple _ := .ok 0
  objectEq _ _ := false
  objectHash _ := 0

/-- Two documents with one id and different titles. -/
theorem same_id_documents :
    ∃ first second,
      document.construct byDigits { own := [("workspace_id", .text "w"), ("title", .text "A")] }
        "same" 0 0 = .ok first ∧
      document.construct byDigits { own := [("workspace_id", .text "w"), ("title", .text "B")] }
        "same" 0 0 = .ok second ∧
      first.id = second.id ∧ document.equals byDigits first second = false ∧
      document.hash byDigits first = .error (.typeError "unhashable type: 'Document'") :=
  ⟨_, _, rfl, rfl, rfl, rfl, rfl⟩

end EntityClass

end LexMind.Entities
