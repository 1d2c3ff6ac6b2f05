import LexMind.Workspace.WorkspaceService

set_option autoImplicit false

/- What a call that creates a workspace answers and leaves, in whatever table the services have
made. -/
namespace LexMind.WorkspaceServices

open Lib WorkspaceValidator SqliteWorkspaceRepositoryImpl

/-- The table has gained the row of a new workspace with a proper name that no other row has. -/
structure Stores (name : String) (before : WorkspaceTable) (workspace : Workspace)
    (after : WorkspaceTable) : Prop where
  fresh : before.rows.contains workspace.id = false
  gained : ∀ row, row ∈ after.rows.rows ↔ row = rowOf workspace ∨ row ∈ before.rows.rows
  asked : workspace.name = name
  wellFormed : namePattern workspace.name.toList = true ∧ workspace.name.length ≤ maxNameLength
  apart : ∀ row ∈ before.rows.rows, row.name ≠ workspace.name

/-- Refused by the validator with nothing changed, or stored. -/
def Outcome (name : String) (before : WorkspaceTable)
    (after : Except PyExc (Option Workspace) × WorkspaceTable) : Prop :=
  (∃ workspaceId details,
    after = (.error (.workspaceValidation workspaceId details), before)) ∨
  ∃ workspace, after.1 = .ok (some workspace) ∧ Stores name before workspace after.2

/-- What is asked of each creation. -/
def CreatesOrRefuses (table : WorkspaceTable) : ServiceCall → Prop
  | .create name description ownerId generated published =>
      Outcome name table
        (serviceStep table (.create name description ownerId generated published))
  | _ => True

/-- The creation is refused for its name, or for an active row of that name, or the name needs no
stripping, no row has it, the generated id is new and the event bus takes the event. -/
def Creatable (table : WorkspaceTable) : ServiceCall → Prop
  | .create name _ _ generated published =>
      (∃ reason, validateName name = .error reason) ∨
      (∃ row ∈ table.rows.rows, row.name = name ∧ row.isActive = true) ∨
      (namePattern name.toList = true ∧ (∀ row ∈ table.rows.rows, row.name ≠ name) ∧
        table.rows.contains generated.id = false ∧ published = .ok ())
  | _ => True

section Validator

variable {name : String}

/-- The validator raises nothing but its own error. -/
theorem validateName_raised {reason : PyExc} (raised : validateName name = .error reason) :
    ∃ message, reason = .workspaceValidation message [] := by
  unfold validateName at raised
  split at raised
  · cases raised
    exact ⟨_, rfl⟩
  · split at raised
    · cases raised
      exact ⟨_, rfl⟩
    · split at raised
      · cases raised
        exact ⟨_, rfl⟩
      · cases raised

/-- What it lets through is short and not blank, and well formed once stripped. -/
theorem validateName_ok_iff : validateName name = .ok () ↔
    pyStrip name ≠ "" ∧ name.length ≤ maxNameLength ∧
      namePattern (pyStrip name).toList = true := by
  have blank : name = "" → pyStrip name = "" := by
    rintro rfl
    rfl
  unfold validateName
  split
  · rename_i empty
    simp only [reduceCtorEq, false_iff, not_and]
    exact fun named => absurd (empty.elim blank id) named
  · rename_i named
    have proper : pyStrip name ≠ "" := fun empty => named (.inr empty)
    split
    · rename_i long
      simp only [reduceCtorEq, false_iff]
      rintro ⟨_, short, _⟩
      exact absurd long (Nat.not_lt.mpr short)
    · rename_i short
      split
      · rename_i unmatched
        simp only [reduceCtorEq, false_iff]
        rintro ⟨_, _, fits⟩
        exact unmatched fits
      · rename_i fits
        exact iff_of_true rfl ⟨proper, Nat.not_lt.mp short, by simpa using fits⟩

/-- The name is taken where an active row has it; the query sees no other row. -/
theorem call_validateUniqueness (named : pyStrip name ≠ "") (table : WorkspaceTable) :
    call (validateUniqueness name) table =
      if ∃ row ∈ table.rows.rows, row.name = name ∧ row.isActive = true then
        (.error (.workspaceValidation ("A workspace named '" ++ name ++ "' already exists") []),
          table)
      else (.ok (), table) := by
  cases first : table.rows.rows.find? (fun row => row.name = name ∧ row.isActive = true) with
  | none =>
      have unseen : ¬ ∃ row ∈ table.rows.rows, row.name = name ∧ row.isActive = true := by
        rintro ⟨row, inside, taken⟩
        have skipped := List.find?_eq_none.mp first row inside
        simp [taken] at skipped
      rw [if_neg unseen]
      simp only [validateUniqueness, getByName, call_bind, call_get, andThen_ok, first, found,
        call_pure, Option.isSome_none, Bool.false_eq_true, if_false]
  | some row =>
      have matched : row.name = name ∧ row.isActive = true := by
        simpa using List.find?_some first
      have seen : ∃ row ∈ table.rows.rows, row.name = name ∧ row.isActive = true :=
        ⟨row, List.mem_of_find?_eq_some first, matched⟩
      have proper : pyStrip row.name ≠ "" := matched.1 ▸ named
      rw [if_pos seen]
      simp only [validateUniqueness, getByName, call_bind, call_get, andThen_ok, first, found,
        toDomain, dif_neg proper, call_check, call_pure, Option.isSome_some, if_true, call_throw]

end Validator

section Creation

variable {table : WorkspaceTable} {name description ownerId : String} {generated : Generated}
  {published : Except PyExc Unit}

/-- The entity a creation makes. -/
def madeWorkspace (name description ownerId : String) (generated : Generated)
    (named : pyStrip name ≠ "") : Workspace where
  id := generated.id
  createdAt := generated.createdAt
  updatedAt := generated.updatedAt
  name := name
  description := description
  ownerId := ownerId
  isActive := true
  documentCount := 0
  caseCount := 0
  named := named

theorem call_createWorkspace (named : pyStrip name ≠ "") :
    call (WorkspaceInitializer.createWorkspace name description ownerId generated) table =
      call (create (madeWorkspace name description ownerId generated named)) table := by
  simp [WorkspaceInitializer.createWorkspace, toDomain, named, madeWorkspace]

theorem nameFree_iff (workspace : Workspace)
    (fresh : table.rows.contains workspace.id = false) :
    table.NameFree (rowOf workspace) ↔ ∀ row ∈ table.rows.rows, row.name ≠ workspace.name := by
  have absent : table.rows.find? workspace.id = none := by
    simpa [Keyed.contains] using fresh
  have apart := (Keyed.find?_eq_none_iff _ _).mp absent
  exact ⟨fun free row inside => free row inside (apart row inside),
    fun free row inside _ => free row inside⟩

/-- The insertion: both unique constraints are the database's to raise. -/
theorem call_create (workspace : Workspace) (table : WorkspaceTable) :
    call (create workspace) table =
      if table.rows.contains workspace.id then
        (.error (.integrityError "workspaces" "id"), table)
      else if free : table.NameFree (rowOf workspace) then
        (.ok workspace, table.put (rowOf workspace) free)
      else (.error (.integrityError "workspaces" "name"), table) := by
  by_cases present : table.rows.contains workspace.id = true
  · simp [create, present]
  · by_cases free : table.NameFree (rowOf workspace)
    · simp [create, flush, present, free]
    · simp [create, flush, present, free]

theorem put_stores (workspace : Workspace) (asked : workspace.name = name)
    (wellFormed : namePattern name.toList = true) (short : name.length ≤ maxNameLength)
    (fresh : table.rows.contains workspace.id = false)
    (free : table.NameFree (rowOf workspace)) :
    Stores name table workspace (table.put (rowOf workspace) free) := by
  have absent : table.rows.find? workspace.id = none := by
    simpa [Keyed.contains] using fresh
  refine ⟨fresh, fun row => ?_, asked, asked ▸ ⟨wellFormed, short⟩,
    (nameFree_iff workspace fresh).mp free⟩
  refine (Keyed.mem_put _ _ row).trans ⟨?_, ?_⟩
  · rintro (rfl | ⟨old, _⟩)
    · exact .inl rfl
    · exact .inr old
  · rintro (rfl | old)
    · exact .inl rfl
    · exact .inr ⟨old, (Keyed.find?_eq_none_iff _ _).mp absent row old⟩

/-- A name the validator does not let through is refused. -/
theorem create_misnamed {reason : PyExc} (raised : validateName name = .error reason) :
    call (WorkspaceService.create name description ownerId generated published) table =
      (.error reason, table) := by
  simp [WorkspaceService.create, validateAll, raised]

/-- So is the name of an active row. -/
theorem create_taken (passes : validateName name = .ok ())
    (taken : ∃ row ∈ table.rows.rows, row.name = name ∧ row.isActive = true) :
    call (WorkspaceService.create name description ownerId generated published) table =
      (.error (.workspaceValidation ("A workspace named '" ++ name ++ "' already exists") []),
        table) := by
  have named := (validateName_ok_iff.mp passes).1
  simp [WorkspaceService.create, validateAll, passes, call_validateUniqueness named, taken]

/-- Past the validator, the insertion and the event bus decide. -/
theorem create_passed (passes : validateName name = .ok ()) (named : pyStrip name ≠ "")
    (untaken : ¬ ∃ row ∈ table.rows.rows, row.name = name ∧ row.isActive = true) :
    call (WorkspaceService.create name description ownerId generated published) table =
      andThen (call (create (madeWorkspace name description ownerId generated named)) table)
        (fun workspace => check published >>= fun _ => pure workspace) := by
  simp only [WorkspaceService.create, validateAll, call_bind, call_check, passes, andThen_ok,
    call_validateUniqueness named, if_neg untaken, call_createWorkspace named]

theorem outcome_raised_iff {reason : PyExc} {final : WorkspaceTable} :
    Outcome name table (.error reason, final) ↔
      (∃ workspaceId details, reason = .workspaceValidation workspaceId details) ∧
        final = table := by
  constructor
  · rintro (⟨workspaceId, details, same⟩ | ⟨workspace, returned, _⟩)
    · cases same
      exact ⟨⟨_, _, rfl⟩, rfl⟩
    · cases returned
  · rintro ⟨⟨workspaceId, details, rfl⟩, rfl⟩
    exact .inl ⟨_, _, rfl⟩

theorem outcome_returned_iff {workspace : Workspace} {final : WorkspaceTable} :
    Outcome name table (.ok (some workspace), final) ↔ Stores name table workspace final := by
  constructor
  · rintro (⟨_, _, same⟩ | ⟨_, returned, stores⟩)
    · cases same
    · cases returned
      exact stores
  · exact fun stores => .inr ⟨workspace, rfl, stores⟩

theorem serviceStep_create :
    serviceStep table (.create name description ownerId generated published) =
      ((call (WorkspaceService.create name description ownerId generated published) table).1.map
        some, (call (WorkspaceService.create name description ownerId generated published)
          table).2) :=
  call_map _ _ _

/-- There, a creation does what it should exactly where the name itself is well formed, no row has
it or the id, and the event is taken. -/
theorem create_passed_iff (passes : validateName name = .ok ())
    (untaken : ¬ ∃ row ∈ table.rows.rows, row.name = name ∧ row.isActive = true) :
    CreatesOrRefuses table (.create name description ownerId generated published) ↔
      namePattern name.toList = true ∧ (∀ row ∈ table.rows.rows, row.name ≠ name) ∧
        table.rows.contains generated.id = false ∧ published = .ok () := by
  obtain ⟨named, short, _⟩ := validateName_ok_iff.mp passes
  have taken : (madeWorkspace name description ownerId generated named).id = generated.id := rfl
  rw [CreatesOrRefuses, serviceStep_create, create_passed passes named untaken, call_create, taken]
  by_cases present : table.rows.contains generated.id = true
  · simp [present, outcome_raised_iff]
  have fresh := eq_false_of_ne_true present
  have freeIff := nameFree_iff (madeWorkspace name description ownerId generated named) fresh
  rw [if_neg present]
  by_cases free : table.NameFree (rowOf (madeWorkspace name description ownerId generated named))
  · rw [dif_pos free]
    cases published with
    | error reason =>
        simp only [andThen_ok, call_bind, call_check, andThen_error, map_error, outcome_raised_iff,
          reduceCtorEq, and_false, iff_false, not_and]
        intro _ same
        -- the row is there already
        have absent : table.rows.find? generated.id = none := by
          simpa [Keyed.contains] using fresh
        have row := table.rows.find?_put_self
          (rowOf (madeWorkspace name description ownerId generated named))
        rw [← same] at absent
        cases absent.symm.trans row
    | ok done =>
        simp only [andThen_ok, call_bind, call_check, call_pure, map_ok, outcome_returned_iff]
        constructor
        · exact fun stores => ⟨stores.wellFormed.1, freeIff.mp free, fresh, trivial⟩
        · intro fits
          have asked : (madeWorkspace name description ownerId generated named).name = name := rfl
          exact put_stores _ asked fits.1 short fresh free
  · rw [dif_neg free]
    simp only [andThen_error, map_error, outcome_raised_iff, reduceCtorEq, exists_false, false_and,
      false_iff]
    intro fits
    exact free (freeIff.mpr fits.2.1)

/-- What the validator says decides the rest. -/
theorem createsOrRefuses_iff (table : WorkspaceTable) (serviceCall : ServiceCall) :
    CreatesOrRefuses table serviceCall ↔ Creatable table serviceCall := by
  cases serviceCall with
  | create name description ownerId generated published =>
      rw [Creatable]
      cases verdict : validateName name with
      | error reason =>
          refine iff_of_true ?_ (.inl ⟨reason, rfl⟩)
          obtain ⟨message, rfl⟩ := validateName_raised verdict
          rw [CreatesOrRefuses, serviceStep_create, create_misnamed verdict]
          exact outcome_raised_iff.mpr ⟨⟨_, _, rfl⟩, rfl⟩
      | ok done =>
          by_cases taken : ∃ row ∈ table.rows.rows, row.name = name ∧ row.isActive = true
          · refine iff_of_true ?_ (.inr (.inl taken))
            rw [CreatesOrRefuses, serviceStep_create, create_taken verdict taken]
            exact outcome_raised_iff.mpr ⟨⟨_, _, rfl⟩, rfl⟩
          · rw [create_passed_iff verdict taken]
            simp [taken]
  | _ => exact Iff.rfl

end Creation

/-- In any history, every creation stores the workspace or is refused by the validator exactly when
it is made under a name that is refused, or that is well formed and that no row has. -/
theorem creations_store_or_refuse_iff (table : WorkspaceTable) (calls : List ServiceCall) :
    Along serviceStep CreatesOrRefuses table calls ↔ Along serviceStep Creatable table calls :=
  along_congr createsOrRefuses_iff table calls

/-- A workspace that was closed keeps its name from the validator, not from the table; and a name
with a tab before it is stored as it is. -/
theorem closed_name_taken :
    ¬ Along serviceStep CreatesOrRefuses .empty
        [.create "case" "" "" ⟨"1", 0, 0⟩ (.ok ()), .close "1" 1 (.ok ()),
          .create "case" "" "" ⟨"2", 2, 2⟩ (.ok ())] ∧
      ¬ Along serviceStep CreatesOrRefuses .empty [.create "\tcase" "" "" ⟨"1", 0, 0⟩ (.ok ())] := by
  constructor
  · rintro ⟨_, _, third, _⟩
    rcases third with ⟨_, _, same⟩ | ⟨_, returned, _⟩
    · cases congrArg Prod.fst same
    · cases returned
  · rintro ⟨only, _⟩
    rcases only with ⟨_, _, same⟩ | ⟨workspace, _, stores⟩
    · cases congrArg Prod.fst same
    · have wellFormed := stores.wellFormed.1
      rw [stores.asked] at wellFormed
      revert wellFormed
      decide +kernel

end LexMind.WorkspaceServices
