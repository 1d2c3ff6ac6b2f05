import LexMind.Python
import LexMind.Lib.Run

set_option autoImplicit false

namespace LexMind.Domain

open Lib

/-- The identity, the time stamp and the counts of the root entity. -/
structure Workspace where
  id : String
  updatedAt : Timestamp
  documentCount : Int
  caseCount : Int

namespace Workspace

variable (workspace : Workspace)

def touch (now : Timestamp) : Workspace := { workspace with updatedAt := now }

def incrementDocumentCount (now : Timestamp) : Workspace :=
  { workspace with documentCount := workspace.documentCount + 1 }.touch now

def incrementCaseCount (now : Timestamp) : Workspace :=
  { workspace with caseCount := workspace.caseCount + 1 }.touch now

end Workspace

structure WorkspaceAggregate where
  workspace : Workspace
  documentIds : List String
  caseIds : List String

/-- What an aggregate holds ids of, and its root entity a count. -/
inductive Held
  | document
  | case
deriving DecidableEq

namespace Held

def noun : Held → String
  | document => "Document"
  | case => "Case"

def count : Held → Workspace → Int
  | document => Workspace.documentCount
  | case => Workspace.caseCount

def increment : Held → Workspace → Timestamp → Workspace
  | document => Workspace.incrementDocumentCount
  | case => Workspace.incrementCaseCount

def ids : Held → WorkspaceAggregate → List String
  | document => WorkspaceAggregate.documentIds
  | case => WorkspaceAggregate.caseIds

def keep : Held → List String → WorkspaceAggregate → WorkspaceAggregate
  | document, ids, aggregate => { aggregate with documentIds := ids }
  | case, ids, aggregate => { aggregate with caseIds := ids }

@[simp] theorem ids_keep (held other : Held) (ids : List String) (aggregate : WorkspaceAggregate) :
    other.ids (held.keep ids aggregate) = if held = other then ids else other.ids aggregate := by
  cases held <;> cases other <;> rfl

@[simp] theorem keep_workspace (held : Held) (ids : List String) (aggregate : WorkspaceAggregate) :
    (held.keep ids aggregate).workspace = aggregate.workspace := by
  cases held <;> rfl

@[simp] theorem ids_root (held : Held) (aggregate : WorkspaceAggregate) (workspace : Workspace) :
    held.ids { aggregate with workspace := workspace } = held.ids aggregate := by
  cases held <;> rfl

@[simp] theorem count_touch (held : Held) (workspace : Workspace) (now : Timestamp) :
    held.count (workspace.touch now) = held.count workspace := by
  cases held <;> rfl

@[simp] theorem count_increment (held other : Held) (workspace : Workspace) (now : Timestamp) :
    other.count (held.increment workspace now) =
      if held = other then other.count workspace + 1 else other.count workspace := by
  cases held <;> cases other <;> rfl

end Held

abbrev AggregatePy (α : Type) := Py WorkspaceAggregate α

namespace WorkspaceAggregate

/-- Changing the root entity alone. -/
def onRoot (change : Workspace → Workspace) : AggregatePy Unit :=
  modify (fun aggregate => { aggregate with workspace := change aggregate.workspace })

def add (held : Held) (id : String) (now : Timestamp) : AggregatePy Unit := do
  let aggregate ← get
  if id ∈ held.ids aggregate then
    throw (.invariantViolation
      (held.noun ++ " '" ++ id ++ "' already in workspace '" ++ aggregate.workspace.id ++ "'"))
  modify (held.keep (held.ids aggregate ++ [id]))
  onRoot (fun workspace => held.increment workspace now)

/-- The count stays as it is. -/
def remove (held : Held) (id : String) (now : Timestamp) : AggregatePy Unit := do
  let aggregate ← get
  modify (held.keep ((held.ids aggregate).filter (fun other => other ≠ id)))
  onRoot (fun workspace => workspace.touch now)

def addDocument : String → Timestamp → AggregatePy Unit := add .document

def removeDocument : String → Timestamp → AggregatePy Unit := remove .document

def addCase : String → Timestamp → AggregatePy Unit := add .case

def removeCase : String → Timestamp → AggregatePy Unit := remove .case

end WorkspaceAggregate

/-- The limits of a workspace, where 0 is none. -/
structure WorkspacePolicy where
  maxDocuments : Int
  maxCases : Int

namespace WorkspacePolicy

def belowLimit (limit count : Int) : Bool := if limit = 0 then true else count < limit

def canAddDocument (policy : WorkspacePolicy) (workspace : Workspace) : Bool :=
  belowLimit policy.maxDocuments workspace.documentCount

def canAddCase (policy : WorkspacePolicy) (workspace : Workspace) : Bool :=
  belowLimit policy.maxCases workspace.caseCount

end WorkspacePolicy

/-- The calls on an aggregate, with the reading of the clock each makes. -/
inductive AggregateCall
  | addDocument (documentId : String) (now : Timestamp)
  | removeDocument (documentId : String) (now : Timestamp)
  | addCase (caseId : String) (now : Timestamp)
  | removeCase (caseId : String) (now : Timestamp)

def AggregateCall.program : AggregateCall → AggregatePy Unit
  | .addDocument documentId now => WorkspaceAggregate.addDocument documentId now
  | .removeDocument documentId now => WorkspaceAggregate.removeDocument documentId now
  | .addCase caseId now => WorkspaceAggregate.addCase caseId now
  | .removeCase caseId now => WorkspaceAggregate.removeCase caseId now

def aggregateStep (aggregate : WorkspaceAggregate) (aggregateCall : AggregateCall) :
    Except PyExc Unit × WorkspaceAggregate :=
  call aggregateCall.program aggregate

/-- Each count of the root entity is the number of ids held. -/
def CountsAgree (aggregate : WorkspaceAggregate) : Prop :=
  ∀ held : Held, held.count aggregate.workspace = (held.ids aggregate).length

/-- Under any positive limit, what is to be added is admitted exactly while fewer are held. -/
def PolicyAnswers (aggregate : WorkspaceAggregate) : Prop :=
  ∀ policy : WorkspacePolicy,
    (0 < policy.maxDocuments →
      (policy.canAddDocument aggregate.workspace = true ↔
        (aggregate.documentIds.length : Int) < policy.maxDocuments)) ∧
    (0 < policy.maxCases →
      (policy.canAddCase aggregate.workspace = true ↔
        (aggregate.caseIds.length : Int) < policy.maxCases))

/-- The call does not take away an id that is held. -/
def TakesNothingHeld (aggregate : WorkspaceAggregate) : AggregateCall → Prop
  | .removeDocument documentId _ => documentId ∉ aggregate.documentIds
  | .removeCase caseId _ => caseId ∉ aggregate.caseIds
  | _ => True

theorem belowLimit_iff {limit : Int} (positive : 0 < limit) (count : Int) :
    WorkspacePolicy.belowLimit limit count = true ↔ count < limit := by
  have limited : limit ≠ 0 := by omega
  simp [WorkspacePolicy.belowLimit, limited]

theorem CountsAgree.policyAnswers {aggregate : WorkspaceAggregate} (agree : CountsAgree aggregate) :
    PolicyAnswers aggregate := by
  intro policy
  constructor
  · intro positive
    rw [WorkspacePolicy.canAddDocument, belowLimit_iff positive]
    exact iff_of_eq (congrArg (fun count : Int => count < policy.maxDocuments) (agree .document))
  · intro positive
    rw [WorkspacePolicy.canAddCase, belowLimit_iff positive]
    exact iff_of_eq (congrArg (fun count : Int => count < policy.maxCases) (agree .case))

section Calls

variable (held : Held) (id : String) (now : Timestamp) {aggregate : WorkspaceAggregate}

/-- Adding moves the ids and the count of one kind together, or raises and moves neither. -/
theorem add_agrees (agree : CountsAgree aggregate) :
    CountsAgree (call (WorkspaceAggregate.add held id now) aggregate).2 := by
  by_cases there : id ∈ held.ids aggregate
  · simpa [WorkspaceAggregate.add, there] using agree
  · intro other
    have before := agree other
    by_cases same : held = other
    · subst same
      simp [WorkspaceAggregate.add, WorkspaceAggregate.onRoot, there, before]
    · simp [WorkspaceAggregate.add, WorkspaceAggregate.onRoot, there, same, before]

/-- Removing moves no count, so it must not move the ids. -/
theorem remove_agrees_iff (agree : CountsAgree aggregate) :
    CountsAgree (call (WorkspaceAggregate.remove held id now) aggregate).2 ↔
      id ∉ held.ids aggregate := by
  have counted (other : Held) : other.count
      (call (WorkspaceAggregate.remove held id now) aggregate).2.workspace =
        (other.ids aggregate).length := by
    simp [WorkspaceAggregate.remove, WorkspaceAggregate.onRoot, agree other]
  have kept (other : Held) : other.ids (call (WorkspaceAggregate.remove held id now) aggregate).2 =
      if held = other then (held.ids aggregate).filter (fun old => old ≠ id)
      else other.ids aggregate := by
    simp [WorkspaceAggregate.remove, WorkspaceAggregate.onRoot]
  constructor
  · intro after there
    have lengths := after held
    rw [counted, kept, if_pos rfl, Int.natCast_inj] at lengths
    have all := List.length_filter_eq_length_iff.mp lengths.symm id there
    simp at all
  · intro absent other
    rw [counted, kept, Int.natCast_inj]
    split
    · rename_i same
      subst same
      rw [List.filter_eq_self.mpr]
      intro old inside
      exact decide_eq_true (fun same => absent (same ▸ inside))
    · rfl

theorem aggregateStep_agrees_iff (agree : CountsAgree aggregate) (aggregateCall : AggregateCall) :
    CountsAgree (aggregateStep aggregate aggregateCall).2 ↔
      TakesNothingHeld aggregate aggregateCall := by
  cases aggregateCall with
  | addDocument documentId now => exact iff_of_true (add_agrees .document documentId now agree) trivial
  | addCase caseId now => exact iff_of_true (add_agrees .case caseId now agree) trivial
  | removeDocument documentId now => exact remove_agrees_iff .document documentId now agree
  | removeCase caseId now => exact remove_agrees_iff .case caseId now agree

end Calls

/-- From an empty aggregate, the counts are the numbers of ids held, and every policy answers by
these numbers, exactly as long as no id that is held is removed. -/
theorem counts_agree_iff (workspace : Workspace) (uncounted : ∀ held : Held, held.count workspace = 0)
    (calls : List AggregateCall) :
    Throughout aggregateStep (fun aggregate => CountsAgree aggregate ∧ PolicyAnswers aggregate)
      ⟨workspace, [], []⟩ calls ↔ Along aggregateStep TakesNothingHeld ⟨workspace, [], []⟩ calls := by
  have start : CountsAgree ⟨workspace, [], []⟩ := by
    intro held
    rw [uncounted held]
    cases held <;> rfl
  refine throughout_iff_along (fun _ _ (_ : True) _ => trivial) ?_ trivial
    ⟨start, start.policyAnswers⟩ calls
  rintro aggregate aggregateCall - ⟨agree, _⟩
  rw [← aggregateStep_agrees_iff agree aggregateCall]
  exact ⟨And.left, fun after => ⟨after, after.policyAnswers⟩⟩

def newWorkspace : Workspace := ⟨"w", 0, 0, 0⟩

/-- Ids that are not held may be removed, and ids that are held added. -/
theorem counts_agree_on_misses :
    (∀ held : Held, held.count newWorkspace = 0) ∧
      Throughout aggregateStep (fun aggregate => CountsAgree aggregate ∧ PolicyAnswers aggregate)
        ⟨newWorkspace, [], []⟩
        [.addDocument "d" 1, .removeDocument "e" 2, .addDocument "d" 3, .addCase "d" 4,
          .removeCase "c" 5] := by
  have uncounted : ∀ held : Held, held.count newWorkspace = 0 := by
    intro held
    cases held <;> rfl
  refine ⟨uncounted, (counts_agree_iff newWorkspace uncounted _).mpr ?_⟩
  refine ⟨trivial, ?_, trivial, trivial, ?_, trivial⟩
  · show "e" ∉ ["d"]
    decide
  · show "c" ∉ ["d"]
    decide

/-- A document is added and removed: the root entity still counts it. -/
theorem removed_still_counted :
    ¬ Throughout aggregateStep (fun aggregate => CountsAgree aggregate ∧ PolicyAnswers aggregate)
      ⟨newWorkspace, [], []⟩ [.addDocument "d" 1, .removeDocument "d" 2] := by
  rintro ⟨_, _, agree, _⟩
  have counted : (1 : Int) = 0 := agree .document
  cases counted

end LexMind.Domain
