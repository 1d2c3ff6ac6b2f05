import LexMind.Lib.Call
import LexMind.Lib.Transcript
import LexMind.Python

set_option autoImplicit false

/- A legal case with what is linked to it, and how far its calls determine both. -/
namespace LexMind.Domain

open Lib

inductive CaseStatus
  | «open»
  | active
  | pendingReview
  | settled
  | closed
  | archived
  | reopened
deriving DecidableEq, Repr

namespace CaseStatus

def value : CaseStatus → String
  | «open» => "open"
  | active => "active"
  | pendingReview => "pending_review"
  | settled => "settled"
  | closed => "closed"
  | archived => "archived"
  | reopened => "reopened"

def all : List CaseStatus := [«open», active, pendingReview, settled, closed, archived, reopened]

def of (value : String) : Except PyExc CaseStatus :=
  enumOf "CaseStatus" all CaseStatus.value value

theorem of_value (member : CaseStatus) : of member.value = .ok member := by
  cases member <;> rfl

end CaseStatus

/-- The root entity: titled, and of a workspace. -/
structure Case where
  id : String
  createdAt : Timestamp
  updatedAt : Timestamp
  workspaceId : String
  title : String
  description : String
  status : CaseStatus
  documentIds : List String
  evidenceIds : List String
  personIds : List String
  titled : pyStrip title ≠ ""
  belongs : workspaceId ≠ ""

namespace Case

/-- What `__post_init__` accepts. -/
def of (id : String) (createdAt updatedAt : Timestamp) (workspaceId title description : String)
    (status : CaseStatus) (documentIds evidenceIds personIds : List String) :
    Except PyExc Case :=
  if titled : pyStrip title = "" then
    .error (.invariantViolation "Case title must not be empty")
  else if belongs : workspaceId = "" then
    .error (.invariantViolation "Case must belong to a workspace")
  else
    .ok ⟨id, createdAt, updatedAt, workspaceId, title, description, status, documentIds,
      evidenceIds, personIds, titled, belongs⟩

theorem of_accepted {id workspaceId title description : String} {createdAt updatedAt : Timestamp}
    {status : CaseStatus} {documentIds evidenceIds personIds : List String}
    (titled : pyStrip title ≠ "") (belongs : workspaceId ≠ "") :
    of id createdAt updatedAt workspaceId title description status documentIds evidenceIds
        personIds =
      .ok ⟨id, createdAt, updatedAt, workspaceId, title, description, status, documentIds,
        evidenceIds, personIds, titled, belongs⟩ := by
  rw [of, dif_neg titled, dif_neg belongs]

variable (entity : Case)

def touch (now : Timestamp) : Case := { entity with updatedAt := now }

def addDocument (documentId : String) (now : Timestamp) : Case :=
  if documentId ∈ entity.documentIds then entity
  else { entity with documentIds := entity.documentIds ++ [documentId] }.touch now

def removeDocument (documentId : String) (now : Timestamp) : Case :=
  touch { entity with
    documentIds := entity.documentIds.filter (fun other => other ≠ documentId) } now

def addEvidence (evidenceId : String) (now : Timestamp) : Case :=
  if evidenceId ∈ entity.evidenceIds then entity
  else { entity with evidenceIds := entity.evidenceIds ++ [evidenceId] }.touch now

def addPerson (personId : String) (now : Timestamp) : Case :=
  if personId ∈ entity.personIds then entity
  else { entity with personIds := entity.personIds ++ [personId] }.touch now

def close (now : Timestamp) : Case := { entity with status := .closed }.touch now

def reopen (now : Timestamp) : Case :=
  if entity.status = .closed then { entity with status := .reopened }.touch now else entity

def isActive : Bool :=
  entity.status = .open ∨ entity.status = .active ∨ entity.status = .reopened

end Case

structure CaseAggregate where
  case : Case
  statementIds : List String
  timelineEventIds : List String

abbrev CasePy (α : Type) := Py CaseAggregate α

namespace CaseAggregate

/-- Changing the root entity alone. -/
def onCase (change : Case → Case) : CasePy Unit :=
  modify (fun aggregate => { aggregate with case := change aggregate.case })

def addDocument (documentId : String) (now : Timestamp) : CasePy Unit :=
  onCase (fun entity => entity.addDocument documentId now)

def removeDocument (documentId : String) (now : Timestamp) : CasePy Unit :=
  onCase (fun entity => entity.removeDocument documentId now)

def addEvidence (evidenceId : String) (now : Timestamp) : CasePy Unit :=
  onCase (fun entity => entity.addEvidence evidenceId now)

def addPerson (personId : String) (now : Timestamp) : CasePy Unit :=
  onCase (fun entity => entity.addPerson personId now)

def addStatement (statementId : String) (now : Timestamp) : CasePy Unit := do
  let aggregate ← get
  if statementId ∉ aggregate.statementIds then
    modify (fun aggregate =>
      { aggregate with statementIds := aggregate.statementIds ++ [statementId] })
    onCase (fun entity => entity.touch now)

def addTimelineEvent (eventId : String) (now : Timestamp) : CasePy Unit := do
  let aggregate ← get
  if eventId ∉ aggregate.timelineEventIds then
    modify (fun aggregate =>
      { aggregate with timelineEventIds := aggregate.timelineEventIds ++ [eventId] })
    onCase (fun entity => entity.touch now)

def close (now : Timestamp) : CasePy Unit := do
  if (← get).case.documentIds = [] then
    throw (.invariantViolation "Cannot close a case with no documents")
  onCase (fun entity => entity.close now)

def reopen (now : Timestamp) : CasePy Unit := onCase (fun entity => entity.reopen now)

end CaseAggregate

/-- What a case has ids of. -/
inductive Linked
  | document
  | evidence
  | person
  | statement
  | timelineEvent
deriving DecidableEq

def Linked.ids : Linked → CaseAggregate → List String
  | document, aggregate => aggregate.case.documentIds
  | evidence, aggregate => aggregate.case.evidenceIds
  | person, aggregate => aggregate.case.personIds
  | statement, aggregate => aggregate.statementIds
  | timelineEvent, aggregate => aggregate.timelineEventIds

def Linked.add : Linked → String → Timestamp → CasePy Unit
  | document => CaseAggregate.addDocument
  | evidence => CaseAggregate.addEvidence
  | person => CaseAggregate.addPerson
  | statement => CaseAggregate.addStatement
  | timelineEvent => CaseAggregate.addTimelineEvent

/-- The calls on a case, with the reading of the clock each makes. -/
inductive CaseCall
  | add (linked : Linked) (id : String) (now : Timestamp)
  | removeDocument (documentId : String) (now : Timestamp)
  | close (now : Timestamp)
  | reopen (now : Timestamp)

def CaseCall.program : CaseCall → CasePy Unit
  | add linked id now => linked.add id now
  | removeDocument documentId now => CaseAggregate.removeDocument documentId now
  | close now => CaseAggregate.close now
  | reopen now => CaseAggregate.reopen now

def caseStep (aggregate : CaseAggregate) (caseCall : CaseCall) :
    Except PyExc Unit × CaseAggregate := call caseCall.program aggregate

/-- The aggregate with other ids of the kind. -/
def Linked.keep : Linked → List String → CaseAggregate → CaseAggregate
  | document, ids, aggregate =>
      { aggregate with case := { aggregate.case with documentIds := ids } }
  | evidence, ids, aggregate =>
      { aggregate with case := { aggregate.case with evidenceIds := ids } }
  | person, ids, aggregate =>
      { aggregate with case := { aggregate.case with personIds := ids } }
  | statement, ids, aggregate => { aggregate with statementIds := ids }
  | timelineEvent, ids, aggregate => { aggregate with timelineEventIds := ids }

/-- The aggregate with the entity in another status. -/
def CaseAggregate.inStatus (status : CaseStatus) (aggregate : CaseAggregate) : CaseAggregate :=
  { aggregate with case := { aggregate.case with status := status } }

def CaseAggregate.touched (now : Timestamp) (aggregate : CaseAggregate) : CaseAggregate :=
  { aggregate with case := aggregate.case.touch now }

/-- What no call on a case changes: all of the entity but its ids, its status and the time of its
last change. -/
def CaseAggregate.particulars (aggregate : CaseAggregate) :
    String × Timestamp × String × String × String :=
  (aggregate.case.id, aggregate.case.createdAt, aggregate.case.workspaceId, aggregate.case.title,
    aggregate.case.description)

section Parts

variable (kind linked : Linked) (id : String) (ids : List String) (now : Timestamp)
  (status : CaseStatus) (aggregate : CaseAggregate)

@[simp] theorem ids_keep : linked.ids (kind.keep ids aggregate) =
    if kind = linked then ids else linked.ids aggregate := by
  cases kind <;> cases linked <;> rfl

@[simp] theorem ids_inStatus : linked.ids (aggregate.inStatus status) = linked.ids aggregate := by
  cases linked <;> rfl

@[simp] theorem ids_touched : linked.ids (aggregate.touched now) = linked.ids aggregate := by
  cases linked <;> rfl

@[simp] theorem status_keep :
    (kind.keep ids aggregate).case.status = aggregate.case.status := by
  cases kind <;> rfl

@[simp] theorem status_inStatus : (aggregate.inStatus status).case.status = status := rfl

@[simp] theorem status_touched : (aggregate.touched now).case.status = aggregate.case.status := rfl

@[simp] theorem particulars_keep :
    (kind.keep ids aggregate).particulars = aggregate.particulars := by
  cases kind <;> rfl

@[simp] theorem particulars_inStatus :
    (aggregate.inStatus status).particulars = aggregate.particulars := rfl

@[simp] theorem particulars_touched :
    (aggregate.touched now).particulars = aggregate.particulars := rfl

end Parts

section Steps

variable (aggregate : CaseAggregate) (now : Timestamp)

/-- A new id comes last, and the entity is touched; an id that is linked changes nothing. -/
theorem caseStep_add (kind : Linked) (id : String) :
    caseStep aggregate (.add kind id now) =
      (.ok (), if id ∈ kind.ids aggregate then aggregate
        else (kind.keep (kind.ids aggregate ++ [id]) aggregate).touched now) := by
  by_cases present : id ∈ kind.ids aggregate
  · cases kind <;>
      simp_all [caseStep, CaseCall.program, Linked.add, Linked.ids, CaseAggregate.addDocument,
        CaseAggregate.addEvidence, CaseAggregate.addPerson, CaseAggregate.addStatement,
        CaseAggregate.addTimelineEvent, CaseAggregate.onCase, Case.addDocument, Case.addEvidence,
        Case.addPerson]
  · cases kind <;>
      simp_all [caseStep, CaseCall.program, Linked.add, Linked.ids, Linked.keep,
        CaseAggregate.touched, CaseAggregate.addDocument, CaseAggregate.addEvidence,
        CaseAggregate.addPerson, CaseAggregate.addStatement, CaseAggregate.addTimelineEvent,
        CaseAggregate.onCase, Case.addDocument, Case.addEvidence, Case.addPerson, Case.touch]

theorem caseStep_removeDocument (documentId : String) :
    caseStep aggregate (.removeDocument documentId now) =
      (.ok (), (Linked.document.keep
        ((Linked.document.ids aggregate).filter (fun other => other ≠ documentId))
        aggregate).touched now) := rfl

theorem caseStep_close :
    caseStep aggregate (.close now) =
      if Linked.document.ids aggregate = [] then
        (.error (.invariantViolation "Cannot close a case with no documents"), aggregate)
      else (.ok (), (aggregate.inStatus .closed).touched now) := by
  show caseStep aggregate (.close now) = if aggregate.case.documentIds = [] then _ else _
  by_cases empty : aggregate.case.documentIds = []
  · simp [caseStep, CaseCall.program, CaseAggregate.close, empty]
  · simp [caseStep, CaseCall.program, CaseAggregate.close, CaseAggregate.onCase, Case.close, empty,
      CaseAggregate.inStatus, CaseAggregate.touched]

theorem caseStep_reopen :
    caseStep aggregate (.reopen now) =
      (.ok (), if aggregate.case.status = .closed then (aggregate.inStatus .reopened).touched now
        else aggregate) := by
  by_cases closed : aggregate.case.status = .closed
  · simp [caseStep, CaseCall.program, CaseAggregate.reopen, CaseAggregate.onCase, Case.reopen,
      closed, CaseAggregate.inStatus, CaseAggregate.touched]
  · simp [caseStep, CaseCall.program, CaseAggregate.reopen, CaseAggregate.onCase, Case.reopen,
      closed]

end Steps

/-- A call with its answer. -/
abbrev CaseEntry := CaseCall × Except PyExc Unit

def Links (kind : Linked) (id : String) (entry : CaseEntry) : Prop :=
  ∃ now, entry.1 = .add kind id now

/-- Only documents can be removed. -/
def Unlinks (kind : Linked) (id : String) (entry : CaseEntry) : Prop :=
  kind = .document ∧ ∃ now, entry.1 = .removeDocument id now

/-- The entry is a closing that was not refused. -/
def Closes (entry : CaseEntry) : Prop := ∃ now, entry = (.close now, .ok ())

def Reopens (entry : CaseEntry) : Prop := ∃ now, entry.1 = .reopen now

section Switching

@[simp] theorem links_add (kind other : Linked) (id otherId : String) (now : Timestamp)
    (answer : Except PyExc Unit) :
    Links kind id (.add other otherId now, answer) ↔ other = kind ∧ otherId = id := by
  simp [Links]

@[simp] theorem unlinks_removeDocument (kind : Linked) (id documentId : String) (now : Timestamp)
    (answer : Except PyExc Unit) :
    Unlinks kind id (.removeDocument documentId now, answer) ↔
      kind = .document ∧ documentId = id := by
  simp [Unlinks]

variable (aggregate : CaseAggregate) (caseCall : CaseCall)

theorem linked_switches (kind : Linked) (id : String) :
    id ∈ kind.ids (caseStep aggregate caseCall).2 ↔
      Links kind id (caseCall, (caseStep aggregate caseCall).1) ∨
        id ∈ kind.ids aggregate ∧
          ¬ Unlinks kind id (caseCall, (caseStep aggregate caseCall).1) := by
  cases caseCall with
  | add other otherId now =>
      rw [caseStep_add]
      have stays : ¬ Unlinks kind id (.add other otherId now, .ok ()) := by simp [Unlinks]
      rw [links_add, and_iff_left stays]
      split
      · rename_i present
        refine (or_iff_right_of_imp ?_).symm
        rintro ⟨rfl, rfl⟩
        exact present
      · rw [ids_touched, ids_keep]
        split
        · rename_i same
          subst same
          simp [or_comm, eq_comm]
        · rename_i differ
          simp [differ]
  | removeDocument documentId now =>
      have links : ¬ Links kind id (.removeDocument documentId now, .ok ()) := by simp [Links]
      rw [caseStep_removeDocument, or_iff_right links, unlinks_removeDocument, ids_touched,
        ids_keep]
      split
      · rename_i same
        subst same
        rw [List.mem_filter, decide_eq_true_iff]
        exact and_congr_right fun _ =>
          ⟨fun other removed => other removed.2.symm, fun kept same => kept ⟨rfl, same.symm⟩⟩
      · rename_i differ
        simp [Ne.symm differ]
  | close now =>
      rw [caseStep_close]
      split <;> simp [Links, Unlinks]
  | reopen now =>
      rw [caseStep_reopen]
      split <;> simp [Links, Unlinks]

theorem closed_switches :
    (caseStep aggregate caseCall).2.case.status = .closed ↔
      Closes (caseCall, (caseStep aggregate caseCall).1) ∨
        aggregate.case.status = .closed ∧
          ¬ Reopens (caseCall, (caseStep aggregate caseCall).1) := by
  cases caseCall with
  | add kind id now =>
      rw [caseStep_add]
      split <;> simp [Closes, Reopens]
  | removeDocument documentId now =>
      rw [caseStep_removeDocument]
      simp [Closes, Reopens]
  | close now =>
      rw [caseStep_close]
      split <;> simp [Closes, Reopens]
  | reopen now =>
      rw [caseStep_reopen]
      split <;> simp_all [Closes, Reopens]

/-- A status that neither a closing nor a reopening sets is kept until the case is closed. -/
theorem untouched_switches {status : CaseStatus} (unclosed : status ≠ .closed)
    (unopened : status ≠ .reopened) :
    (caseStep aggregate caseCall).2.case.status = status ↔
      False ∨ aggregate.case.status = status ∧
        ¬ Closes (caseCall, (caseStep aggregate caseCall).1) := by
  cases caseCall with
  | add kind id now =>
      rw [caseStep_add]
      split <;> simp [Closes]
  | removeDocument documentId now =>
      rw [caseStep_removeDocument]
      simp [Closes]
  | close now =>
      rw [caseStep_close]
      split <;> simp [Closes, unclosed.symm]
  | reopen now =>
      rw [caseStep_reopen]
      split
      · rename_i closed
        simp [Closes, closed, unopened.symm, unclosed.symm]
      · simp [Closes]

theorem particulars_step :
    (caseStep aggregate caseCall).2.particulars = aggregate.particulars := by
  cases caseCall with
  | add kind id now =>
      rw [caseStep_add]
      split <;> simp
  | removeDocument documentId now => simp [caseStep_removeDocument]
  | close now =>
      rw [caseStep_close]
      split <;> simp
  | reopen now =>
      rw [caseStep_reopen]
      split <;> simp

theorem nodup_step {kind : Linked} (distinct : (kind.ids aggregate).Nodup) :
    (kind.ids (caseStep aggregate caseCall).2).Nodup := by
  cases caseCall with
  | add other id now =>
      rw [caseStep_add]
      by_cases same : other = kind
      · subst same
        split
        · exact distinct
        · rename_i absent
          rw [ids_touched, ids_keep, if_pos rfl, List.nodup_append]
          refine ⟨distinct, List.nodup_singleton id, fun old inside other new => ?_⟩
          rw [List.mem_singleton.mp new]
          exact ne_of_mem_of_not_mem inside absent
      · split <;> simpa [same] using distinct
  | removeDocument documentId now =>
      rw [caseStep_removeDocument, ids_touched, ids_keep]
      split
      · rename_i same
        subst same
        exact distinct.filter _
      · exact distinct
  | close now =>
      rw [caseStep_close]
      split <;> simpa using distinct
  | reopen now =>
      rw [caseStep_reopen]
      split <;> simpa using distinct

end Switching

section Histories

/-- A closed case has a document. -/
def Documented (aggregate : CaseAggregate) : Prop :=
  aggregate.case.status = .closed → aggregate.case.documentIds ≠ []

/-- The call does not take the last document of a closed case. -/
def LeavesADocument (aggregate : CaseAggregate) : CaseCall → Prop
  | .removeDocument documentId _ => aggregate.case.status = .closed →
      ∃ other ∈ aggregate.case.documentIds, other ≠ documentId
  | _ => True

theorem documented_step_iff {aggregate : CaseAggregate} (documented : Documented aggregate)
    (caseCall : CaseCall) :
    Documented (caseStep aggregate caseCall).2 ↔ LeavesADocument aggregate caseCall := by
  cases caseCall with
  | add kind id now =>
      refine iff_of_true ?_ trivial
      rw [caseStep_add]
      split
      · exact documented
      · show _ → Linked.document.ids _ ≠ []
        rw [status_touched, status_keep, ids_touched, ids_keep]
        intro closed
        split
        · simp
        · exact documented closed
  | removeDocument documentId now =>
      rw [caseStep_removeDocument]
      show (_ → Linked.document.ids _ ≠ []) ↔ (_ → ∃ other ∈ Linked.document.ids aggregate, _)
      rw [status_touched, status_keep, ids_touched, ids_keep, if_pos rfl]
      simp
  | close now =>
      refine iff_of_true ?_ trivial
      rw [caseStep_close]
      split
      · exact documented
      · rename_i documents
        show _ → Linked.document.ids _ ≠ []
        rw [ids_touched, ids_inStatus]
        exact fun _ => documents
  | reopen now =>
      refine iff_of_true ?_ trivial
      rw [caseStep_reopen]
      split
      · intro closed
        cases closed
      · exact documented

/-- After any calls, what is linked and whether the case is closed is what was asked for last, any
other status is the one it had, and the particulars stay; closed cases keep a document exactly as
long as no call takes the last one of a closed case. -/
theorem case_history (start : CaseAggregate) (calls : List CaseCall) :
    let aggregate := (run caseStep start calls).2
    let entries := transcript caseStep start calls
    (∀ kind id, id ∈ Linked.ids kind aggregate ↔
      (∃ index, OpenAt (Links kind id) (Unlinks kind id) entries index) ∨
        id ∈ Linked.ids kind start ∧ ∀ entry ∈ entries, ¬ Unlinks kind id entry) ∧
    (∀ kind, (Linked.ids kind start).Nodup → (Linked.ids kind aggregate).Nodup) ∧
    (aggregate.case.status = .closed ↔
      (∃ index, OpenAt Closes Reopens entries index) ∨
        start.case.status = .closed ∧ ∀ entry ∈ entries, ¬ Reopens entry) ∧
    (∀ status, status ≠ .closed → status ≠ .reopened →
      (aggregate.case.status = status ↔
        start.case.status = status ∧ ∀ entry ∈ entries, ¬ Closes entry)) ∧
    aggregate.particulars = start.particulars ∧
    (Documented start → (Throughout caseStep Documented start calls ↔
      Along caseStep LeavesADocument start calls)) := by
  intro aggregate entries
  refine ⟨fun kind id => ?_, fun kind distinct => ?_, ?_, fun status unclosed unopened => ?_, ?_,
    fun documented => ?_⟩
  · exact @switched_iff _ _ _ caseStep (fun aggregate => id ∈ kind.ids aggregate) _ _
      (fun aggregate caseCall => linked_switches aggregate caseCall kind id) start calls
  · exact @run_invariant _ _ _ caseStep (fun aggregate => (kind.ids aggregate).Nodup)
      (fun aggregate caseCall => nodup_step aggregate caseCall) start distinct calls
  · exact @switched_iff _ _ _ caseStep (fun aggregate => aggregate.case.status = .closed) _ _
      closed_switches start calls
  · have switched := @switched_iff _ _ _ caseStep
      (fun aggregate => aggregate.case.status = status) (fun _ => False) Closes
      (fun aggregate caseCall => untouched_switches aggregate caseCall unclosed unopened)
      start calls
    refine switched.trans (or_iff_right ?_)
    rintro ⟨index, opened⟩
    obtain ⟨entry, -, never⟩ := opened.latest.started
    exact never
  · exact @run_invariant _ _ _ caseStep (fun other => other.particulars = start.particulars)
      (fun other caseCall same => (particulars_step other caseCall).trans same) start rfl calls
  · refine throughout_iff_along (fun _ _ (_ : True) _ => trivial) ?_ trivial documented calls
    exact fun aggregate caseCall _ holds => documented_step_iff holds caseCall

end Histories

end LexMind.Domain
