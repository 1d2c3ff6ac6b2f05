import LexMind.Scheduler.Job
import Mathlib.Data.List.Sort

set_option autoImplicit false

namespace LexMind.Scheduler

open Lib

/-- The `jobs` table: one row per primary key. -/
abbrev JobTable := Keyed Job.id

/-- What happens to a job, as the database and the handlers see it: a row written
(with the status it had), a handler called, a submission or a retry granted. -/
inductive Observation
  | stored (id : String) (before : Option JobStatus) (after : JobStatus)
  | handled (id : String)
  | submitted (id : String)
  | retried (id : String)
deriving DecidableEq, Repr

/-- The table with the observations made so far, oldest first. -/
structure JobStore where
  table : JobTable
  trace : List Observation

namespace JobStore

def statusOf (store : JobStore) (id : String) : Option JobStatus :=
  (store.table.find? id).map Job.status

def observe (store : JobStore) (event : Observation) : JobStore :=
  { store with trace := store.trace ++ [event] }

def write (store : JobStore) (row : Job) : JobStore where
  table := store.table.put row
  trace := store.trace ++ [.stored row.id (store.statusOf row.id) row.status]

@[simp] theorem observe_table (store : JobStore) (event : Observation) :
    (store.observe event).table = store.table := rfl

@[simp] theorem observe_trace (store : JobStore) (event : Observation) :
    (store.observe event).trace = store.trace ++ [event] := rfl

@[simp] theorem write_table (store : JobStore) (row : Job) :
    (store.write row).table = store.table.put row := rfl

@[simp] theorem write_trace (store : JobStore) (row : Job) :
    (store.write row).trace =
      store.trace ++ [.stored row.id (store.statusOf row.id) row.status] := rfl

@[simp] theorem statusOf_observe (store : JobStore) (event : Observation) (id : String) :
    (store.observe event).statusOf id = store.statusOf id := rfl

theorem statusOf_write (store : JobStore) (row : Job) (id : String) :
    (store.write row).statusOf id =
      if row.id = id then some row.status else store.statusOf id := by
  simp only [statusOf, write_table, Keyed.find?_put]
  split <;> rfl

end JobStore

namespace JobRepository

/-- `session.add`: a second row with the same key is refused at the commit. -/
def create (job : Job) : Py JobStore Job := do
  if (← get).table.contains job.id then
    throw (.integrityError "jobs" job.id)
  modify (fun store => store.write job)
  return job

/-- The columns `update` assigns; the workspace, the type and the creation time
of the row stay. -/
def overwrite (row job : Job) : Job :=
  { job with
    id := row.id
    workspaceId := row.workspaceId
    jobType := row.jobType
    createdAt := row.createdAt
    hasWorkspace := row.hasWorkspace }

def update (job : Job) : Py JobStore Job := do
  match (← get).table.find? job.id with
  | none => throw (.entityNotFound "Job" job.id)
  | some row =>
      modify (fun store => store.write (overwrite row job))
      return job

def getById (id : String) : Py JobStore (Option Job) :=
  return (← get).table.find? id

def isPending (job : Job) : Bool := job.status = .pending

/-- PENDING rows by descending priority; the order of equal priorities is the
order in which the database happens to scan them. -/
def pendingRows (scan : Arrangement Job) (table : JobTable) : List Job :=
  (scan.arrange (table.rows.filter isPending)).insertionSort (fun a b => b.priority ≤ a.priority)

def listPending (scan : Arrangement Job) : Py JobStore (List Job) :=
  return pendingRows scan (← get).table

def countPending : Py JobStore Nat :=
  return ((← get).table.rows.filter isPending).length

@[simp] theorem overwrite_status (row job : Job) : (overwrite row job).status = job.status := rfl
@[simp] theorem overwrite_id (row job : Job) : (overwrite row job).id = row.id := rfl
@[simp] theorem overwrite_jobType (row job : Job) : (overwrite row job).jobType = row.jobType := rfl

theorem mem_pendingRows (scan : Arrangement Job) (table : JobTable) (job : Job) :
    job ∈ pendingRows scan table ↔ job ∈ table.rows ∧ job.status = .pending := by
  simp [pendingRows, isPending]

/-- The first pending row is a stored PENDING job no other one outranks. -/
theorem pendingRows_head {scan : Arrangement Job} {table : JobTable} {job : Job}
    {rest : List Job} (listed : pendingRows scan table = job :: rest) :
    table.find? job.id = some job ∧ job.status = .pending ∧
      ∀ other ∈ table.rows, other.status = .pending → other.priority ≤ job.priority := by
  have inside := (mem_pendingRows scan table job).mp (listed ▸ List.mem_cons_self)
  refine ⟨table.find?_of_mem inside.1, inside.2, ?_⟩
  intro other member waiting
  have ranked : (pendingRows scan table).Pairwise (fun a b => b.priority ≤ a.priority) := by
    have total : Std.Total (fun a b : Job => b.priority ≤ a.priority) :=
      ⟨fun a b => Int.le_total b.priority a.priority⟩
    have trans : IsTrans Job (fun a b => b.priority ≤ a.priority) :=
      ⟨fun a b c first second => Int.le_trans second first⟩
    exact List.pairwise_insertionSort _ _
  rw [listed, List.pairwise_cons] at ranked
  have listedOther := (mem_pendingRows scan table other).mpr ⟨member, waiting⟩
  rw [listed] at listedOther
  rcases List.mem_cons.mp listedOther with rfl | later
  · exact Int.le_refl _
  · exact ranked.1 other later

theorem pendingRows_length (scan : Arrangement Job) (table : JobTable) :
    (pendingRows scan table).length = (table.rows.filter isPending).length := by
  rw [pendingRows, List.length_insertionSort, (scan.perm _).length_eq]

theorem call_create_fresh (job : Job) (store : JobStore)
    (fresh : store.table.find? job.id = none) :
    call (create job) store = (.ok job, store.write job) := by
  simp [create, fresh]

theorem call_update (job row : Job) (store : JobStore)
    (present : store.table.find? job.id = some row) :
    call (update job) store = (.ok job, store.write (overwrite row job)) := by
  simp [update, present]

@[simp] theorem call_getById (id : String) (store : JobStore) :
    call (getById id) store = (.ok (store.table.find? id), store) := by
  simp [getById]

@[simp] theorem call_listPending (scan : Arrangement Job) (store : JobStore) :
    call (listPending scan) store = (.ok (pendingRows scan store.table), store) := by
  simp [listPending]

@[simp] theorem call_countPending (store : JobStore) :
    call countPending store = (.ok (store.table.rows.filter isPending).length, store) := by
  simp [countPending]

end JobRepository

end LexMind.Scheduler
