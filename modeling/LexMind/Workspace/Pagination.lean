import LexMind.Lib.Paging
import LexMind.Workspace.WorkspaceService

set_option autoImplicit false

/- Listing the active workspaces page by page. -/
namespace LexMind.WorkspaceServices

open Lib

/-- A page is counted from 1 and has 1 to 100 items. -/
structure PageRequest where
  page : Nat
  pageSize : Nat
  counted : 1 ≤ page
  sized : 1 ≤ pageSize ∧ pageSize ≤ 100

namespace PageRequest

/-- The constructor with the checks of `__post_init__`. -/
def create (page pageSize : Int) : Except PyExc PageRequest :=
  if counted : page < 1 then .error (.valueError "Page must be >= 1")
  else if sized : pageSize < 1 ∨ pageSize > 100 then
    .error (.valueError "PageSize must be between 1 and 100")
  else .ok ⟨page.toNat, pageSize.toNat, by omega, by omega⟩

variable (request : PageRequest)

def offset : Nat := (request.page - 1) * request.pageSize

def limit : Nat := request.pageSize

end PageRequest

structure PageResult (α : Type) where
  items : List α
  totalCount : Nat
  page : Nat
  pageSize : Nat

namespace PageResult

variable {α : Type} (result : PageResult α)

def totalPages : Nat :=
  if result.pageSize = 0 then 0 else (result.totalCount + result.pageSize - 1) / result.pageSize

def hasNext : Bool := result.page < result.totalPages

def hasPrevious : Bool := result.page > 1

end PageResult

namespace SqliteWorkspaceRepositoryImpl

variable (order : Arrangement WorkspaceRow) (table : WorkspaceTable)

/-- The active rows, in an order that the queries share. -/
def activeRows : List WorkspaceRow :=
  (order.arrange table.rows.rows).filter (fun row => row.isActive)

def listAll : Except PyExc (List Workspace) := (activeRows order table).mapM toDomain

/-- The offset and the limit of a query drop rows and take rows. -/
def listPage (request : PageRequest) : Except PyExc (PageResult Workspace) := do
  let base := activeRows order table
  let total := base.length
  let rows := (base.drop request.offset).take request.limit
  let items ← rows.mapM toDomain
  return ⟨items, total, request.page, request.pageSize⟩

/-- What is listed for a page number and a page size. -/
def pageOf (page pageSize : Int) : Except PyExc (PageResult Workspace) := do
  let request ← PageRequest.create page pageSize
  listPage order table request

/-- The results that one meets from a page on, going to the next page as long as there is one. -/
inductive Follows (pageSize : Int) : Nat → List (PageResult Workspace) → Prop
  | last {page : Nat} {result : PageResult Workspace}
      (listed : pageOf order table page pageSize = .ok result) (stops : result.hasNext = false) :
      Follows pageSize page [result]
  | next {page : Nat} {result : PageResult Workspace} {rest : List (PageResult Workspace)}
      (listed : pageOf order table page pageSize = .ok result) (continues : result.hasNext = true)
      (later : Follows pageSize (page + 1) rest) : Follows pageSize page (result :: rest)

end SqliteWorkspaceRepositoryImpl

open SqliteWorkspaceRepositoryImpl

/-- The active rows, in row order, each as the workspace that it is read as. -/
theorem listAll_rows {order : Arrangement WorkspaceRow} {table : WorkspaceTable}
    (named : ∀ row ∈ table.rows.rows, row.isActive = true → pyStrip row.name ≠ "") :
    ∃ workspaces, listAll order table = .ok workspaces ∧
      workspaces.map rowOf = (order.arrange table.rows.rows).filter (fun row => row.isActive) := by
  have read : ∀ row ∈ activeRows order table, ∃ workspace,
      toDomain row = .ok workspace ∧ rowOf workspace = row := by
    intro row inside
    obtain ⟨held, active⟩ := List.mem_filter.mp inside
    exact ⟨_, dif_neg (named row ((order.perm _).mem_iff.mp held) active), rfl⟩
  obtain ⟨workspaces, listed, rows⟩ := mapM_returns read
  rw [List.map_id'] at rows
  exact ⟨workspaces, listed, rows⟩

/-- The ids of what is listed are distinct, as those of the rows are. -/
theorem ids_distinct {order : Arrangement WorkspaceRow} {table : WorkspaceTable}
    {workspaces : List Workspace} (rows : workspaces.map rowOf =
      (order.arrange table.rows.rows).filter (fun row => row.isActive)) :
    (workspaces.map Workspace.id).Nodup := by
  have ids : workspaces.map Workspace.id = (workspaces.map rowOf).map WorkspaceRow.id := by
    rw [List.map_map]
    rfl
  have whole : ((order.arrange table.rows.rows).map WorkspaceRow.id).Nodup :=
    ((order.perm _).map WorkspaceRow.id).nodup_iff.mpr table.rows.distinct
  rw [ids, rows]
  exact (List.filter_sublist.map WorkspaceRow.id).nodup whole

/-- Every row has a name that a workspace can have. -/
def WorkspaceTable.Named (table : WorkspaceTable) : Prop :=
  ∀ row ∈ table.rows.rows, pyStrip row.name ≠ ""

/-- Whatever a computation raises, the rows keep proper names. -/
abbrev KeepsNames {α : Type} (program : WorkspacePy α) : Prop :=
  RaisesOnly WorkspaceTable.Named (fun _ => True) program

section Names

theorem flush_named {row : WorkspaceRow} (named : pyStrip row.name ≠ "") :
    KeepsNames (flush row) := by
  intro table before
  refine ⟨fun _ _ => trivial, ?_⟩
  unfold flush
  rw [call_bind, call_get, andThen_ok]
  split
  · intro other inside
    rcases (Keyed.mem_put _ _ _).mp inside with rfl | ⟨old, _⟩
    · exact named
    · exact before other old
  · exact before

theorem update_named (workspace : Workspace) : KeepsNames (update workspace) := by
  refine .bind .get (fun table => ?_)
  split
  · exact .throw trivial
  · exact .bind (flush_named workspace.named) (fun _ => .pure _)

theorem found_named (row : Option WorkspaceRow) : KeepsNames (found row) := by
  unfold found
  split
  · exact .pure _
  · exact .bind (.check (fun _ _ => trivial)) (fun _ => .pure _)

theorem getById_named (workspaceId : String) : KeepsNames (getById workspaceId) :=
  .bind .get (fun _ => found_named _)

theorem load_named (workspaceId : String) :
    KeepsNames (WorkspaceLifecycleManager.load workspaceId) := by
  refine .bind (.bind .get (fun _ => found_named _)) (fun held => ?_)
  split
  · exact .throw trivial
  · exact .pure _

theorem change_named (turn : Workspace → Workspace) (workspaceId : String)
    (published : Except PyExc Unit) :
    KeepsNames (WorkspaceLifecycleManager.change turn workspaceId published) :=
  .bind (load_named workspaceId) (fun _ => .bind (update_named _) (fun _ =>
    .bind (.check (fun _ _ => trivial)) (fun _ => .pure _)))

theorem create_named (workspace : Workspace) : KeepsNames (create workspace) := by
  refine .bind .get (fun table => ?_)
  split
  · exact .throw trivial
  · exact .bind (flush_named workspace.named) (fun _ => .pure _)

theorem createWorkspace_named (name description ownerId : String) (generated : Generated) :
    KeepsNames (WorkspaceInitializer.createWorkspace name description ownerId generated) :=
  .bind (.check (fun _ _ => trivial)) create_named

theorem validateAll_named (name : String) : KeepsNames (WorkspaceValidator.validateAll name) := by
  refine .bind (.check (fun _ _ => trivial)) (fun _ => .bind (.bind .get (fun _ => found_named _))
    (fun taken => ?_))
  exact .ite (.throw trivial) (.pure _)

/-- The soft delete writes back the name that it has read. -/
theorem delete_named (workspaceId : String) (now : Timestamp) :
    KeepsNames (SqliteWorkspaceRepositoryImpl.delete workspaceId now) := by
  intro table named
  unfold SqliteWorkspaceRepositoryImpl.delete
  rw [call_bind, call_get, andThen_ok]
  cases held : table.rows.find? workspaceId with
  | none => exact ⟨fun _ _ => trivial, named⟩
  | some row =>
      have proper : pyStrip row.name ≠ "" := named row (Keyed.mem_of_find? held)
      exact @flush_named { row with isActive := false, updatedAt := now } proper table named

theorem hardDelete_named (workspaceId : String) : KeepsNames (hardDelete workspaceId) := by
  refine .bind .get (fun table => ?_)
  split
  · exact .throw trivial
  · exact .modify (fun _ named row inside => named row ((Keyed.mem_erase _ _ _).mp inside).1)

/-- Each call of the service keeps the names proper. -/
theorem program_named (serviceCall : ServiceCall) : KeepsNames serviceCall.program := by
  cases serviceCall with
  | create name description ownerId generated published =>
      exact .map _ (.bind (validateAll_named name) (fun _ =>
        .bind (createWorkspace_named name description ownerId generated) (fun _ =>
          .bind (.check (fun _ _ => trivial)) (fun _ => .pure _))))
  | openWorkspace workspaceId now published => exact .map _ (change_named _ workspaceId published)
  | close workspaceId now published => exact .map _ (change_named _ workspaceId published)
  | archive workspaceId now published => exact .map _ (change_named _ workspaceId published)
  | delete workspaceId published =>
      exact .map _ (.bind (load_named workspaceId) (fun _ =>
        .bind (hardDelete_named workspaceId) (fun _ => .check (fun _ _ => trivial))))
  | initializeMetadata workspaceId now =>
      refine .map _ (.bind (getById_named workspaceId) (fun held => ?_))
      split
      · exact .throw trivial
      · exact update_named _
  | softDelete workspaceId now => exact .map _ (delete_named workspaceId now)

theorem run_named (calls : List ServiceCall) : (run serviceStep .empty calls).2.Named :=
  @run_invariant _ _ _ serviceStep WorkspaceTable.Named
    (fun table serviceCall named => (program_named serviceCall table named).2) .empty
    (List.forall_mem_nil _) calls

/-- In whatever table the service has made, the active workspaces can be listed. -/
theorem run_listed (order : Arrangement WorkspaceRow) (calls : List ServiceCall) :
    let table := (run serviceStep .empty calls).2
    ∃ workspaces, listAll order table = .ok workspaces ∧
      workspaces.map rowOf = (order.arrange table.rows.rows).filter (fun row => row.isActive) :=
  listAll_rows (fun row inside _ => run_named calls row inside)

end Names

section Pages

variable {order : Arrangement WorkspaceRow} {table : WorkspaceTable} {workspaces : List Workspace}

/-- The result for a page, from the workspaces that are listed. -/
def resultAt (workspaces : List Workspace) (pageSize page : Nat) : PageResult Workspace :=
  ⟨pageSlice pageSize workspaces (page - 1), workspaces.length, page, pageSize⟩

theorem create_accepted {page pageSize : Nat} (counted : 1 ≤ page)
    (sized : 1 ≤ pageSize ∧ pageSize ≤ 100) :
    PageRequest.create page pageSize = .ok ⟨page, pageSize, counted, sized⟩ := by
  rw [PageRequest.create, dif_neg (by omega), dif_neg (by omega)]
  rfl

theorem totalPages_resultAt {pageSize : Nat} (positive : 0 < pageSize) (page : Nat) :
    (resultAt workspaces pageSize page).totalPages = pageCount workspaces.length pageSize :=
  if_neg (Nat.pos_iff_ne_zero.mp positive)

theorem hasNext_resultAt_iff {pageSize : Nat} (positive : 0 < pageSize) (page : Nat) :
    (resultAt workspaces pageSize page).hasNext = true ↔
      page < pageCount workspaces.length pageSize := by
  rw [PageResult.hasNext, totalPages_resultAt positive, decide_eq_true_iff]
  rfl

/-- From a page without a next one, one meets that page. -/
theorem follows_last_iff {pageSize : Int} {page : Nat} {result : PageResult Workspace}
    (here : pageOf order table page pageSize = .ok result) (stops : result.hasNext = false)
    (visited : List (PageResult Workspace)) :
    Follows order table pageSize page visited ↔ visited = [result] := by
  constructor
  · intro follows
    cases follows with
    | last found =>
        cases here.symm.trans found
        rfl
    | next found continues =>
        cases here.symm.trans found
        rw [stops] at continues
        cases continues
  · rintro rfl
    exact .last here stops

/-- From a page with a next one, one meets that page and those from the next on. -/
theorem follows_next_iff {pageSize : Int} {page : Nat} {result : PageResult Workspace}
    (here : pageOf order table page pageSize = .ok result) (continues : result.hasNext = true)
    (visited : List (PageResult Workspace)) :
    Follows order table pageSize page visited ↔
      ∃ rest, visited = result :: rest ∧ Follows order table pageSize (page + 1) rest := by
  constructor
  · intro follows
    cases follows with
    | last found stops =>
        cases here.symm.trans found
        rw [continues] at stops
        cases stops
    | next found _ later =>
        cases here.symm.trans found
        exact ⟨_, rfl, later⟩
  · rintro ⟨rest, rfl, later⟩
    exact .next here continues later

variable (listed : listAll order table = .ok workspaces)

include listed

theorem length_activeRows : (activeRows order table).length = workspaces.length := by
  have answers := congrArg List.length ((mapM_eq_ok_iff toDomain _ _).mp listed)
  rwa [List.length_map, List.length_map] at answers

/-- A page that is asked for is a window of the list. -/
theorem pageOf_returns {page pageSize : Nat} (counted : 1 ≤ page)
    (sized : 1 ≤ pageSize ∧ pageSize ≤ 100) :
    pageOf order table page pageSize = .ok (resultAt workspaces pageSize page) := by
  have items := mapM_pageSlice listed pageSize (page - 1)
  rw [pageOf, create_accepted counted sized]
  show ((pageSlice pageSize (activeRows order table) (page - 1)).mapM toDomain >>= fun items =>
    pure (PageResult.mk items (activeRows order table).length page pageSize)) = _
  rw [items, length_activeRows listed]
  rfl

/-- From any page that is there on, one meets the pages up to the last. -/
theorem follows_iff {pageSize : Nat} (sized : 1 ≤ pageSize ∧ pageSize ≤ 100) (left page : Nat)
    (counted : 1 ≤ page) (upto : page + left = max 1 (pageCount workspaces.length pageSize))
    (visited : List (PageResult Workspace)) :
    Follows order table pageSize page visited ↔
      visited = (List.range' page (left + 1)).map (resultAt workspaces pageSize) := by
  have more (page : Nat) := @hasNext_resultAt_iff workspaces pageSize sized.1 page
  induction left generalizing page visited with
  | zero =>
      have stops : (resultAt workspaces pageSize page).hasNext = false :=
        eq_false_of_ne_true (fun continues => by
          have := (more page).mp continues
          omega)
      exact follows_last_iff (pageOf_returns listed counted sized) stops visited
  | succ left ih =>
      have continues : (resultAt workspaces pageSize page).hasNext = true :=
        (more page).mpr (by omega)
      have later := ih (page + 1) (by omega) (by omega)
      rw [follows_next_iff (pageOf_returns listed counted sized) continues, List.range'_succ,
        List.map_cons]
      simp only [later, exists_eq_right]

end Pages

/-- The pages of one size show each of the active workspaces once, in row order, and the walk along
them ends with the last. -/
structure Paginates (order : Arrangement WorkspaceRow) (table : WorkspaceTable) (pageSize : Nat)
    (result : Nat → PageResult Workspace) (last : Nat) : Prop where
  returned : ∀ page : Nat, 1 ≤ page → pageOf order table page pageSize = .ok (result page)
  counted : ∀ page, 1 ≤ page → (result page).totalPages = last
  covered : ((List.range' 1 last).flatMap (fun page => (result page).items)).map rowOf =
    (order.arrange table.rows.rows).filter (fun row => row.isActive)
  once : (((List.range' 1 last).flatMap (fun page => (result page).items)).map Workspace.id).Nodup
  full : ∀ page, 1 ≤ page → page < last → (result page).items.length = pageSize
  beyond : ∀ page, last < page → (result page).items = []
  followed : ∀ visited, Follows order table pageSize 1 visited ↔
    visited = (List.range' 1 (max 1 last)).map result
  previous : ∀ page, 1 ≤ page → ((result page).hasPrevious = false ↔ page = 1)

/-- All pages, one after another, are the list. -/
theorem flatMap_resultAt {pageSize : Nat} (positive : 0 < pageSize) (workspaces : List Workspace) :
    (List.range' 1 (pageCount workspaces.length pageSize)).flatMap
      (fun page => (resultAt workspaces pageSize page).items) = workspaces := by
  have slices : (fun index => (resultAt workspaces pageSize (1 + index)).items) =
      pageSlice pageSize workspaces := by
    funext index
    rw [resultAt, Nat.add_sub_cancel_left]
  rw [List.range'_eq_map_range, List.flatMap_map, slices]
  exact flatMap_pages positive workspaces

/-- For every table whose active rows have names that a workspace can have. -/
theorem pagination_covers {order : Arrangement WorkspaceRow} {table : WorkspaceTable}
    (named : ∀ row ∈ table.rows.rows, row.isActive = true → pyStrip row.name ≠ "") {pageSize : Nat}
    (sized : 1 ≤ pageSize ∧ pageSize ≤ 100) :
    ∃ result last, Paginates order table pageSize result last := by
  obtain ⟨workspaces, listed, rows⟩ := @listAll_rows order table named
  have whole := flatMap_resultAt sized.1 workspaces
  refine ⟨resultAt workspaces pageSize, pageCount workspaces.length pageSize, ?_⟩
  constructor
  · exact fun page counted => pageOf_returns listed counted sized
  · exact fun page _ => totalPages_resultAt sized.1 page
  · rw [whole]
    exact rows
  · rw [whole]
    exact ids_distinct rows
  · exact fun page counted more => length_full sized.1 (by omega)
  · exact fun page beyond => pageSlice_beyond sized.1 (by omega)
  · intro visited
    have upto := follows_iff listed sized
      (max 1 (pageCount workspaces.length pageSize) - 1) 1 (Nat.le_refl 1) (by omega) visited
    rwa [Nat.sub_add_cancel (Nat.le_max_left 1 _)] at upto
  · intro page counted
    rw [PageResult.hasPrevious, decide_eq_false_iff_not]
    show ¬ 1 < page ↔ page = 1
    omega

/-- A row of the examples, by its id and its name. -/
def plainRow (id name : String) (isActive : Bool) : WorkspaceRow :=
  ⟨id, name, "", "ana", isActive, 0, 0, 0, 0⟩

def threeRows : WorkspaceTable where
  rows := ⟨[plainRow "w1" "Contracts" true, plainRow "w2" "Archive" false,
    plainRow "w3" "Appeals" true], by decide⟩
  unique := by decide

/-- Two of the three rows are active, each on a page of its own. -/
theorem three_rows_paginate :
    (∃ result last, Paginates .asStored threeRows 1 result last) ∧
      (pageOf .asStored threeRows 2 1).map (fun result => (result.items.map Workspace.name,
        result.totalPages, result.hasNext)) = .ok (["Appeals"], 2, false) :=
  ⟨pagination_covers (by decide) (by decide), by decide⟩

end LexMind.WorkspaceServices
