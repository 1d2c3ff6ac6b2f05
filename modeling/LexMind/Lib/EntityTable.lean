import LexMind.Lib.Keyed
import LexMind.Lib.Paging
import LexMind.Lib.Simulation

set_option autoImplicit false

/- Entities kept as rows of a table with a primary key, against a map of entities. -/
namespace Lib

/-- How an entity is written to a row and read back. -/
structure RowMapper (ε κ η ν : Type) where
  key : η → κ
  rowKey : ν → κ
  encode : η → ν
  /-- The row after an update: some of its columns stay. -/
  overwrite : ν → η → ν
  decode : ν → Except ε η
  taken : κ → ε
  missing : κ → ε

/-- What a decoder gives back is written in one way only. -/
theorem decoded_injective {ε α β : Type} {value : α → β} {decode : β → Except ε α}
    (back : ∀ member, decode (value member) = .ok member) : Function.Injective value := by
  intro first second same
  have parsed := back second
  rw [← same, back] at parsed
  exact Except.ok.inj parsed

variable {ε κ η ν : Type} [DecidableEq κ]

namespace RowMapper

section Programs

variable (mapper : RowMapper ε κ η ν) (scan : Arrangement ν)

abbrev Rows := Keyed mapper.rowKey

def create (entity : η) : EStateM ε mapper.Rows η := do
  if (← get).contains (mapper.key entity) then
    throw (mapper.taken (mapper.key entity))
  modify (fun table => table.put (mapper.encode entity))
  return entity

def update (entity : η) : EStateM ε mapper.Rows η := do
  match (← get).find? (mapper.key entity) with
  | none => throw (mapper.missing (mapper.key entity))
  | some row =>
      modify (fun table => table.put (mapper.overwrite row entity))
      return entity

def delete (id : κ) : EStateM ε mapper.Rows Unit := do
  if (← get).contains id then
    modify (fun table => table.erase id)
  else
    throw (mapper.missing id)

def lookup (id : κ) : EStateM ε mapper.Rows (Option η) := do
  match (← get).find? id with
  | none => return none
  | some row => return some (← check (mapper.decode row))

def holds (id : κ) : EStateM ε mapper.Rows Bool := do
  return (← get).contains id

def count : EStateM ε mapper.Rows Nat := do
  return (← get).rows.length

/-- The entities of all rows, in the order of a scan. -/
def all : EStateM ε mapper.Rows (List η) := do
  check ((scan.arrange (← get).rows).mapM mapper.decode)

/-- The entities of the rows that a filter keeps, in the order of a scan. -/
def select (keep : ν → Bool) : EStateM ε mapper.Rows (List η) := do
  check (((scan.arrange (← get).rows).filter keep).mapM mapper.decode)

def first (keep : ν → Bool) : EStateM ε mapper.Rows (Option η) := do
  match (scan.arrange (← get).rows).find? keep with
  | none => return none
  | some row => return some (← check (mapper.decode row))

/-- Some of the rows of a scan, dropping and taking as many as asked for. -/
def window (offset limit : Nat) : EStateM ε mapper.Rows (List η) := do
  check ((((scan.arrange (← get).rows).drop offset).take limit).mapM mapper.decode)

end Programs

/-- What reading gives back of what was written, and what updating keeps of what was there. -/
structure Lawful (mapper : RowMapper ε κ η ν) (normal : η → η) (merge : η → η → η) : Prop where
  rowKey_encode : ∀ entity, mapper.rowKey (mapper.encode entity) = mapper.key entity
  key_normal : ∀ entity, mapper.key (normal entity) = mapper.key entity
  key_merge : ∀ old new, mapper.key (merge old new) = mapper.key new
  decode_encode : ∀ entity, mapper.decode (mapper.encode entity) = .ok (normal entity)
  overwrite_encode : ∀ old new, mapper.key old = mapper.key new →
    mapper.overwrite (mapper.encode old) new = mapper.encode (merge old new)

end RowMapper

/-- Which entity is stored under which key. -/
abbrev EntityMap (κ η : Type) := κ → Option η

inductive TableWrite (κ η : Type)
  | create (entity : η)
  | update (entity : η)
  | delete (id : κ)

section Writes

variable (mapper : RowMapper ε κ η ν) (merge : η → η → η)

def TableWrite.program : TableWrite κ η → EStateM ε mapper.Rows Unit
  | create entity => (fun _ => ()) <$> mapper.create entity
  | update entity => (fun _ => ()) <$> mapper.update entity
  | delete id => mapper.delete id

def writeRow (table : mapper.Rows) (write : TableWrite κ η) : Except ε Unit × mapper.Rows :=
  call (write.program mapper) table

/-- The same write to a map of entities. -/
def writeEntity (entities : EntityMap κ η) : TableWrite κ η → Except ε Unit × EntityMap κ η
  | .create entity =>
      if (entities (mapper.key entity)).isSome then
        (.error (mapper.taken (mapper.key entity)), entities)
      else (.ok (), Function.update entities (mapper.key entity) (some entity))
  | .update entity =>
      match entities (mapper.key entity) with
      | none => (.error (mapper.missing (mapper.key entity)), entities)
      | some old =>
          (.ok (), Function.update entities (mapper.key entity) (some (merge old entity)))
  | .delete id =>
      if (entities id).isSome then (.ok (), Function.update entities id none)
      else (.error (mapper.missing id), entities)

/-- The rows are those of the entities of the map. -/
def Encodes (table : mapper.Rows) (entities : EntityMap κ η) : Prop :=
  ∀ id, table.find? id = (entities id).map mapper.encode

end Writes

section Refinement

variable {mapper : RowMapper ε κ η ν} {normal : η → η} {merge : η → η → η}
  (lawful : mapper.Lawful normal merge) {table : mapper.Rows} {entities : EntityMap κ η}

theorem Encodes.contains (encodes : Encodes mapper table entities) (id : κ) :
    table.contains id = (entities id).isSome := by
  rw [Keyed.contains, encodes id, Option.isSome_map]

include lawful

theorem Encodes.key_eq (encodes : Encodes mapper table entities) {id : κ} {entity : η}
    (stored : entities id = some entity) : mapper.key entity = id := by
  have found := encodes id
  rw [stored] at found
  rw [← lawful.rowKey_encode]
  exact Keyed.key_of_find? found

theorem Encodes.put (encodes : Encodes mapper table entities) (entity : η) :
    Encodes mapper (table.put (mapper.encode entity))
      (Function.update entities (mapper.key entity) (some entity)) := by
  intro id
  rw [Keyed.find?_put, lawful.rowKey_encode, Function.update_apply, encodes id]
  by_cases same : mapper.key entity = id
  · rw [if_pos same, if_pos same.symm, Option.map_some]
  · rw [if_neg same, if_neg (Ne.symm same)]

omit lawful in
theorem Encodes.erase (encodes : Encodes mapper table entities) (id : κ) :
    Encodes mapper (table.erase id) (Function.update entities id none) := by
  intro other
  rw [Keyed.find?_erase, Function.update_apply, encodes other]
  split <;> rfl

/-- Each write is answered alike, and writes the same. -/
theorem writeRow_simulates :
    Simulates (Encodes mapper) (fun _ _ => True) (writeRow mapper)
      (writeEntity mapper merge) := by
  intro table entities write encodes _
  cases write with
  | create entity =>
      have taken := encodes.contains (mapper.key entity)
      cases present : (entities (mapper.key entity)).isSome with
      | false =>
          rw [present] at taken
          simpa [writeRow, writeEntity, TableWrite.program, RowMapper.create, taken, present]
            using encodes.put lawful entity
      | true =>
          rw [present] at taken
          simpa [writeRow, writeEntity, TableWrite.program, RowMapper.create, taken, present]
            using encodes
  | update entity =>
      have row := encodes (mapper.key entity)
      cases stored : entities (mapper.key entity) with
      | none =>
          rw [stored, Option.map_none] at row
          simpa [writeRow, writeEntity, TableWrite.program, RowMapper.update, row, stored]
            using encodes
      | some old =>
          rw [stored, Option.map_some] at row
          have after := encodes.put lawful (merge old entity)
          rw [lawful.key_merge] at after
          simpa [writeRow, writeEntity, TableWrite.program, RowMapper.update, row, stored,
            lawful.overwrite_encode old entity (encodes.key_eq lawful stored)] using after
  | delete id =>
      have taken := encodes.contains id
      cases present : (entities id).isSome with
      | false =>
          rw [present] at taken
          simpa [writeRow, writeEntity, TableWrite.program, RowMapper.delete, taken, present]
            using encodes
      | true =>
          rw [present] at taken
          simpa [writeRow, writeEntity, TableWrite.program, RowMapper.delete, taken, present]
            using encodes.erase id

/-- From an empty table, the writes answer as on a map of entities and leave its rows. -/
theorem run_encodes (writes : List (TableWrite κ η)) :
    (run (writeRow mapper) Keyed.empty writes).1 =
        (run (writeEntity mapper merge) (fun _ => none) writes).1 ∧
      Encodes mapper (run (writeRow mapper) Keyed.empty writes).2
        (run (writeEntity mapper merge) (fun _ => none) writes).2 :=
  (writeRow_simulates lawful).run (fun _ => rfl) (along_of_all (fun _ _ => trivial) _ _)

end Refinement

/-- Each entity that is stored is listed once, under its own key, and nothing else. -/
structure Lists (key : η → κ) (entities : EntityMap κ η) (listing : List η) : Prop where
  mem_iff : ∀ entity, entity ∈ listing ↔ entities (key entity) = some entity
  once : (listing.map key).Nodup

section Queries

variable {mapper : RowMapper ε κ η ν} {normal : η → η} {merge : η → η → η}
  (lawful : mapper.Lawful normal merge) {table : mapper.Rows} {entities : EntityMap κ η}
  {scan : Arrangement ν} {listing : List η}

include lawful

theorem Encodes.mem_rows (encodes : Encodes mapper table entities) {row : ν}
    (inside : row ∈ table.rows) :
    ∃ entity, entities (mapper.key entity) = some entity ∧ row = mapper.encode entity := by
  have found := encodes (mapper.rowKey row)
  rw [table.find?_of_mem inside] at found
  obtain ⟨entity, stored, rfl⟩ := Option.map_eq_some_iff.mp found.symm
  rw [lawful.rowKey_encode] at stored
  exact ⟨entity, stored, rfl⟩

/-- What a scan reads, as the entities whose rows it reads. -/
theorem Encodes.listed (encodes : Encodes mapper table entities) (scan : Arrangement ν) :
    ∃ listing, Lists mapper.key entities listing ∧
      scan.arrange table.rows = listing.map mapper.encode := by
  have each : ∀ row ∈ scan.arrange table.rows, ∃ entity,
      entities (mapper.key entity) = some entity ∧ row = mapper.encode entity :=
    fun row inside => encodes.mem_rows lawful ((scan.mem_arrange _ _).mp inside)
  obtain ⟨listing, stored, rows⟩ : ∃ listing : List η,
      (∀ entity ∈ listing, entities (mapper.key entity) = some entity) ∧
        scan.arrange table.rows = listing.map mapper.encode := by
    generalize scan.arrange table.rows = rows at each ⊢
    induction rows with
    | nil => exact ⟨[], List.forall_mem_nil _, rfl⟩
    | cons row rest ih =>
        obtain ⟨entity, held, rfl⟩ := each row List.mem_cons_self
        obtain ⟨listing, stored, rfl⟩ := ih fun other inside =>
          each other (List.mem_cons_of_mem _ inside)
        exact ⟨entity :: listing, List.forall_mem_cons.mpr ⟨held, stored⟩, rfl⟩
  have keys : (scan.arrange table.rows).map mapper.rowKey = listing.map mapper.key := by
    rw [rows, List.map_map]
    exact List.map_congr_left fun entity _ => lawful.rowKey_encode entity
  refine ⟨listing, ⟨fun entity => ⟨stored entity, fun held => ?_⟩, ?_⟩, rows⟩
  · have found := encodes (mapper.key entity)
    rw [held, Option.map_some] at found
    have inside : mapper.encode entity ∈ listing.map mapper.encode :=
      rows ▸ (scan.mem_arrange _ _).mpr (Keyed.mem_of_find? found)
    obtain ⟨other, listed, same⟩ := List.mem_map.mp inside
    have key : mapper.key other = mapper.key entity := by
      rw [← lawful.rowKey_encode, same, lawful.rowKey_encode]
    have both := stored other listed
    rw [key, held] at both
    exact Option.some.inj both ▸ listed
  · rw [← keys]
    exact ((scan.perm _).map mapper.rowKey).nodup_iff.mpr table.distinct

omit [DecidableEq κ] in
theorem mapM_decode (listing : List η) :
    (listing.map mapper.encode).mapM mapper.decode = .ok (listing.map normal) := by
  rw [mapM_eq_ok_iff, List.map_map, List.map_map]
  exact List.map_congr_left fun entity _ => lawful.decode_encode entity

theorem Encodes.call_lookup (encodes : Encodes mapper table entities) (id : κ) :
    call (mapper.lookup id) table = (.ok ((entities id).map normal), table) := by
  have row := encodes id
  cases stored : entities id with
  | none =>
      rw [stored, Option.map_none] at row
      simp [RowMapper.lookup, row]
  | some entity =>
      rw [stored, Option.map_some] at row
      simp [RowMapper.lookup, row, lawful.decode_encode]

omit lawful in
theorem Encodes.call_holds (encodes : Encodes mapper table entities) (id : κ) :
    call (mapper.holds id) table = (.ok (entities id).isSome, table) := by
  simp [RowMapper.holds, encodes.contains]

omit [DecidableEq κ] lawful in
theorem call_count (rows : scan.arrange table.rows = listing.map mapper.encode) :
    call mapper.count table = (.ok listing.length, table) := by
  have length := congrArg List.length rows
  rw [(scan.perm _).length_eq, List.length_map] at length
  simp [RowMapper.count, length]

omit [DecidableEq κ] in
theorem call_all (rows : scan.arrange table.rows = listing.map mapper.encode) :
    call (mapper.all scan) table = (.ok (listing.map normal), table) := by
  simp [RowMapper.all, rows, mapM_decode lawful]

omit [DecidableEq κ] in
/-- A filter on the rows that is a test of their entities selects by that test. -/
theorem call_select (rows : scan.arrange table.rows = listing.map mapper.encode)
    {keep : ν → Bool} {wanted : η → Bool}
    (tests : ∀ entity, keep (mapper.encode entity) = wanted entity) :
    call (mapper.select scan keep) table =
      (.ok ((listing.filter wanted).map normal), table) := by
  have kept : (listing.map mapper.encode).filter keep =
      (listing.filter wanted).map mapper.encode := by
    rw [List.filter_map]
    exact congrArg _ (List.filter_congr fun entity _ => tests entity)
  simp [RowMapper.select, rows, kept, mapM_decode lawful]

omit [DecidableEq κ] in
theorem call_first (rows : scan.arrange table.rows = listing.map mapper.encode)
    {keep : ν → Bool} {wanted : η → Bool}
    (tests : ∀ entity, keep (mapper.encode entity) = wanted entity) :
    call (mapper.first scan keep) table = (.ok ((listing.find? wanted).map normal), table) := by
  have kept : (listing.map mapper.encode).find? keep =
      (listing.find? wanted).map mapper.encode := by
    rw [List.find?_map]
    exact congrArg _ (List.find?_congr fun entity _ => tests entity)
  cases found : listing.find? wanted with
  | none =>
      rw [found, Option.map_none] at kept
      simp [RowMapper.first, rows, kept]
  | some entity =>
      rw [found, Option.map_some] at kept
      simp [RowMapper.first, rows, kept, lawful.decode_encode]

omit [DecidableEq κ] in
theorem call_window (rows : scan.arrange table.rows = listing.map mapper.encode)
    (offset limit : Nat) :
    call (mapper.window scan offset limit) table =
      (.ok (((listing.drop offset).take limit).map normal), table) := by
  have kept : ((listing.map mapper.encode).drop offset).take limit =
      ((listing.drop offset).take limit).map mapper.encode := by
    rw [List.map_take, List.map_drop]
  simp only [RowMapper.window, call_bind, call_get, andThen_ok, call_check, rows, kept,
    mapM_decode lawful]

end Queries

end Lib
