import LexMind.Metadata.Migrations

set_option autoImplicit false

/- The version table against the migrations that were run. -/
namespace LexMind.Metadata

open Lib MigrationTracker MigrationRunner

/-- A run of a callable of the version that returned. -/
def Ran.Completes (direction : Direction) (version : String) (ran : Ran) : Prop :=
  ran.direction = direction ∧ ran.version = version ∧ ran.completed = true

/-- The version's up has run to completion, and no down of it has after that. -/
def UpStands (history : List Ran) (version : String) : Prop :=
  ∃ front ran back, history = front ++ ran :: back ∧ ran.Completes .up version ∧
    ∀ later ∈ back, ¬ later.Completes .down version

/-- The recorded versions are those whose up stands, and those recorded at the start whose down
has not run to completion; and no callable was run in vain. -/
structure Consistent {σ : Type} (start : SchemaVersions) (state : MigrationState σ) : Prop where
  recorded : ∀ version, version ∈ appliedVersions state.versions ↔
    UpStands state.ran version ∨
      version ∈ appliedVersions start ∧ ∀ ran ∈ state.ran, ¬ ran.Completes .down version
  ups : ∀ ran ∈ state.ran, ran.direction = .up → ran.recorded = false
  downs : ∀ ran ∈ state.ran, ran.direction = .down → ran.recorded = true

section Versions

variable (versions : SchemaVersions) (version : String)

theorem mem_appliedVersions : version ∈ appliedVersions versions ↔
    ∃ record ∈ versions.rows, record.version = version := by
  rw [appliedVersions, List.mem_mergeSort, List.mem_map]

theorem mem_appliedVersions_put (record : MigrationRecord) :
    version ∈ appliedVersions (versions.put record) ↔
      version = record.version ∨ version ∈ appliedVersions versions := by
  rw [mem_appliedVersions, mem_appliedVersions]
  constructor
  · rintro ⟨row, inside, rfl⟩
    rcases (versions.mem_put record row).mp inside with rfl | ⟨old, _⟩
    · exact .inl rfl
    · exact .inr ⟨row, old, rfl⟩
  · rintro (rfl | ⟨row, inside, rfl⟩)
    · exact ⟨record, (versions.mem_put record record).mpr (.inl rfl), rfl⟩
    · by_cases same : row.version = record.version
      · exact ⟨record, (versions.mem_put record record).mpr (.inl rfl), same.symm⟩
      · exact ⟨row, (versions.mem_put record row).mpr (.inr ⟨inside, same⟩), rfl⟩

theorem mem_appliedVersions_erase (gone : String) :
    version ∈ appliedVersions (versions.erase gone) ↔
      version ∈ appliedVersions versions ∧ version ≠ gone := by
  rw [mem_appliedVersions, mem_appliedVersions]
  constructor
  · rintro ⟨row, inside, rfl⟩
    obtain ⟨old, differs⟩ := (versions.mem_erase gone row).mp inside
    exact ⟨⟨row, old, rfl⟩, differs⟩
  · rintro ⟨⟨row, inside, rfl⟩, differs⟩
    exact ⟨row, (versions.mem_erase gone row).mpr ⟨inside, differs⟩, rfl⟩

theorem contains_eq_false (fresh : version ∉ appliedVersions versions) :
    versions.contains version = false := by
  rw [Keyed.contains, Option.isSome_eq_false_iff, Option.isNone_iff_eq_none,
    Keyed.find?_eq_none_iff]
  intro row inside same
  exact fresh ((mem_appliedVersions versions version).mpr ⟨row, inside, same⟩)

end Versions

theorem upStands_snoc (history : List Ran) (ran : Ran) (version : String) :
    UpStands (history ++ [ran]) version ↔
      ran.Completes .up version ∨ UpStands history version ∧ ¬ ran.Completes .down version := by
  constructor
  · rintro ⟨front, up, back, split, completes, kept⟩
    rcases List.eq_nil_or_concat back with rfl | ⟨inner, last, rfl⟩
    · obtain ⟨_, same⟩ := List.append_inj' split rfl
      cases same
      exact .inl completes
    · have longer : history ++ [ran] = (front ++ up :: inner) ++ [last] := by simpa using split
      obtain ⟨same, single⟩ := List.append_inj' longer rfl
      cases single
      refine .inr ⟨⟨front, up, inner, same, completes, ?_⟩, kept ran (by simp)⟩
      exact fun later inside => kept later (by simp [inside])
  · rintro (completes | ⟨⟨front, up, back, rfl, completes, kept⟩, stays⟩)
    · exact ⟨history, ran, [], rfl, completes, fun _ none => absurd none List.not_mem_nil⟩
    · refine ⟨front, up, back ++ [ran], by simp, completes, fun later inside => ?_⟩
      rcases List.mem_append.mp inside with early | last
      · exact kept later early
      · rw [List.mem_singleton.mp last]
        exact stays

variable {σ : Type} {start : SchemaVersions} {state : MigrationState σ}

theorem Consistent.initial (engine : σ) (start : SchemaVersions) :
    Consistent start (⟨engine, start, []⟩ : MigrationState σ) where
  recorded := fun version => by
    constructor
    · exact fun inside => .inr ⟨inside, fun _ none => absurd none List.not_mem_nil⟩
    · rintro (⟨front, ran, back, split, _⟩ | ⟨inside, _⟩)
      · exact absurd split (by simp)
      · exact inside
  ups := fun _ none => absurd none List.not_mem_nil
  downs := fun _ none => absurd none List.not_mem_nil

/-- A callable that raises leaves the table. -/
theorem Consistent.failed (consistent : Consistent start state) (engine : σ) {ran : Ran}
    (raised : ran.completed = false) (up : ran.direction = .up → ran.recorded = false)
    (down : ran.direction = .down → ran.recorded = true) :
    Consistent start ⟨engine, state.versions, state.ran ++ [ran]⟩ where
  recorded := fun version => by
    have never (direction : Direction) : ¬ ran.Completes direction version := by
      rintro ⟨_, _, completed⟩
      rw [raised] at completed
      cases completed
    simp [consistent.recorded, upStands_snoc, never, or_imp, forall_and]
  ups := List.forall_mem_append.mpr
    ⟨consistent.ups, List.forall_mem_singleton.mpr up⟩
  downs := List.forall_mem_append.mpr
    ⟨consistent.downs, List.forall_mem_singleton.mpr down⟩

/-- An up that has run to completion is recorded. -/
theorem Consistent.applied (consistent : Consistent start state) (engine : σ)
    (record : MigrationRecord) :
    Consistent start ⟨engine, state.versions.put record,
      state.ran ++ [⟨.up, record.version, false, true⟩]⟩ where
  recorded := fun version => by
    rw [mem_appliedVersions_put, consistent.recorded, upStands_snoc]
    have never : ¬ (⟨.up, record.version, false, true⟩ : Ran).Completes .down version := nofun
    have own : (⟨.up, record.version, false, true⟩ : Ran).Completes .up version ↔
        version = record.version :=
      ⟨fun completes => completes.2.1.symm, fun same => ⟨rfl, same.symm, rfl⟩⟩
    simp only [own, never, not_false_eq_true, and_true, List.mem_append, List.mem_singleton, or_imp,
      forall_and, forall_eq, or_assoc]
  ups := List.forall_mem_append.mpr
    ⟨consistent.ups, List.forall_mem_singleton.mpr (fun _ => rfl)⟩
  downs := List.forall_mem_append.mpr
    ⟨consistent.downs, List.forall_mem_singleton.mpr nofun⟩

/-- The record of a version whose down has run to completion is removed. -/
theorem Consistent.rolledBack (consistent : Consistent start state) (engine : σ)
    (version : String) :
    Consistent start ⟨engine, state.versions.erase version,
      state.ran ++ [⟨.down, version, true, true⟩]⟩ where
  recorded := fun other => by
    rw [mem_appliedVersions_erase, consistent.recorded, upStands_snoc]
    have never : ¬ (⟨.down, version, true, true⟩ : Ran).Completes .up other := nofun
    have own : (⟨.down, version, true, true⟩ : Ran).Completes .down other ↔ other = version :=
      ⟨fun completes => completes.2.1.symm, fun same => ⟨rfl, same.symm, rfl⟩⟩
    simp only [own, never, false_or, List.mem_append, List.mem_singleton, or_imp, forall_and,
      forall_eq, ← and_assoc, ← or_and_right, ne_eq]
  ups := List.forall_mem_append.mpr
    ⟨consistent.ups, List.forall_mem_singleton.mpr nofun⟩
  downs := List.forall_mem_append.mpr
    ⟨consistent.downs, List.forall_mem_singleton.mpr (fun _ => rfl)⟩

section Turns

variable (clock : String → Timestamp)

/-- A callable raises, or returns; the table stays. -/
theorem runCallable_cases (direction : Direction) (version : String) (callable : Py σ Unit)
    (state : MigrationState σ) :
    (∃ exc engine, call (runCallable direction version callable) state =
      (.error exc, ⟨engine, state.versions,
        state.ran ++ [⟨direction, version, isApplied state.versions version, false⟩]⟩)) ∨
    ∃ engine, call (runCallable direction version callable) state =
      (.ok (), ⟨engine, state.versions,
        state.ran ++ [⟨direction, version, isApplied state.versions version, true⟩]⟩) := by
  unfold runCallable
  rcases ended : call callable state.engine with ⟨exc | value, engine⟩
  · exact .inl ⟨exc, engine, by simp [onEngine, ended, Except.isOk, Except.toBool]⟩
  · exact .inr ⟨engine, by simp [onEngine, ended, Except.isOk, Except.toBool]⟩

theorem applyOne_cases (migration : Migration σ) (state : MigrationState σ)
    (fresh : migration.version ∉ appliedVersions state.versions) :
    (∃ exc engine, call (applyOne clock migration) state =
      (.error exc, ⟨engine, state.versions,
        state.ran ++ [⟨.up, migration.version, false, false⟩]⟩)) ∨
    ∃ engine, call (applyOne clock migration) state =
      (.ok (), ⟨engine, state.versions.put
          ⟨migration.version, migration.description, clock migration.version⟩,
        state.ran ++ [⟨.up, migration.version, false, true⟩]⟩) := by
  have unrecorded : isApplied state.versions migration.version = false := decide_eq_false fresh
  have free := contains_eq_false state.versions migration.version fresh
  unfold applyOne
  rcases runCallable_cases .up migration.version migration.up state with
    ⟨exc, engine, raised⟩ | ⟨engine, returned⟩
  · rw [unrecorded] at raised
    exact .inl ⟨exc, engine, by rw [call_bind, raised, andThen_error]⟩
  · rw [unrecorded] at returned
    refine .inr ⟨engine, ?_⟩
    rw [call_bind, returned, andThen_ok]
    simp [onTracker, recordApplied, free]

theorem rollBackOne_cases (version : String) (down : Py σ Unit) (state : MigrationState σ)
    (recorded : version ∈ appliedVersions state.versions) :
    (∃ exc engine, call (rollBackOne version down) state =
      (.error exc, ⟨engine, state.versions, state.ran ++ [⟨.down, version, true, false⟩]⟩)) ∨
    ∃ engine, call (rollBackOne version down) state =
      (.ok (), ⟨engine, state.versions.erase version,
        state.ran ++ [⟨.down, version, true, true⟩]⟩) := by
  have present : isApplied state.versions version = true := decide_eq_true recorded
  unfold rollBackOne
  rcases runCallable_cases .down version down state with ⟨exc, engine, raised⟩ | ⟨engine, returned⟩
  · rw [present] at raised
    exact .inl ⟨exc, engine, by rw [call_bind, raised, andThen_error]⟩
  · rw [present] at returned
    refine .inr ⟨engine, ?_⟩
    rw [call_bind, returned, andThen_ok]
    simp [onTracker, removeRecord]

/-- The wrapper raises where the turn does, and leaves what it left. -/
theorem call_wrapping (message : String) (turn : MigrationPy σ Unit) (state : MigrationState σ) :
    call (wrapping message turn) state =
      ((call turn state).1.mapError (fun exc => .migration (message ++ " failed: " ++ exc.text)),
        (call turn state).2) := by
  unfold wrapping
  rw [call_bind, call_attempt, andThen_ok]
  rcases call turn state with ⟨exc | value, after⟩ <;> rfl

end Turns

/-- The loop of `migrate_up` over versions that are not recorded. -/
theorem Consistent.applyAll (clock : String → Timestamp) {migrations : List (Migration σ)}
    (distinct : (migrations.map Migration.version).Nodup)
    (fresh : ∀ migration ∈ migrations, migration.version ∉ appliedVersions state.versions)
    (consistent : Consistent start state) :
    Consistent start (call (applyAll clock migrations) state).2 := by
  induction migrations generalizing state with
  | nil => exact consistent
  | cons migration rest ih =>
      obtain ⟨apart, distinct⟩ := List.nodup_cons.mp distinct
      unfold MigrationRunner.applyAll
      rw [call_bind, call_wrapping]
      rcases applyOne_cases clock migration state (fresh migration List.mem_cons_self) with
        ⟨exc, engine, raised⟩ | ⟨engine, returned⟩
      · rw [raised]
        exact consistent.failed engine rfl (fun _ => rfl) nofun
      · rw [returned]
        have fresh' : ∀ other ∈ rest, other.version ∉ appliedVersions (state.versions.put
            ⟨migration.version, migration.description, clock migration.version⟩) := by
          intro other inside recorded
          rcases (mem_appliedVersions_put _ _ _).mp recorded with same | old
          · have twin : other.version = migration.version := same
            exact apart (twin ▸ List.mem_map_of_mem inside)
          · exact fresh other (List.mem_cons_of_mem _ inside) old
        have later := ih distinct fresh' (consistent.applied engine _)
        exact bind_ends later (fun _ _ => later)

/-- The loop of `migrate_down`: what it still finds in the list of applied versions is recorded. -/
theorem Consistent.rollBack (version : String) (applied : List String)
    {migrations : List (Migration σ)} (distinct : (migrations.map Migration.version).Nodup)
    (recorded : ∀ migration ∈ migrations, migration.version ∈ applied →
      migration.version ∈ appliedVersions state.versions)
    (consistent : Consistent start state) :
    Consistent start (call (rollBack version applied migrations) state).2 := by
  induction migrations generalizing state with
  | nil => exact consistent
  | cons migration rest ih =>
      obtain ⟨apart, distinct⟩ := List.nodup_cons.mp distinct
      unfold MigrationRunner.rollBack
      split
      · exact ih distinct
          (fun other inside => recorded other (List.mem_cons_of_mem _ inside)) consistent
      · rename_i listed
        have present := recorded migration List.mem_cons_self (not_not.mp listed)
        cases migration.down with
        | none => exact consistent
        | some down =>
            dsimp only
            rw [call_bind, call_wrapping]
            rcases rollBackOne_cases migration.version down state present with
              ⟨exc, engine, raised⟩ | ⟨engine, returned⟩
            · rw [raised]
              exact consistent.failed engine rfl nofun (fun _ => rfl)
            · rw [returned]
              have recorded' : ∀ other ∈ rest, other.version ∈ applied →
                  other.version ∈ appliedVersions (state.versions.erase migration.version) := by
                intro other inside among
                refine (mem_appliedVersions_erase _ _ _).mpr
                  ⟨recorded other (List.mem_cons_of_mem _ inside) among, fun same => ?_⟩
                exact apart (same ▸ List.mem_map_of_mem inside)
              have reached := consistent.rolledBack engine migration.version
              have later := ih distinct recorded' reached
              show Consistent start (call (ite _ _ _) _).2
              split
              · exact reached
              · exact bind_ends later (fun _ _ => later)

theorem migrationStep_consistent (runner : MigrationRunner σ)
    (distinct : (runner.migrations.map Migration.version).Nodup) (state : MigrationState σ)
    (migrationCall : MigrationCall) (consistent : Consistent start state) :
    Consistent start (migrationStep runner state migrationCall).2 := by
  cases migrationCall with
  | migrateUp clock =>
      refine Consistent.applyAll clock ((List.filter_sublist.map _).nodup distinct) ?_ consistent
      intro migration inside
      simpa using (List.mem_filter.mp inside).2
  | migrateDown version =>
      have reversed : (runner.migrations.reverse.map Migration.version).Nodup := by
        rw [List.map_reverse]
        exact List.nodup_reverse.mpr distinct
      have later := Consistent.rollBack version (appliedVersions state.versions) reversed
        (fun _ _ listed => listed) consistent
      rw [migrationStep, MigrationCall.program, migrateDown, call_bind, call_get, andThen_ok]
      by_cases listed : version ∈ appliedVersions state.versions
      · simpa [listed] using later
      · simpa [listed] using consistent

/-- The callable of a migration in a direction, where it has one. -/
def Migration.callable (migration : Migration σ) : Direction → Option (Py σ Unit)
  | .up => some migration.up
  | .down => migration.down

/-- The noted callable is one of the runner's; it leads from the one engine to the other, and
returns or raises as it is noted. -/
def MigrationRunner.Executes (runner : MigrationRunner σ) (before : σ) (ran : Ran) (after : σ) :
    Prop :=
  ∃ migration ∈ runner.migrations, migration.version = ran.version ∧
    ∃ callable, migration.callable ran.direction = some callable ∧
      (call callable before).1.isOk = ran.completed ∧ (call callable before).2 = after

/-- The engine is what the noted callables, one after another, have made of it. -/
def Chronicled (runner : MigrationRunner σ) (engine : σ) (state : MigrationState σ) : Prop :=
  Steps runner.Executes engine state.ran state.engine

section Chronicles

variable {runner : MigrationRunner σ} {engine : σ} {migration : Migration σ}

/-- The runner touches the engine by a callable only, and notes each that it runs. -/
theorem runCallable_chronicled (inside : migration ∈ runner.migrations) {direction : Direction}
    {callable : Py σ Unit} (given : migration.callable direction = some callable) :
    Ensures (Chronicled runner engine) (fun _ => True)
      (runCallable direction migration.version callable) := by
  intro state held
  refine ⟨fun _ _ => trivial, ?_⟩
  have noted : (call (runCallable direction migration.version callable) state).2 =
      ⟨(call callable state.engine).2, state.versions, state.ran ++
        [⟨direction, migration.version, isApplied state.versions migration.version,
          (call callable state.engine).1.isOk⟩]⟩ := by
    unfold runCallable
    simp [onEngine]
  rw [noted]
  exact Steps.append held (.single ⟨migration, inside, rfl, callable, given, rfl, rfl⟩)

theorem onTracker_chronicled {α : Type} (program : Py SchemaVersions α) :
    Ensures (Chronicled runner engine) (fun _ => True) (onTracker program) := by
  intro state held
  rw [onTracker, call_onPart]
  exact ⟨fun _ _ => trivial, held⟩

theorem wrapping_chronicled {turn : MigrationPy σ Unit} (message : String)
    (keeps : Ensures (Chronicled runner engine) (fun _ => True) turn) :
    Ensures (Chronicled runner engine) (fun _ => True) (wrapping message turn) := by
  refine keeps.attempt.bind fun answer _ => ?_
  cases answer with
  | ok _ => exact .pure trivial
  | error exc => exact .throw _

theorem applyAll_chronicled (clock : String → Timestamp) {migrations : List (Migration σ)}
    (within : ∀ migration ∈ migrations, migration ∈ runner.migrations) :
    Ensures (Chronicled runner engine) (fun _ => True) (applyAll clock migrations) := by
  induction migrations with
  | nil => exact .pure trivial
  | cons migration rest ih =>
      obtain ⟨inside, others⟩ := List.forall_mem_cons.mp within
      have turn : Ensures (Chronicled runner engine) (fun _ => True) (applyOne clock migration) :=
        (runCallable_chronicled inside rfl).bind fun _ _ => onTracker_chronicled _
      exact (wrapping_chronicled _ turn).bind fun _ _ => (ih others).bind fun _ _ => .pure trivial

theorem rollBack_chronicled (version : String) (applied : List String)
    {migrations : List (Migration σ)}
    (within : ∀ migration ∈ migrations, migration ∈ runner.migrations) :
    Ensures (Chronicled runner engine) (fun _ => True) (rollBack version applied migrations) := by
  induction migrations with
  | nil => exact .pure trivial
  | cons migration rest ih =>
      obtain ⟨inside, others⟩ := List.forall_mem_cons.mp within
      refine .ite (ih others) ?_
      cases given : migration.down with
      | none => exact .throw _
      | some down =>
          have taken : migration.callable .down = some down := given
          have turn : Ensures (Chronicled runner engine) (fun _ => True)
              (rollBackOne migration.version down) :=
            (runCallable_chronicled inside taken).bind fun _ _ => onTracker_chronicled _
          refine (wrapping_chronicled _ turn).bind fun _ _ => .ite (.pure trivial) ?_
          exact (ih others).bind fun _ _ => .pure trivial

theorem migrationStep_chronicled (state : MigrationState σ) (migrationCall : MigrationCall)
    (held : Chronicled runner engine state) :
    Chronicled runner engine (migrationStep runner state migrationCall).2 := by
  have keeps : Ensures (Chronicled runner engine) (fun _ => True)
      (migrationCall.program runner) := by
    cases migrationCall with
    | migrateUp clock =>
        refine Ensures.get.bind fun state _ => applyAll_chronicled clock ?_
        exact fun migration inside => (List.mem_filter.mp inside).1
    | migrateDown version =>
        refine Ensures.get.bind fun state _ => .ite (.throw_bind _) (rollBack_chronicled _ _ ?_)
        exact fun migration inside => List.mem_reverse.mp inside
  exact (keeps state held).2

end Chronicles

/-- What is noted is what was run: in every state a run reaches, the engine is what the noted
callables made of it, in order, and each of them returned or raised as it is noted. -/
theorem ran_executed (runner : MigrationRunner σ) (engine : σ) (start : SchemaVersions)
    (calls : List MigrationCall) :
    Chronicled runner engine (run (migrationStep runner) ⟨engine, start, []⟩ calls).2 := by
  have initial : Chronicled runner engine ⟨engine, start, []⟩ := Steps.nil engine
  exact run_invariant migrationStep_chronicled initial calls

/-- In every state a run of a runner with distinct versions reaches, the table is what the
callables that ran to completion make it, and none of them was run in vain. -/
theorem applied_versions_consistent (runner : MigrationRunner σ)
    (distinct : (runner.migrations.map Migration.version).Nodup) (engine : σ)
    (start : SchemaVersions) (calls : List MigrationCall) :
    Consistent start (run (migrationStep runner) ⟨engine, start, []⟩ calls).2 :=
  run_invariant (fun state migrationCall consistent =>
    migrationStep_consistent runner distinct state migrationCall consistent)
    (.initial engine start) calls

/-- A runner whose second migration cannot be applied. -/
def halting : MigrationRunner Nat where
  migrations :=
    [⟨"001", modify (· + 1), "init", some (modify (· - 1))⟩,
      ⟨"002", throw (.runtimeError "boom"), "", none⟩]

theorem halting_consistent :
    Consistent Keyed.empty (run (migrationStep halting) ⟨0, Keyed.empty, []⟩
      [.migrateUp (fun _ => 0), .migrateDown "001", .migrateDown "002"]).2 :=
  applied_versions_consistent halting (by decide) 0 Keyed.empty _

end LexMind.Metadata
