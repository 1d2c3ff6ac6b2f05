import LexMind.Metadata.AppliedVersions

set_option autoImplicit false

/- How far `migrate_down` goes back. -/
namespace LexMind.Metadata

open Lib MigrationTracker MigrationRunner

/-- The start of a list up to the version, or all of it. -/
def upTo (version : String) : List String → List String
  | [] => []
  | first :: rest => if first = version then [first] else first :: upTo version rest

/-- The versions that are registered from one on, as far as they are applied. -/
def appliedFrom (registered applied : List String) (version : String) : List String :=
  (registered.dropWhile (· ≠ version)).filter (· ∈ applied)

/-- A rollback to a version: the applied ones from it on, and only they, are taken back, the latest
first, each by its down. -/
structure RolledBack {σ : Type} (before after : MigrationState σ) (version : String)
    (rolledBack : List String) : Prop where
  latestFirst : rolledBack =
    ((appliedVersions before.versions).filter (fun other => version ≤ other)).reverse
  ran : after.ran = before.ran ++ rolledBack.map (⟨.down, ·, true, true⟩)
  left : ∀ other, other ∈ appliedVersions after.versions ↔
    other ∈ appliedVersions before.versions ∧ other < version

/-- From the version on, the registration agrees with the order of the versions. -/
structure InOrder (registered applied : List String) (version : String) : Prop where
  known : version ∈ registered
  ascending : (appliedFrom registered applied version).Pairwise (· < ·)
  complete : ∀ other ∈ applied, version < other → other ∈ registered.dropWhile (· ≠ version)

variable {σ : Type} {state : MigrationState σ}

theorem mem_upTo {version other : String} {versions : List String}
    (inside : other ∈ upTo version versions) : other ∈ versions := by
  induction versions with
  | nil => cases inside
  | cons first rest ih =>
      rw [upTo] at inside
      split at inside
      · rw [List.mem_singleton.mp inside]
        exact List.mem_cons_self
      · rcases List.mem_cons.mp inside with rfl | later
        · exact List.mem_cons_self
        · exact List.mem_cons_of_mem _ (ih later)

theorem upTo_append {version : String} {front : List String} (fresh : version ∉ front)
    (back : List String) : upTo version (front ++ version :: back) = front ++ [version] := by
  induction front with
  | nil => rw [List.nil_append, upTo, if_pos rfl, List.nil_append]
  | cons first rest ih =>
      obtain ⟨differs, fresh⟩ := not_or.mp (mt List.mem_cons.mpr fresh)
      rw [List.cons_append, upTo, if_neg (Ne.symm differs), ih fresh, List.cons_append]

/-- What the loop of `migrate_down` does at an applied migration, where it returns: it takes it
back, and goes on where it is not the given one. -/
theorem rollBack_turn {version : String} {applied : List String} {migration : Migration σ}
    {rest : List (Migration σ)} (listed : migration.version ∈ applied)
    (recorded : migration.version ∈ appliedVersions state.versions)
    {rolledBack : List String} {after : MigrationState σ}
    (returned : call (rollBack version applied (migration :: rest)) state = (.ok rolledBack, after)) :
    ∃ next : MigrationState σ,
      next.versions = state.versions.erase migration.version ∧
      next.ran = state.ran ++ [⟨.down, migration.version, true, true⟩] ∧
      (migration.version = version ∧ rolledBack = [migration.version] ∧ after = next ∨
        migration.version ≠ version ∧ ∃ later,
          call (rollBack version applied rest) next = (.ok later, after) ∧
          rolledBack = migration.version :: later) := by
  rw [MigrationRunner.rollBack, if_neg (not_not.mpr listed)] at returned
  cases offered : migration.down with
  | none => simp [offered] at returned
  | some down =>
      simp only [offered] at returned
      rw [call_bind, call_wrapping] at returned
      rcases rollBackOne_cases migration.version down state recorded with
        ⟨exc, engine, raised⟩ | ⟨engine, reached⟩
      · rw [raised] at returned
        cases returned
      · rw [reached] at returned
        simp only [Except.mapError, andThen_ok] at returned
        refine ⟨⟨engine, state.versions.erase migration.version,
          state.ran ++ [⟨.down, migration.version, true, true⟩]⟩, rfl, rfl, ?_⟩
        by_cases last : migration.version = version
        · rw [if_pos last] at returned
          cases returned
          exact .inl ⟨last, rfl, rfl⟩
        · rw [if_neg last] at returned
          obtain ⟨later, _, looped, ended⟩ := returned_of_call_bind returned
          cases ended
          exact .inr ⟨last, later, looped, rfl⟩

/-- The loop of `migrate_down`, where it returns: it takes back the applied versions that it comes
across up to the given one. -/
theorem rollBack_returns (version : String) (applied : List String)
    {migrations : List (Migration σ)} (distinct : (migrations.map Migration.version).Nodup)
    (recorded : ∀ migration ∈ migrations, migration.version ∈ applied →
      migration.version ∈ appliedVersions state.versions)
    {rolledBack : List String} {after : MigrationState σ}
    (returned : call (rollBack version applied migrations) state = (.ok rolledBack, after)) :
    rolledBack = upTo version ((migrations.map Migration.version).filter (· ∈ applied)) ∧
      after.ran = state.ran ++ rolledBack.map (⟨.down, ·, true, true⟩) ∧
      ∀ other, other ∈ appliedVersions after.versions ↔
        other ∈ appliedVersions state.versions ∧ other ∉ rolledBack := by
  induction migrations generalizing state rolledBack with
  | nil =>
      cases returned
      exact ⟨rfl, (List.append_nil _).symm, fun other => (and_iff_left List.not_mem_nil).symm⟩
  | cons migration rest ih =>
      obtain ⟨apart, distinct⟩ := List.nodup_cons.mp distinct
      have recorded' : ∀ other ∈ rest, other.version ∈ applied →
          other.version ∈ appliedVersions state.versions :=
        fun other inside => recorded other (List.mem_cons_of_mem _ inside)
      rw [List.map_cons]
      by_cases listed : migration.version ∈ applied
      · rw [List.filter_cons_of_pos (by simpa using listed), upTo]
        obtain ⟨next, versions, ran, ⟨last, rfl, rfl⟩ | ⟨further, later, looped, rfl⟩⟩ :=
          rollBack_turn listed (recorded migration List.mem_cons_self listed) returned
        · rw [if_pos last]
          refine ⟨rfl, ran, fun other => ?_⟩
          rw [versions, mem_appliedVersions_erase, List.mem_singleton]
        · rw [if_neg further]
          have remaining : ∀ other ∈ rest, other.version ∈ applied →
              other.version ∈ appliedVersions next.versions := by
            intro other inside among
            rw [versions]
            refine (mem_appliedVersions_erase _ _ _).mpr
              ⟨recorded' other inside among, fun same => ?_⟩
            exact apart (same ▸ List.mem_map_of_mem inside)
          obtain ⟨same, downs, left⟩ := ih distinct remaining looped
          refine ⟨by rw [← same], ?_, fun other => ?_⟩
          · rw [downs, ran, List.map_cons, List.append_assoc, List.singleton_append]
          · rw [left, versions, mem_appliedVersions_erase, List.mem_cons, not_or, and_assoc]
      · rw [MigrationRunner.rollBack, if_pos listed] at returned
        rw [List.filter_cons_of_neg (by simpa using listed)]
        exact ih distinct recorded' returned

/-- The list from a version on. -/
theorem cut_at {registered : List String} {version : String} (known : version ∈ registered) :
    ∃ front back, registered = front ++ version :: back ∧ version ∉ front ∧
      registered.dropWhile (· ≠ version) = version :: back := by
  obtain ⟨front, back, rfl, fresh⟩ := List.eq_append_cons_of_mem known
  refine ⟨front, back, rfl, fresh, ?_⟩
  rw [List.dropWhile_append_of_pos, List.dropWhile_cons_of_neg (by simp)]
  exact fun other inside => decide_eq_true (fun same => fresh (same ▸ inside))

/-- Where the version is registered and applied, the loop comes across what is registered from it
on. -/
theorem upTo_reverse {registered applied : List String} {version : String}
    (distinct : registered.Nodup) (known : version ∈ registered) (listed : version ∈ applied) :
    upTo version (registered.reverse.filter (· ∈ applied)) =
      (appliedFrom registered applied version).reverse := by
  obtain ⟨front, back, rfl, _, cut⟩ := cut_at known
  obtain ⟨_, tail, _⟩ := List.nodup_append.mp distinct
  have late : version ∉ back.reverse.filter (· ∈ applied) := by
    simp [(List.nodup_cons.mp tail).1]
  rw [appliedFrom, cut, List.reverse_append, List.reverse_cons, List.append_assoc,
    List.singleton_append, List.filter_append, List.filter_cons_of_pos (by simpa using listed),
    List.filter_cons_of_pos (by simpa using listed), upTo_append late, List.reverse_cons,
    List.filter_reverse]

theorem mem_appliedFrom (registered applied : List String) (version other : String) :
    other ∈ appliedFrom registered applied version ↔
      other ∈ registered.dropWhile (· ≠ version) ∧ other ∈ applied := by
  rw [appliedFrom, List.mem_filter, decide_eq_true_eq]

theorem appliedVersions_ascending (versions : SchemaVersions) :
    (appliedVersions versions).Pairwise (· < ·) := by
  have sorted : (appliedVersions versions).Pairwise
      (fun first second => decide (first ≤ second)) := by
    refine List.pairwise_mergeSort (fun first second third below above => ?_)
      (fun first second => ?_) _
    · exact decide_eq_true (String.le_trans (of_decide_eq_true below) (of_decide_eq_true above))
    · simp [String.le_total first second]
  have distinct : (appliedVersions versions).Nodup :=
    (List.mergeSort_perm _ _).nodup_iff.mpr versions.distinct
  refine (sorted.and distinct).imp (fun both => ?_)
  exact String.not_le.mp
    (fun above => both.2 (String.le_antisymm (of_decide_eq_true both.1) above))

/-- A registration that agrees with the order of the versions lists just the later ones from the
version on. -/
theorem InOrder.appliedFrom_eq {registered applied : List String} {version : String}
    (inOrder : InOrder registered applied version) (sorted : applied.Pairwise (· < ·))
    (listed : version ∈ applied) :
    appliedFrom registered applied version =
      applied.filter (fun other => version ≤ other) := by
  have head : ∃ back, appliedFrom registered applied version = version :: back := by
    obtain ⟨_, _, _, _, cut⟩ := cut_at inOrder.known
    exact ⟨_, by rw [appliedFrom, cut, List.filter_cons_of_pos (by simpa using listed)]⟩
  have above : ∀ other ∈ appliedFrom registered applied version, version ≤ other := by
    obtain ⟨back, split⟩ := head
    have ascending := inOrder.ascending
    rw [split] at ascending ⊢
    intro other inside
    rcases List.mem_cons.mp inside with rfl | later
    · exact String.le_refl _
    · exact String.not_lt.mp (String.lt_asymm ((List.pairwise_cons.mp ascending).1 other later))
  have members : ∀ other, other ∈ appliedFrom registered applied version ↔
      other ∈ applied.filter (fun other => version ≤ other) := by
    intro other
    rw [List.mem_filter, decide_eq_true_eq]
    constructor
    · exact fun inside => ⟨((mem_appliedFrom _ _ _ _).mp inside).2, above other inside⟩
    · rintro ⟨inside, later⟩
      by_cases same : other = version
      · obtain ⟨back, split⟩ := head
        rw [split, same]
        exact List.mem_cons_self
      · have further : version < other :=
          String.not_le.mp (fun below => same (String.le_antisymm below later))
        exact (mem_appliedFrom _ _ _ _).mpr ⟨inOrder.complete other inside further, inside⟩
  have unique {versions : List String} (ascending : versions.Pairwise (· < ·)) : versions.Nodup :=
    List.Pairwise.imp (fun {first second} (below : first < second) (same : first = second) =>
      String.lt_irrefl second (same ▸ below)) ascending
  refine List.Perm.eq_of_pairwise (fun first second _ _ below above => ?_) inOrder.ascending
    (sorted.filter _) ((List.perm_ext_iff_of_nodup (unique inOrder.ascending)
      (unique (sorted.filter _))).mpr members)
  exact absurd below (String.lt_asymm above)

theorem inOrder_iff {registered applied : List String} {version : String}
    (sorted : applied.Pairwise (· < ·)) (listed : version ∈ applied) :
    InOrder registered applied version ↔ version ∈ registered ∧
      appliedFrom registered applied version = applied.filter (fun other => version ≤ other) := by
  constructor
  · exact fun inOrder => ⟨inOrder.known, inOrder.appliedFrom_eq sorted listed⟩
  · rintro ⟨known, same⟩
    refine ⟨known, same ▸ sorted.filter _, fun other inside later => ?_⟩
    have among : other ∈ applied.filter (fun other => version ≤ other) :=
      List.mem_filter.mpr ⟨inside, decide_eq_true (String.not_lt.mp (String.lt_asymm later))⟩
    rw [← same] at among
    exact ((mem_appliedFrom _ _ _ _).mp among).1

/-- A migration whose down exists and never raises. -/
def Migration.Reversible (migration : Migration σ) : Prop :=
  ∃ down, migration.down = some down ∧ ∀ engine, (call down engine).1 = .ok ()

theorem rollBackOne_returns (version : String) {down : Py σ Unit}
    (succeeds : ∀ engine, (call down engine).1 = .ok ()) (state : MigrationState σ) :
    (call (rollBackOne version down) state).1 = .ok () := by
  have ended := succeeds state.engine
  rcases reached : call down state.engine with ⟨answer, engine⟩
  rw [reached] at ended
  have answered : answer = .ok () := ended
  simp [rollBackOne, runCallable, onEngine, onTracker, removeRecord, reached, answered]

/-- The loop returns where the applied migrations can be reversed. -/
theorem rollBack_of_reversible (version : String) (applied : List String)
    {migrations : List (Migration σ)}
    (reversible : ∀ migration ∈ migrations, migration.version ∈ applied → migration.Reversible)
    (state : MigrationState σ) :
    ∃ rolledBack after, call (rollBack version applied migrations) state = (.ok rolledBack, after) := by
  induction migrations generalizing state with
  | nil => exact ⟨[], state, rfl⟩
  | cons migration rest ih =>
      have later := ih (fun other inside => reversible other (List.mem_cons_of_mem _ inside))
      by_cases listed : migration.version ∈ applied
      · obtain ⟨down, offered, succeeds⟩ := reversible migration List.mem_cons_self listed
        rw [rollBack, if_neg (not_not.mpr listed)]
        simp only [offered]
        rw [call_bind, call_wrapping, rollBackOne_returns migration.version succeeds state]
        simp only [Except.mapError, andThen_ok]
        split
        · exact ⟨_, _, rfl⟩
        · obtain ⟨rolledBack, after, returned⟩ :=
            later (call (rollBackOne migration.version down) state).2
          rw [call_bind, returned]
          exact ⟨_, _, rfl⟩
      · rw [rollBack, if_pos listed]
        exact later state

/-- Where it returns, `migrate_down` takes back exactly the applied versions from the given one on,
the latest first, just where the migrations registered from that version on stand in the order of
their versions and no later version is missing from them. -/
theorem migrate_down_exact_iff (runner : MigrationRunner σ)
    (distinct : (runner.migrations.map Migration.version).Nodup) (state : MigrationState σ)
    (version : String) {rolledBack : List String} {after : MigrationState σ}
    (returned : migrationStep runner state (.migrateDown version) = (.ok rolledBack, after)) :
    RolledBack state after version rolledBack ↔
      InOrder (runner.migrations.map Migration.version) (appliedVersions state.versions)
        version := by
  rw [migrationStep, MigrationCall.program, migrateDown, call_bind, call_get, andThen_ok] at returned
  by_cases listed : version ∈ appliedVersions state.versions
  · simp only [listed, not_true_eq_false, ↓reduceIte] at returned
    have reversed : (runner.migrations.reverse.map Migration.version).Nodup := by
      rw [List.map_reverse]
      exact List.nodup_reverse.mpr distinct
    obtain ⟨taken, ran, left⟩ := rollBack_returns version (appliedVersions state.versions) reversed
      (fun _ _ recorded => recorded) returned
    rw [List.map_reverse] at taken
    rw [inOrder_iff (appliedVersions_ascending state.versions) listed]
    constructor
    · intro exact
      have known : version ∈ runner.migrations.map Migration.version := by
        have own : version ∈ rolledBack := by
          rw [exact.latestFirst, List.mem_reverse, List.mem_filter]
          exact ⟨listed, decide_eq_true (String.le_refl version)⟩
        rw [taken] at own
        exact List.mem_reverse.mp (List.mem_of_mem_filter (mem_upTo own))
      rw [upTo_reverse distinct known listed, exact.latestFirst] at taken
      exact ⟨known, (List.reverse_injective taken).symm⟩
    · rintro ⟨known, same⟩
      rw [upTo_reverse distinct known listed, same] at taken
      refine ⟨taken, ran, fun other => ?_⟩
      rw [left, taken, List.mem_reverse, List.mem_filter, decide_eq_true_eq]
      constructor
      · rintro ⟨inside, kept⟩
        exact ⟨inside, String.not_le.mp (fun above => kept ⟨inside, above⟩)⟩
      · rintro ⟨inside, below⟩
        exact ⟨inside, fun kept => String.not_le.mpr below kept.2⟩
  · simp [listed] at returned

/-- A runner that no longer registers the second of three migrations. -/
def shortened : MigrationRunner Nat where
  migrations :=
    [⟨"001", modify (· + 1), "", some (modify (· - 1))⟩,
      ⟨"003", modify (· + 1), "", some (modify (· - 1))⟩]

/-- What all three have left. -/
def migrated : MigrationState Nat where
  engine := 3
  versions := ["001", "002", "003"].foldl (fun table version => table.put ⟨version, "", 0⟩) .empty
  ran := []

theorem migrated_versions : appliedVersions migrated.versions = ["001", "002", "003"] :=
  List.mergeSort_of_pairwise (by decide)

theorem shortened_latest :
    (migrationStep shortened migrated (.migrateDown "003")).1 = .ok ["003"] := by
  simp [migrationStep, MigrationCall.program, migrateDown, migrated_versions, shortened, rollBack,
    wrapping, rollBackOne, runCallable, onEngine, onTracker, removeRecord]

theorem migrate_down_exact_iff_latest :
    RolledBack migrated (migrationStep shortened migrated (.migrateDown "003")).2 "003" ["003"] := by
  refine (migrate_down_exact_iff shortened (by decide) migrated "003"
    (Prod.ext shortened_latest rfl)).mpr ?_
  rw [migrated_versions]
  exact ⟨by decide, by decide, by decide⟩

/-- The version that is not registered stays, and what came before it is taken back. -/
theorem migrate_down_unregistered :
    (migrationStep shortened migrated (.migrateDown "002")).1 = .ok ["003", "001"] ∧
      ¬ RolledBack migrated (migrationStep shortened migrated (.migrateDown "002")).2 "002"
        ["003", "001"] := by
  constructor
  · simp [migrationStep, MigrationCall.program, migrateDown, migrated_versions, shortened, rollBack,
      wrapping, rollBackOne, runCallable, onEngine, onTracker, removeRecord]
  · intro exact
    have listed := exact.latestFirst
    rw [migrated_versions] at listed
    revert listed
    decide

end LexMind.Metadata
