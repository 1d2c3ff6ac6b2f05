import LexMind.Storage.Listing
import LexMind.Storage.Saving
import Mathlib.Data.Finset.Lattice.Fold

set_option autoImplicit false

/- What a copy or a move leaves at its destination, at its source and elsewhere. -/
namespace LexMind.Storage

open Lib Host FileTree

section Contracts

/-- The target holds what the source held, and only directories above it may be new elsewhere. -/
structure Copied (before after : HostTree) (source target : HostPath) : Prop where
  holds : ∀ rest, after.node (target ++ rest) = before.node (source ++ rest)
  outside : ∀ other, ¬ target <+: other → KeepsUpToParents before after target other

/-- The target holds what the source held, the source is gone, and only directories above the
target may be new elsewhere. -/
structure Moved (before after : HostTree) (source target : HostPath) : Prop where
  holds : ∀ rest, after.node (target ++ rest) = before.node (source ++ rest)
  gone : after.node source = none
  outside : ∀ other, ¬ target <+: other → ¬ source <+: other →
    KeepsUpToParents before after target other

/-- Nothing but the two of them changes, not even above the target. -/
def NothingElse (before after : HostTree) (source target : HostPath) : Prop :=
  ∀ other, ¬ target <+: other → ¬ source <+: other → after.node other = before.node other

end Contracts

section Host

variable {tree : HostTree} {source target : HostPath}

/-- Neither path is at or below the other. -/
structure Apart (source target : HostPath) : Prop where
  below : ¬ source <+: target
  above : ¬ target <+: source

theorem Apart.strict (apart : Apart source target) : source ≠ [] := by
  rintro rfl
  exact apart.below List.nil_prefix

theorem Apart.strict' (apart : Apart source target) : target ≠ [] := by
  rintro rfl
  exact apart.above List.nil_prefix

theorem Apart.ne (apart : Apart source target) : target ≠ source := fun same =>
  apart.above (same ▸ List.prefix_refl _)

/-- Nothing at or below the source is where the file or directory arrives. -/
theorem Apart.landing (apart : Apart source target) : Apart source (landing tree source target) := by
  refine ⟨fun inside => ?_, fun outside => apart.above (target_prefix_landing.trans outside)⟩
  unfold Host.landing at inside
  split at inside
  · rcases List.prefix_concat_iff.mp inside with same | shorter
    · exact apart.above (same ▸ List.prefix_append target _)
    · exact apart.below shorter
  · exact apart.below inside

theorem descends_eq_false (apart : Apart source target) : descends tree source target = false := by
  unfold descends
  rw [show source.isPrefixOf target = false from
    Bool.eq_false_iff.mpr fun inside => apart.below (List.isPrefixOf_iff_prefix.mp inside)]

/-- A directory is copied to a path where nothing stands. -/
theorem call_copytree (apart : Apart source target) (endless : Endless) (final : HostTree) :
    call (copytree source target endless) tree = (.ok (), final) ↔
      tree.node target = none ∧ tree.blocked target = false ∧
        final = tree.graft target (tree.below source) := by
  simp only [copytree, call_bind, call_get, andThen_ok, call_ite, call_throw, call_set,
    descends_eq_false apart, Bool.false_eq_true, if_false]
  by_cases present : (tree.node target).isSome = true
  · rw [if_pos present]
    refine iff_of_false (by simp) ?_
    rintro ⟨none, _⟩
    rw [none] at present
    cases present
  · rw [if_neg present]
    have free := Option.not_isSome_iff_eq_none.mp present
    cases blocked : tree.blocked target with
    | true => simp
    | false => simp [free, eq_comm]

/-- A file is written where it lands, unless a directory is there. -/
theorem call_copy2 (apart : Apart source target) (data : Bytes) (final : HostTree) :
    call (copy2 source target data) tree = (.ok (), final) ↔
      tree.node (landing tree source target) ≠ some .dir ∧
        final = tree.putFile (landing tree source target) data := by
  have arrives : Apart source (landing tree source target) := apart.landing
  have differs := arrives.ne
  have lands : (if tree.node target = some .dir then target ++ [basename source] else target) =
      landing tree source target := rfl
  simp only [copy2, call_bind, call_get, andThen_ok, call_ite, call_throw, lands, if_neg differs,
    writeFile, call_set]
  by_cases directory : tree.node (landing tree source target) = some .dir
  · simp [directory]
  · simp [directory, eq_comm]

/-- What a rename that returns has done. -/
theorem call_rename (apart : Apart source target) (shown : HostPath) (present : tree.node source ≠ none)
    (final : HostTree) :
    call (rename source shown target) tree = (.ok (), final) ↔
      (∃ data, tree.node source = some (.file data) ∧
        final = (tree.remove source).putFile target data) ∨
      tree.node source = some .dir ∧ tree.node target = none ∧
        final = (tree.remove source).graft target (tree.below source) := by
  have differs := apart.ne
  have inside : source.isPrefixOf target ≠ true := fun front =>
    apart.below (List.isPrefixOf_iff_prefix.mp front)
  simp only [rename, call_bind, call_get, andThen_ok]
  cases found : tree.node source with
  | none => exact absurd found present
  | some node =>
      cases node with
      | file data => simp [differs, eq_comm]
      | dir =>
          simp only [if_neg inside, call_ite, call_throw, call_set]
          cases there : tree.node target with
          | none => simp [eq_comm]
          | some other => simp

/-- Where the target is a directory, a move needs the place inside it to be free. -/
theorem call_move (apart : Apart source target) (present : tree.node source ≠ none)
    (final : HostTree) :
    call (Host.move source target) tree = (.ok (), final) ↔
      (tree.node target = some .dir → tree.node (landing tree source target) = none) ∧
      ((∃ data, tree.node source = some (.file data) ∧
        final = (tree.remove source).putFile (landing tree source target) data) ∨
      tree.node source = some .dir ∧ tree.node (landing tree source target) = none ∧
        final = (tree.remove source).graft (landing tree source target) (tree.below source)) := by
  have differs := apart.ne.symm
  rw [← call_rename apart.landing target present]
  simp only [Host.move, call_bind, call_get, andThen_ok, call_ite, call_throw, call_pure, landing]
  by_cases directory : tree.node target = some .dir
  · simp only [directory, if_true, differs, ne_eq, not_false_eq_true, apart.strict, false_or]
    cases there : tree.node (target ++ [basename source]) with
    | none => simp
    | some other => simp
  · simp [directory]

end Host

section Provider

variable {provider : FilesystemStorageProvider} {tree : HostTree} {src dst : List Char}
  {source target : HostPath}

/-- The tree once the target's parent is there. -/
def ready (tree : HostTree) (target : HostPath) : HostTree := tree.makeDirs target.dropLast

theorem landing_ready : landing (ready tree target) source target = landing tree source target := by
  unfold landing ready
  rw [makeDirs_dropLast]

theorem ready_of_dir (directory : tree.node target.dropLast = some .dir) :
    ready tree target = tree := makeDirs_of_dir directory

/-- Making the parent changes nothing where the source lands. -/
theorem ready_landing : (ready tree target).node (landing tree source target) =
    tree.node (landing tree source target) := by
  by_cases directory : tree.node target = some .dir
  · rw [ready_of_dir (tree.dir_dropLast (by rw [directory]; exact Option.some_ne_none _))]
  · rw [landing, if_neg directory]
    exact makeDirs_dropLast

/-- Nor at or below the source. -/
theorem ready_source (apart : Apart source target) (rest : HostPath) :
    (ready tree target).node (source ++ rest) = tree.node (source ++ rest) :=
  makeDirs_frame fun above => absurd
    (((List.prefix_append source rest).trans above).trans (List.dropLast_prefix target)) apart.below

theorem ready_source_self (apart : Apart source target) :
    (ready tree target).node source = tree.node source := by
  simpa using ready_source apart []

theorem call_prepare (next : Py HostTree Unit) (final : HostTree) :
    andThen (call (Host.mkdir target.dropLast) tree) (fun _ => next) = (.ok (), final) ↔
      tree.blocked target.dropLast = false ∧ call next (ready tree target) = (.ok (), final) := by
  cases blocked : tree.blocked target.dropLast with
  | true =>
      obtain ⟨exc, refused⟩ := call_mkdir_blocked blocked
      simp [refused]
  | false =>
      rw [call_mkdir_clear blocked, andThen_ok]
      simp [ready]

/-- When a copy returns, and what it has made. -/
theorem call_copy (found : provider.resolve src = .ok source)
    (found' : provider.resolve dst = .ok target) (apart : Apart source target) (endless : Endless)
    (final : HostTree) :
    call (provider.copy src dst endless) tree = (.ok (), final) ↔
      (∃ data, tree.node source = some (.file data) ∧ tree.blocked target.dropLast = false ∧
        tree.node (landing tree source target) ≠ some .dir ∧
        final = (ready tree target).putFile (landing tree source target) data) ∨
      tree.node source = some .dir ∧ tree.node target = none ∧ tree.blocked target = false ∧
        final = tree.graft target (tree.below source) := by
  simp only [FilesystemStorageProvider.copy, FilesystemStorageProvider.requireExists, call_bind,
    call_check, found, found', andThen_ok, call_get, call_ite, call_throw, call_pure]
  cases stands : tree.node source with
  | none => simp
  | some node =>
      simp only [Option.isNone_some, Bool.false_eq_true, if_false, andThen_ok, call_bind, call_check,
        call_get, stands]
      cases node with
      | file data =>
          rw [call_bind, call_prepare, call_copy2 apart, landing_ready, ready_landing]
          simp
      | dir =>
          rw [call_copytree apart]
          simp

/-- When a move returns, and what it has made. -/
theorem call_relocate (found : provider.resolve src = .ok source)
    (found' : provider.resolve dst = .ok target) (apart : Apart source target)
    (final : HostTree) :
    call (provider.move src dst) tree = (.ok (), final) ↔
      tree.node source ≠ none ∧ tree.blocked target.dropLast = false ∧
      (tree.node target = some .dir → tree.node (landing tree source target) = none) ∧
      ((∃ data, tree.node source = some (.file data) ∧
        final = ((ready tree target).remove source).putFile (landing tree source target) data) ∨
      tree.node source = some .dir ∧ tree.node (landing tree source target) = none ∧
        final = ((ready tree target).remove source).graft (landing tree source target)
          (tree.below source)) := by
  simp only [FilesystemStorageProvider.move, FilesystemStorageProvider.requireExists, call_bind,
    call_check, found, found', andThen_ok, call_get, call_ite, call_throw, call_pure]
  cases stands : tree.node source with
  | none => simp
  | some node =>
      have present : (ready tree target).node source ≠ none := by
        rw [ready_source_self apart, stands]
        exact Option.some_ne_none _
      have tree' : (ready tree target).below source = tree.below source :=
        ext_node (below_makeDirs fun above =>
          apart.below (above.trans (List.dropLast_prefix target)))
      have target' : (ready tree target).node target = tree.node target := makeDirs_dropLast
      simp only [Option.isNone_some, Bool.false_eq_true, if_false, andThen_ok, call_bind, call_check]
      rw [call_prepare, call_move apart present, landing_ready, ready_landing,
        ready_source_self apart, tree', target', stands]
      simp

end Provider

section Arrival

variable {tree base after : HostTree} {source target : HostPath}

/-- What stood at the source stands at the target, and the rest of the base is as it was. -/
structure Arrived (tree base after : HostTree) (source target : HostPath) : Prop where
  holds : ∀ rest, after.node (target ++ rest) = tree.node (source ++ rest)
  outside : ∀ other, ¬ target <+: other → after.node other = base.node other

theorem putFile_arrives {data : Bytes} (stands : tree.node source = some (.file data))
    (parent : base.node target.dropLast = some .dir) (leaf : base.node target ≠ some .dir) :
    Arrived tree base (base.putFile target data) source target := by
  constructor
  · intro rest
    rw [node_below_file (putFile_self leaf), node_below_file stands]
  · intro other outside
    have differs : target ≠ other := fun same => outside (same ▸ List.prefix_refl _)
    exact putFile_frame data leaf differs fun above => dir_above parent above differs

theorem graft_arrives (stands : tree.node source = some .dir)
    (parent : base.node target.dropLast = some .dir) (free : base.node target = none) :
    Arrived tree base (base.graft target (tree.below source)) source target := by
  constructor
  · intro rest
    rw [graft_inside, below_of_dir stands]
  · intro other outside
    have differs : target ≠ other := fun same => outside (same ▸ List.prefix_refl _)
    apply graft_frame free
    · rintro rest rfl
      exact absurd (List.prefix_append target rest) outside
    · exact fun above => dir_above parent above differs

/-- A tree put at a path makes the directories above it. -/
theorem graft_ready (sub : HostTree) : (ready tree target).graft target sub = tree.graft target sub := by
  apply ext_node
  funext other
  change (if _ then _ else if _ then _ else (ready tree target).node other) = if _ then _ else if _ then _ else _
  split
  · rfl
  · split
    · rfl
    · rename_i aside
      exact makeDirs_frame fun above => absurd (above.trans (List.dropLast_prefix target)) aside

theorem ready_parent : (ready tree target).node target.dropLast = some .dir :=
  makeDirs_node (List.prefix_refl _)

/-- What arrives once the parent is there is a copy. -/
theorem Arrived.copied (clear : tree.blocked target.dropLast = false)
    (arrived : Arrived tree (ready tree target) after source target) :
    Copied tree after source target := by
  refine ⟨arrived.holds, fun other outside => ?_⟩
  have made := makeDirs_upToParents clear (List.dropLast_prefix target) other
  unfold KeepsUpToParents at *
  rwa [arrived.outside other outside]

/-- What arrives once the source has been removed is a move. -/
theorem Arrived.moved (apart : Apart source target) (clear : tree.blocked target.dropLast = false)
    (arrived : Arrived tree ((ready tree target).remove source) after source target) :
    Moved tree after source target := by
  refine ⟨arrived.holds, ?_, fun other outside elsewhere => ?_⟩
  · rw [arrived.outside source apart.above]
    exact remove_inside apart.strict (List.prefix_refl _)
  · have made := makeDirs_upToParents clear (List.dropLast_prefix target) other
    unfold KeepsUpToParents at *
    rwa [arrived.outside other outside, remove_outside elsewhere]

/-- It leaves all the rest alone where the parent was there already. -/
theorem Arrived.nothingElse_iff (apart : Apart source target)
    (arrived : Arrived tree ((ready tree target).remove source) after source target) :
    NothingElse tree after source target ↔ tree.node target.dropLast = some .dir := by
  constructor
  · intro same
    have above : ¬ target <+: target.dropLast := by
      intro inside
      have short := inside.length_le
      rw [List.length_dropLast] at short
      have length := List.length_pos_iff.mpr apart.strict'
      omega
    have elsewhere : ¬ source <+: target.dropLast := fun inside =>
      apart.below (inside.trans (List.dropLast_prefix target))
    rw [← same _ above elsewhere, arrived.outside _ above, remove_outside elsewhere]
    exact ready_parent
  · intro directory other outside elsewhere
    rw [arrived.outside other outside, remove_outside elsewhere, ready_of_dir directory]

end Arrival

section Results

variable {provider : FilesystemStorageProvider} {tree : StoredTree} {src dst : List Char}
  {source target : HostPath}

/-- A file is copied to a directory, in which there is no directory of its name. -/
def CopyLandsInside (tree : HostTree) (source target : HostPath) : Prop :=
  (∃ data, tree.node source = some (.file data)) ∧ tree.node target = some .dir ∧
    tree.node (target ++ [basename source]) ≠ some .dir

/-- Something is moved to a directory, in which there is nothing of its name. -/
def MoveLandsInside (tree : HostTree) (source target : HostPath) : Prop :=
  tree.node source ≠ none ∧ tree.node target = some .dir ∧
    tree.node (target ++ [basename source]) = none

theorem copied_iff (found : provider.resolve src = .ok source)
    (found' : provider.resolve dst = .ok target) (apart : Apart source target) (endless : Endless) :
    (∀ final, call (provider.copy src dst endless) tree.toFileTree = (.ok (), final) →
        Copied tree.toFileTree final source target) ↔
      ¬ CopyLandsInside tree.toFileTree source target := by
  constructor
  · rintro copies ⟨⟨data, stands⟩, directory, leaf⟩
    have lands : landing tree.toFileTree source target = target ++ [basename source] :=
      if_pos directory
    have parent : tree.node target.dropLast = some .dir :=
      tree.dir_dropLast (by rw [directory]; exact Option.some_ne_none _)
    have returned := (call_copy found found' apart endless _).mpr
      (.inl ⟨data, stands, tree.blocked_of_dir parent, lands ▸ leaf, rfl⟩)
    have same := (copies _ returned).holds []
    rw [List.append_nil, List.append_nil, stands, lands, ready_of_dir parent] at same
    have inside : (tree.putFile (target ++ [basename source]) data).node target = some .dir := by
      apply FileTree.nested _ target (basename source)
      rw [putFile_self leaf]
      exact Option.some_ne_none _
    rw [inside] at same
    cases same
  · intro clear final returned
    rcases (call_copy found found' apart endless final).mp returned with
      ⟨data, stands, way, leaf, rfl⟩ | ⟨stands, free, way, rfl⟩
    · have outside : tree.node target ≠ some .dir := by
        intro directory
        rw [landing, if_pos directory] at leaf
        exact clear ⟨⟨data, stands⟩, directory, leaf⟩
      rw [landing, if_neg outside]
      refine Arrived.copied way (putFile_arrives stands ready_parent ?_)
      rwa [ready, makeDirs_dropLast]
    · rw [← graft_ready]
      refine Arrived.copied ?_ (graft_arrives stands ready_parent ?_)
      · exact tree.blocked_front (List.dropLast_prefix target) way
      · rwa [ready, makeDirs_dropLast]

/-- In a finite tree no directory goes on for ever under one name. -/
theorem exists_vacant (tree : StoredTree) (path : HostPath) (name : List Char) :
    ∃ count, tree.node (path ++ List.replicate count name) = none := by
  by_contra endless
  have long := tree.listed (path ++ List.replicate (tree.paths.toFinset.sup List.length + 1) name)
    (fun vacant => endless ⟨_, vacant⟩)
  have bound := Finset.le_sup (f := List.length) (List.mem_toFinset.mpr long)
  rw [List.length_append, List.length_replicate] at bound
  omega

/-- What has landed inside the target is not what the target holds. -/
theorem landed_inside {base after : HostTree} (present : tree.node source ≠ none)
    (arrived : Arrived tree.toFileTree base after source (target ++ [basename source])) :
    ¬ ∀ rest, after.node (target ++ rest) = tree.node (source ++ rest) := by
  intro holds
  have again : ∀ count, tree.node (source ++ List.replicate count (basename source)) =
      tree.node source := by
    intro count
    induction count with
    | zero => simp
    | succ count ih =>
        calc tree.node (source ++ List.replicate (count + 1) (basename source))
          _ = after.node (target ++ List.replicate (count + 1) (basename source)) :=
              (holds _).symm
          _ = after.node (target ++ [basename source] ++ List.replicate count (basename source)) := by
              rw [List.append_assoc, List.singleton_append, ← List.replicate_succ]
          _ = tree.node (source ++ List.replicate count (basename source)) := arrived.holds _
          _ = tree.node source := ih
  obtain ⟨count, vacant⟩ := exists_vacant tree source (basename source)
  exact present ((again count).symm.trans vacant)

/-- What a move that returns has put where the source lands. -/
theorem moved_arrives (found : provider.resolve src = .ok source)
    (found' : provider.resolve dst = .ok target) (apart : Apart source target) {final : HostTree}
    (returned : call (provider.move src dst) tree.toFileTree = (.ok (), final)) :
    Arrived tree.toFileTree ((ready tree.toFileTree target).remove source) final source
      (landing tree.toFileTree source target) := by
  obtain ⟨_, _, free, made⟩ := (call_relocate found found' apart final).mp returned
  have arrives : Apart source (landing tree.toFileTree source target) := apart.landing
  have around : ∀ path, ¬ source <+: path →
      ((ready tree.toFileTree target).remove source).node path =
        (ready tree.toFileTree target).node path := fun path => remove_outside
  have parent : ((ready tree.toFileTree target).remove source).node
      (landing tree.toFileTree source target).dropLast = some .dir := by
    rw [around _ fun inside => arrives.below (inside.trans (List.dropLast_prefix _)),
      ← @landing_ready tree.toFileTree]
    exact landing_parent ready_parent
  have vacant : ((ready tree.toFileTree target).remove source).node
      (landing tree.toFileTree source target) =
        tree.node (landing tree.toFileTree source target) := by
    rw [around _ arrives.below]
    exact ready_landing
  rcases made with ⟨data, stands, rfl⟩ | ⟨stands, empty, rfl⟩
  · apply putFile_arrives stands parent
    rw [vacant]
    by_cases directory : tree.node target = some .dir
    · rw [free directory]
      exact (Option.some_ne_none _).symm
    · rwa [landing, if_neg directory]
  · apply graft_arrives stands parent
    rwa [vacant]

/-- A move that does not land inside a directory has put the source at the target. -/
theorem moved_arrives_at (found : provider.resolve src = .ok source)
    (found' : provider.resolve dst = .ok target) (apart : Apart source target)
    (clear : ¬ MoveLandsInside tree.toFileTree source target) {final : HostTree}
    (returned : call (provider.move src dst) tree.toFileTree = (.ok (), final)) :
    Arrived tree.toFileTree ((ready tree.toFileTree target).remove source) final source
      target := by
  obtain ⟨present, _, free, _⟩ := (call_relocate found found' apart final).mp returned
  have outside : tree.node target ≠ some .dir := by
    intro directory
    have vacant := free directory
    rw [landing, if_pos directory] at vacant
    exact clear ⟨present, directory, vacant⟩
  have arrived := moved_arrives found found' apart returned
  rwa [landing, if_neg outside] at arrived

theorem move_returns (found : provider.resolve src = .ok source)
    (found' : provider.resolve dst = .ok target) (apart : Apart source target)
    (present : tree.node source ≠ none) (way : tree.blocked target.dropLast = false)
    (free : tree.node (landing tree.toFileTree source target) = none) :
    ∃ final, call (provider.move src dst) tree.toFileTree = (.ok (), final) := by
  cases stands : tree.node source with
  | none => exact absurd stands present
  | some node =>
      cases node with
      | file data =>
          exact ⟨_, (call_relocate found found' apart _).mpr
            ⟨present, way, fun _ => free, .inl ⟨data, stands, rfl⟩⟩⟩
      | dir =>
          exact ⟨_, (call_relocate found found' apart _).mpr
            ⟨present, way, fun _ => free, .inr ⟨stands, free, rfl⟩⟩⟩

theorem moved_iff (found : provider.resolve src = .ok source)
    (found' : provider.resolve dst = .ok target) (apart : Apart source target) :
    (∀ final, call (provider.move src dst) tree.toFileTree = (.ok (), final) →
        Moved tree.toFileTree final source target) ↔
      ¬ MoveLandsInside tree.toFileTree source target := by
  constructor
  · rintro moves ⟨present, directory, free⟩
    have lands : landing tree.toFileTree source target = target ++ [basename source] :=
      if_pos directory
    have parent : tree.node target.dropLast = some .dir :=
      tree.dir_dropLast (by rw [directory]; exact Option.some_ne_none _)
    obtain ⟨final, returned⟩ := move_returns found found' apart present
      (tree.blocked_of_dir parent) (lands ▸ free)
    have arrived := moved_arrives found found' apart returned
    rw [lands] at arrived
    exact landed_inside present arrived (moves final returned).holds
  · intro clear final returned
    obtain ⟨present, way, _⟩ := (call_relocate found found' apart final).mp returned
    have arrived := moved_arrives_at found found' apart clear returned
    exact arrived.moved apart way

/-- When a move that returns changes nothing else at all. -/
theorem moved_alone_iff (found : provider.resolve src = .ok source)
    (found' : provider.resolve dst = .ok target) (apart : Apart source target) :
    (∀ final, call (provider.move src dst) tree.toFileTree = (.ok (), final) →
        Moved tree.toFileTree final source target ∧
          NothingElse tree.toFileTree final source target) ↔
      ¬ MoveLandsInside tree.toFileTree source target ∧
        (tree.node source = none ∨ tree.blocked target.dropLast = true ∨
          tree.node target.dropLast = some .dir) := by
  have moved := @moved_iff provider tree src dst source target found found' apart
  constructor
  · intro moves
    refine ⟨moved.mp fun final returned => (moves final returned).1, ?_⟩
    by_cases present : tree.node source = none
    · exact .inl present
    cases way : tree.blocked target.dropLast with
    | true => exact .inr (.inl rfl)
    | false =>
        refine .inr (.inr ?_)
        by_contra parentless
        have free : tree.node target = none := by
          by_contra there
          exact parentless (tree.dir_dropLast there)
        have lands : landing tree.toFileTree source target = target :=
          if_neg (by rw [free]; exact (Option.some_ne_none _).symm)
        obtain ⟨final, returned⟩ := move_returns found found' apart present way (by rw [lands]; exact free)
        have arrived := moved_arrives found found' apart returned
        rw [lands] at arrived
        exact parentless ((arrived.nothingElse_iff apart).mp (moves final returned).2)
  · rintro ⟨clear, prepared⟩ final returned
    refine ⟨moved.mpr clear final returned, ?_⟩
    obtain ⟨present, way, _⟩ := (call_relocate found found' apart final).mp returned
    have arrived := moved_arrives_at found found' apart clear returned
    apply (arrived.nothingElse_iff apart).mpr
    rcases prepared with absent | blocked | directory
    · exact absurd absent present
    · cases way.symm.trans blocked
    · exact directory

end Results

section Storage

variable (provider : FilesystemStorageProvider) (tree : StoredTree) (src dst : List Char)

/-- Paths that resolve to places neither of which is at or below the other. -/
def Separate (source target : HostPath) : Prop :=
  provider.resolve src = .ok source ∧ provider.resolve dst = .ok target ∧ Apart source target

/-- What a copy that returns has to leave. -/
def CopyKept (endless : Endless) : Prop :=
  ∀ source target, Separate provider src dst source target →
    ∀ final, call (provider.copy src dst endless) tree.toFileTree = (.ok (), final) →
      Copied tree.toFileTree final source target

/-- What a move that returns has to leave, where directories may be made above the target. -/
def MoveKept : Prop :=
  ∀ source target, Separate provider src dst source target →
    ∀ final, call (provider.move src dst) tree.toFileTree = (.ok (), final) →
      Moved tree.toFileTree final source target

/-- The same where none may be made. -/
def MoveKeptAlone : Prop :=
  ∀ source target, Separate provider src dst source target →
    ∀ final, call (provider.move src dst) tree.toFileTree = (.ok (), final) →
      Moved tree.toFileTree final source target ∧ NothingElse tree.toFileTree final source target

/-- A copy does what it should exactly where no file lands inside a directory, and a move exactly
where nothing does; a move makes no directory where the target has its parent, or the source is
missing or the way to the target is blocked. -/
theorem relocation_kept_iff (endless : Endless) :
    (CopyKept provider tree src dst endless ↔
        ∀ source target, Separate provider src dst source target →
          ¬ CopyLandsInside tree.toFileTree source target) ∧
      (MoveKept provider tree src dst ↔
        ∀ source target, Separate provider src dst source target →
          ¬ MoveLandsInside tree.toFileTree source target) ∧
      (MoveKeptAlone provider tree src dst ↔
        ∀ source target, Separate provider src dst source target →
          ¬ MoveLandsInside tree.toFileTree source target ∧
            (tree.node source = none ∨ tree.blocked target.dropLast = true ∨
              tree.node target.dropLast = some .dir)) := by
  refine ⟨?_, ?_, ?_⟩
  · exact forall₂_congr fun source target => forall_congr' fun separate =>
      copied_iff separate.1 separate.2.1 separate.2.2 endless
  · exact forall₂_congr fun source target => forall_congr' fun separate =>
      moved_iff separate.1 separate.2.1 separate.2.2
  · exact forall₂_congr fun source target => forall_congr' fun separate =>
      moved_alone_iff separate.1 separate.2.1 separate.2.2

end Storage

/-- A storage at `/s` with the file `a` and the empty directory `d`. -/
def shelf : StoredTree where
  node path :=
    if path = [] ∨ path = [['s']] ∨ path = [['s'], ['d']] then some .dir
    else if path = [['s'], ['a']] then some (.file [1])
    else none
  rooted := rfl
  nested path name present := by
    rcases path with _ | ⟨first, _ | ⟨second, rest⟩⟩
    · simp
    · have named : first = ['s'] := by
        by_contra other
        simp [other] at present
      simp [named]
    · simp at present
  paths := [[], [['s']], [['s'], ['d']], [['s'], ['a']]]
  listed path present := by
    by_contra absent
    simp at absent
    simp [absent] at present
  legal path name present := by
    rcases path with _ | ⟨first, _ | ⟨second, rest⟩⟩
    · have named : name = ['s'] := by
        by_contra other
        simp [other] at present
      subst named
      constructor <;> decide
    · have named : name = ['d'] ∨ name = ['a'] := by
        by_contra other
        simp [not_or.mp other] at present
      rcases named with rfl | rfl
      · constructor <;> decide
      · constructor <;> decide
    · simp at present

/-- The file copied, or moved, to the directory arrives inside it. -/
theorem shelf_lands_inside :
    ¬ CopyKept ⟨[['s']]⟩ shelf ['a'] ['d'] ⟨.empty, .osError .nameTooLong ""⟩ ∧
      ¬ MoveKept ⟨[['s']]⟩ shelf ['a'] ['d'] := by
  have separate : Separate ⟨[['s']]⟩ ['a'] ['d'] [['s'], ['a']] [['s'], ['d']] :=
    ⟨rfl, rfl, by decide, by decide⟩
  constructor
  · intro kept
    exact (copied_iff separate.1 separate.2.1 separate.2.2 _).mp (kept _ _ separate)
      ⟨⟨_, rfl⟩, rfl, by decide⟩
  · intro kept
    exact (moved_iff separate.1 separate.2.1 separate.2.2).mp (kept _ _ separate)
      ⟨by decide, rfl, rfl⟩

end LexMind.Storage
