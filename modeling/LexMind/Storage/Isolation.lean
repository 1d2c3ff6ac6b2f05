import LexMind.Storage.Manager

set_option autoImplicit false

/- Which calls leave alone what the URI of another workspace names: the workspace is dropped
from a URI, so only the paths keep them apart. -/
namespace LexMind.Storage

open Lib

namespace Host

variable {α : Type} {tree : HostTree} {path other source target real : HostPath}

/-- However the call ends, what stands at `other` is what stood there. -/
def Keeps (other : HostPath) (tree : HostTree) (program : Py HostTree α) : Prop :=
  (call program tree).2.node other = tree.node other

/-- A directory is made with all above it, or nothing changes. -/
theorem mkdir_cases (tree : HostTree) (path : HostPath) :
    (∃ exc, call (mkdir path) tree = (.error exc, tree)) ∨
      call (mkdir path) tree = (.ok (), tree.makeDirs path) ∧
        ∀ front, front <+: path → tree.node front ≠ none → tree.node front = some .dir := by
  simp only [mkdir, call_bind, call_get, andThen_ok, call_ite, call_throw, call_set]
  split
  · exact .inl ⟨_, rfl⟩
  · split
    · exact .inl ⟨_, rfl⟩
    · rename_i clear
      right
      refine ⟨rfl, fun front above present => ?_⟩
      exact FileTree.dir_of_blocked_false (Bool.not_eq_true _ ▸ clear) above present

theorem makeDirs_keeps (made : ∀ front, front <+: path → tree.node front ≠ none →
      tree.node front = some .dir) (spared : other <+: path → tree.node other ≠ none) :
    (tree.makeDirs path).node other = tree.node other := by
  apply FileTree.makeDirs_frame
  intro above
  exact made other above (spared above)

theorem mkdir_keeps (spared : other <+: path → tree.node other ≠ none) :
    Keeps other tree (mkdir path) := by
  unfold Keeps
  rcases mkdir_cases tree path with ⟨exc, ended⟩ | ⟨ended, made⟩
  · rw [ended]
  · rw [ended]
    exact makeDirs_keeps made spared

/-- What follows the making of a directory runs in the tree that has it. -/
theorem mkdir_then_keeps {next : Py HostTree α}
    (spared : other <+: path → tree.node other ≠ none)
    (after : (∀ front, front <+: path → tree.node front ≠ none → tree.node front = some .dir) →
      Keeps other (tree.makeDirs path) next) :
    Keeps other tree (mkdir path >>= fun _ => next) := by
  unfold Keeps
  rw [call_bind]
  rcases mkdir_cases tree path with ⟨exc, ended⟩ | ⟨ended, made⟩
  · rw [ended]
    rfl
  · rw [ended, andThen_ok]
    exact (after made).trans (makeDirs_keeps made spared)

theorem writeFile_keeps (parent : tree.node path.dropLast = some .dir) (differs : path ≠ other)
    (data : Bytes) : Keeps other tree (writeFile path data) := by
  unfold Keeps
  simp only [writeFile, call_bind, call_get, andThen_ok, call_ite, call_throw, call_set]
  split
  · rfl
  · rename_i leaf
    exact FileTree.putFile_frame data leaf differs
      (fun above => FileTree.dir_above parent above differs)

theorem remove_keeps (spared : path <+: other → tree.node other = none) :
    (tree.remove path).node other = tree.node other := FileTree.remove_frame spared

theorem rmtree_keeps (spared : path <+: other → tree.node other = none) :
    Keeps other tree (rmtree path) := by
  unfold Keeps
  simp only [rmtree, call_bind, call_modify, andThen_ok, call_ite, call_throw, call_pure]
  split
  · exact remove_keeps spared
  · exact remove_keeps spared

theorem unlink_keeps (spared : path <+: other → tree.node other = none) :
    Keeps other tree (unlink path) := remove_keeps spared

/-- The tree that a copy of `source` puts at `target`. -/
def copied (tree : HostTree) (source target : HostPath) (endless : Endless) : HostTree :=
  if descends tree source target then endless.left else tree.below source

theorem copytree_keeps {endless : Endless} (spared : tree.node target = none →
      (other <+: target → tree.node other ≠ none) ∧
      ∀ rest, other = target ++ rest → (copied tree source target endless).node rest = none) :
    Keeps other tree (copytree source target endless) := by
  unfold Keeps
  simp only [copytree, call_bind, call_get, andThen_ok, call_ite, call_throw, call_set]
  split
  · rfl
  · rename_i vacant
    have free : tree.node target = none := Option.not_isSome_iff_eq_none.mp vacant
    obtain ⟨made, nothing⟩ := spared free
    unfold copied at nothing
    split
    · rfl
    · rename_i clear
      have kept : other <+: target → tree.node other = some .dir := fun above =>
        FileTree.dir_of_blocked_false (Bool.not_eq_true _ ▸ clear) above (made above)
      split
      · rename_i inside
        rw [if_pos inside] at nothing
        exact FileTree.graft_frame free nothing kept
      · rename_i outside
        rw [if_neg outside] at nothing
        exact FileTree.graft_frame free nothing kept

/-- Where a file or a directory arrives: inside the target where that is a directory. -/
def landing (tree : HostTree) (source target : HostPath) : HostPath :=
  if tree.node target = some .dir then target ++ [basename source] else target

theorem landing_parent (parent : tree.node target.dropLast = some .dir) :
    tree.node (landing tree source target).dropLast = some .dir := by
  unfold landing
  split
  · rename_i directory
    rw [List.dropLast_concat]
    exact directory
  · exact parent

theorem target_prefix_landing : target <+: landing tree source target := by
  unfold landing
  split
  · exact List.prefix_append _ _
  · exact List.prefix_refl _

theorem copy2_keeps (parent : tree.node target.dropLast = some .dir)
    (differs : landing tree source target ≠ other) (data : Bytes) :
    Keeps other tree (copy2 source target data) := by
  unfold Keeps
  simp only [copy2, call_bind, call_get, andThen_ok, call_ite, call_throw]
  have lands : (if tree.node target = some .dir then target ++ [basename source] else target) =
      landing tree source target := rfl
  rw [lands]
  split
  · rfl
  · exact writeFile_keeps (landing_parent parent) differs data

/-- What a rename leaves alone: neither the source's tree is there, nor what arrives. -/
structure SparesRename (tree : HostTree) (other source real : HostPath) : Prop where
  taken : source ≠ real → source <+: other → tree.node other = none
  file : ∀ data, tree.node source = some (.file data) → source ≠ real →
    real ≠ other ∧ tree.node real ≠ some .dir
  directory : tree.node source = some .dir → ¬ source <+: real → tree.node real = none →
    ∀ rest, other = real ++ rest → (tree.below source).node rest = none

theorem remove_leaf (leaf : tree.node real ≠ some .dir) :
    (tree.remove source).node real ≠ some .dir := by
  intro directory
  apply leaf
  change (if real = [] then _ else if source <+: real then none else tree.node real) = _ at directory
  split at directory
  · rename_i root
    rw [root]
    exact tree.rooted
  · split at directory
    · cases directory
    · exact directory

/-- Whatever a rename goes through is outside its source. -/
theorem SparesRename.through (spared : SparesRename tree other source real)
    (parent : tree.node real.dropLast = some .dir) (moves : source ≠ real)
    (differs : real ≠ other) (above : other <+: real) :
    (tree.remove source).node other = some .dir := by
  have directory := FileTree.dir_above parent above differs
  rw [remove_keeps, directory]
  intro inside
  exact spared.taken moves inside

theorem rename_keeps (parent : tree.node real.dropLast = some .dir)
    (spared : SparesRename tree other source real) :
    Keeps other tree (rename source target real) := by
  unfold Keeps
  simp only [rename, call_bind, call_get, andThen_ok]
  cases found : tree.node source with
  | none => rfl
  | some node =>
      cases node with
      | file data =>
          by_cases moves : real = source
          · simp [moves]
          · have stays : source ≠ real := fun same => moves same.symm
            obtain ⟨differs, leaf⟩ := spared.file data found stays
            simp only [ne_eq, moves, not_false_eq_true, if_true, call_set]
            rw [FileTree.putFile_frame data (remove_leaf leaf) differs
              (spared.through parent stays differs)]
            exact remove_keeps (spared.taken stays)
      | dir =>
          simp only [call_ite, call_throw, call_set, List.isPrefixOf_iff_prefix]
          split
          · rfl
          · rename_i outside
            split
            · rfl
            · rename_i vacant
              have free : tree.node real = none := Option.not_isSome_iff_eq_none.mp vacant
              have moves : source ≠ real := by
                intro same
                exact outside (same ▸ List.prefix_refl source)
              have left : (tree.remove source).node other = tree.node other :=
                remove_keeps (spared.taken moves)
              have empty : (tree.remove source).node real = none :=
                (remove_keeps (fun _ => free)).trans free
              have nothing := spared.directory found outside free
              have differs : real ≠ other := by
                rintro rfl
                cases nothing [] (List.append_nil real).symm
              rw [FileTree.graft_frame empty nothing (spared.through parent moves differs), left]

/-- What a move leaves alone: neither the source's tree is there, nor what lands. -/
structure SparesMove (tree : HostTree) (other source target : HostPath) : Prop where
  taken : source ≠ target → source <+: other → tree.node other = none
  file : ∀ data, tree.node source = some (.file data) → source ≠ target →
    landing tree source target ≠ other
  directory : tree.node source = some .dir → ¬ source <+: landing tree source target →
    tree.node (landing tree source target) = none →
    ∀ rest, other = landing tree source target ++ rest → (tree.below source).node rest = none

theorem move_keeps (parent : tree.node target.dropLast = some .dir)
    (spared : SparesMove tree other source target) : Keeps other tree (move source target) := by
  unfold Keeps
  simp only [move, call_bind, call_get, andThen_ok, call_ite, call_throw, call_pure]
  have lands := @landing_parent tree source target parent
  have taken := spared.taken
  have file := spared.file
  have directory := spared.directory
  by_cases inside : tree.node target = some .dir
  · have real : landing tree source target = target ++ [basename source] := if_pos inside
    rw [real] at lands file directory
    simp only [inside, if_true]
    by_cases same : source = target
    · simp [same]
    · simp only [same, ne_eq, not_false_eq_true, if_true]
      split
      · rfl
      · rename_i clear
        have free : tree.node (target ++ [basename source]) = none :=
          Option.not_isSome_iff_eq_none.mp (fun present => clear (.inr present))
        have leaf : tree.node (target ++ [basename source]) ≠ some .dir := by
          rw [free]
          exact nofun
        apply rename_keeps lands
        exact ⟨fun _ => taken same, fun data found _ => ⟨file data found same, leaf⟩, directory⟩
  · have real : landing tree source target = target := if_neg inside
    rw [real] at file directory
    simp only [inside, if_false]
    apply rename_keeps parent
    exact ⟨taken, fun data found moves => ⟨file data found moves, inside⟩, directory⟩

/-- What a move leaves alone, it leaves alone once the target's parent is there. -/
theorem SparesMove.prepared (present : tree.node source ≠ none)
    (made : ∀ front, front <+: target.dropLast → tree.node front ≠ none →
      tree.node front = some .dir)
    (spared : other <+: target.dropLast → tree.node other ≠ none)
    (spares : SparesMove tree other source target) :
    SparesMove (tree.makeDirs target.dropLast) other source target := by
  have same : (tree.makeDirs target.dropLast).node other = tree.node other :=
    makeDirs_keeps made spared
  have stands : (tree.makeDirs target.dropLast).node source = tree.node source :=
    makeDirs_keeps made (fun _ => present)
  have lands : landing (tree.makeDirs target.dropLast) source target =
      landing tree source target := by
    unfold landing
    rw [FileTree.makeDirs_dropLast]
  constructor
  · rw [same]
    exact spares.taken
  · rw [stands, lands]
    exact spares.file
  · rw [stands, lands]
    intro found outside free rest arrives
    have apart : ¬ source <+: target.dropLast := by
      intro above
      exact outside (above.trans ((List.dropLast_prefix target).trans target_prefix_landing))
    have vacant : tree.node (landing tree source target) = none := by
      by_contra there
      rw [FileTree.makeDirs] at free
      dsimp only at free
      split at free
      · cases free
      · exact there free
    have nothing := spares.directory found outside vacant rest arrives
    rw [FileTree.below_makeDirs apart]
    exact nothing

end Host

section Calls

variable {α β : Type} {tree : HostTree} {other : HostPath}

open Host

theorem check_then_keeps {result : Except PyExc α} {next : α → Py HostTree β}
    (after : ∀ value, result = .ok value → Keeps other tree (next value)) :
    Keeps other tree (check result >>= next) := by
  unfold Keeps
  rw [call_bind, call_check]
  cases ended : result with
  | ok value => exact after value ended
  | error exc => rfl

variable (provider : FilesystemStorageProvider)

theorem requireExists_then_keeps {path : List Char} {next : HostPath → Py HostTree β}
    (after : ∀ resolved, provider.resolve path = .ok resolved → tree.node resolved ≠ none →
      Keeps other tree (next resolved)) :
    Keeps other tree (provider.requireExists path >>= next) := by
  unfold FilesystemStorageProvider.requireExists
  rw [bind_assoc]
  apply check_then_keeps
  intro resolved found
  unfold Keeps
  simp only [bind_assoc, call_bind, call_get, andThen_ok, call_ite, call_throw]
  split
  · rfl
  · rename_i present
    have stands : tree.node resolved ≠ none := by
      intro none
      exact present (by rw [none]; rfl)
    exact after resolved found stands

/-- A file written at a path, in directories made for it, is not there and makes nothing there. -/
def SparesFile (tree : HostTree) (other target : HostPath) : Prop :=
  target ≠ other ∧ (other <+: target → tree.node other ≠ none)

theorem parent_made {target : HostPath} :
    (tree.makeDirs target.dropLast).node target.dropLast = some .dir :=
  FileTree.makeDirs_node (List.prefix_refl _)

theorem SparesFile.parent {target : HostPath} (spared : SparesFile tree other target) :
    other <+: target.dropLast → tree.node other ≠ none :=
  fun above => spared.2 (above.trans (List.dropLast_prefix target))

theorem writeBytes_keeps {path : List Char} (data : Bytes)
    (spared : ∀ target, provider.resolve path = .ok target → SparesFile tree other target) :
    Keeps other tree (provider.writeBytes path data) := by
  unfold FilesystemStorageProvider.writeBytes
  apply check_then_keeps
  intro target found
  apply mkdir_then_keeps (spared target found).parent
  intro made
  exact writeFile_keeps parent_made (spared target found).1 data

theorem writeText_keeps (codec : Codec) {path : List Char} (text encoding : String)
    (spared : ∀ target, provider.resolve path = .ok target → SparesFile tree other target) :
    Keeps other tree (provider.writeText codec path text encoding) := by
  unfold FilesystemStorageProvider.writeText
  apply check_then_keeps
  intro target found
  apply mkdir_then_keeps (spared target found).parent
  intro made
  have written := writeFile_keeps (@parent_made tree target) (spared target found).1
  cases codec.encode encoding text with
  | ok data => exact written data
  | error exc =>
      unfold Keeps
      rw [call_bind]
      have emptied := written []
      unfold Keeps at emptied
      rcases ended : call (writeFile target []) (tree.makeDirs target.dropLast) with ⟨_ | _, last⟩
      · rw [ended] at emptied
        exact emptied
      · rw [ended] at emptied
        exact emptied

theorem delete_keeps {path : List Char}
    (spared : ∀ target, provider.resolve path = .ok target → target <+: other →
      tree.node other = none) : Keeps other tree (provider.delete path) := by
  unfold FilesystemStorageProvider.delete
  apply requireExists_then_keeps
  intro target found _
  unfold Keeps
  rw [call_bind, call_get, andThen_ok, call_ite]
  split
  · exact rmtree_keeps (spared target found)
  · exact unlink_keeps (spared target found)

theorem makeDirectory_keeps {path : List Char}
    (spared : ∀ target, provider.resolve path = .ok target → other <+: target →
      tree.node other ≠ none) : Keeps other tree (provider.mkdir path) := by
  unfold FilesystemStorageProvider.mkdir
  apply check_then_keeps
  intro target found
  exact mkdir_keeps (spared target found)

/-- What a copy leaves alone. -/
structure SparesCopy (tree : HostTree) (other source target : HostPath) (endless : Endless) :
    Prop where
  made : other <+: target → tree.node other ≠ none
  file : ∀ data, tree.node source = some (.file data) → landing tree source target ≠ other
  directory : tree.node source = some .dir → tree.node target = none →
    ∀ rest, other = target ++ rest → (copied tree source target endless).node rest = none

theorem copy_keeps {src dst : List Char} (endless : Endless)
    (spared : ∀ source target, provider.resolve src = .ok source →
      provider.resolve dst = .ok target → SparesCopy tree other source target endless) :
    Keeps other tree (provider.copy src dst endless) := by
  unfold FilesystemStorageProvider.copy
  apply requireExists_then_keeps
  intro source located present
  apply check_then_keeps
  intro target found
  obtain ⟨made, file, directory⟩ := spared source target located found
  unfold Keeps
  rw [call_bind, call_get, andThen_ok]
  cases stands : tree.node source with
  | none => exact absurd stands present
  | some node =>
      cases node with
      | file data =>
          have above : other <+: target.dropLast → tree.node other ≠ none :=
            fun above => made (above.trans (List.dropLast_prefix target))
          apply mkdir_then_keeps above
          intro _
          apply copy2_keeps parent_made
          have lands : landing (tree.makeDirs target.dropLast) source target =
              landing tree source target := by
            unfold landing
            rw [FileTree.makeDirs_dropLast]
          rw [lands]
          exact file data stands
      | dir => exact copytree_keeps (fun free => ⟨made, directory stands free⟩)

theorem move_provider_keeps {src dst : List Char}
    (spared : ∀ source target, provider.resolve src = .ok source →
      provider.resolve dst = .ok target →
      (other <+: target.dropLast → tree.node other ≠ none) ∧
        SparesMove tree other source target) :
    Keeps other tree (provider.move src dst) := by
  unfold FilesystemStorageProvider.move
  apply requireExists_then_keeps
  intro source located present
  apply check_then_keeps
  intro target found
  obtain ⟨above, spares⟩ := spared source target located found
  apply mkdir_then_keeps above
  intro made
  exact move_keeps parent_made (spares.prepared present made above)

end Calls

namespace StorageManager

variable (manager : StorageManager)

/-- The path of the host a URI is resolved to. -/
def Denotes (uri : String) (path : HostPath) : Prop :=
  ∃ rel, extractPath uri = .ok rel ∧ manager.provider.resolve rel = .ok path

theorem Denotes.eq {manager : StorageManager} {uri : String} {path other : HostPath}
    (denoted : manager.Denotes uri path) (denotes : manager.Denotes uri other) : path = other := by
  obtain ⟨rel, parsed, found⟩ := denoted
  obtain ⟨rel', parsed', found'⟩ := denotes
  cases parsed.symm.trans parsed'
  cases found.symm.trans found'
  rfl

/-- The call does not act on `other`: neither where it writes, nor in what it makes, takes
or puts on the way. -/
def Spares (other : HostPath) (tree : HostTree) : StorageCall → Prop
  | .save uri _ => ∀ target, manager.Denotes uri target → SparesFile tree other target
  | .saveText uri _ _ => ∀ target, manager.Denotes uri target → SparesFile tree other target
  | .delete uri => ∀ target, manager.Denotes uri target → target <+: other → tree.node other = none
  | .copy srcUri dstUri endless => ∀ source target, manager.Denotes srcUri source →
      manager.Denotes dstUri target → SparesCopy tree other source target endless
  | .move srcUri dstUri => ∀ source target, manager.Denotes srcUri source →
      manager.Denotes dstUri target →
      (other <+: target.dropLast → tree.node other ≠ none) ∧
        Host.SparesMove tree other source target
  | .mkdir uri => ∀ target, manager.Denotes uri target → other <+: target → tree.node other ≠ none

/-- A call that does not act on a path leaves what stands there. -/
theorem storageStep_keeps {other : HostPath} {tree : HostTree} (storageCall : StorageCall)
    (spared : manager.Spares other tree storageCall) :
    (storageStep manager tree storageCall).2.node other = tree.node other := by
  cases storageCall with
  | save uri data =>
      apply check_then_keeps
      intro rel parsed
      exact writeBytes_keeps manager.provider data
        (fun target found => spared target ⟨rel, parsed, found⟩)
  | saveText uri text encoding =>
      apply check_then_keeps
      intro rel parsed
      exact writeText_keeps manager.provider manager.codec text encoding
        (fun target found => spared target ⟨rel, parsed, found⟩)
  | delete uri =>
      apply check_then_keeps
      intro rel parsed
      exact delete_keeps manager.provider (fun target found => spared target ⟨rel, parsed, found⟩)
  | copy srcUri dstUri endless =>
      apply check_then_keeps
      intro src parsed
      apply check_then_keeps
      intro dst parsed'
      exact copy_keeps manager.provider endless (fun source target found found' =>
        spared source target ⟨src, parsed, found⟩ ⟨dst, parsed', found'⟩)
  | move srcUri dstUri =>
      apply check_then_keeps
      intro src parsed
      apply check_then_keeps
      intro dst parsed'
      exact move_provider_keeps manager.provider (fun source target found found' =>
        spared source target ⟨src, parsed, found⟩ ⟨dst, parsed', found'⟩)
  | mkdir uri =>
      apply check_then_keeps
      intro rel parsed
      exact makeDirectory_keeps manager.provider
        (fun target found => spared target ⟨rel, parsed, found⟩)

/-- What `load`, `exists` and `checksum` answer for a URI. -/
structure Answers where
  load : Except PyExc Bytes
  objectExists : Except PyExc Bool
  checksum : String → Except PyExc String

def answers (uri : String) (tree : HostTree) : Answers where
  load := (call (manager.load uri) tree).1
  objectExists := (call (manager.objectExists uri) tree).1
  checksum algorithm := (call (manager.checksum uri algorithm) tree).1

theorem readBytes_congr {provider : FilesystemStorageProvider} {rel : List Char}
    {before after : HostTree}
    (same : ∀ path, provider.resolve rel = .ok path → after.node path = before.node path) :
    (call (provider.readBytes rel) after).1 = (call (provider.readBytes rel) before).1 := by
  simp only [FilesystemStorageProvider.readBytes, FilesystemStorageProvider.requireExists,
    bind_assoc, call_bind, call_check]
  cases found : provider.resolve rel with
  | error exc => rfl
  | ok path =>
      have here := same path found
      simp only [andThen_ok, call_bind, call_get]
      cases stands : before.node path with
      | none => simp [here, stands]
      | some node => cases node <;> simp [here, stands]

theorem pathExists_congr {provider : FilesystemStorageProvider} {rel : List Char}
    {before after : HostTree}
    (same : ∀ path, provider.resolve rel = .ok path → after.node path = before.node path) :
    (call (provider.pathExists rel) after).1 = (call (provider.pathExists rel) before).1 := by
  simp only [FilesystemStorageProvider.pathExists, call_bind, call_check]
  cases found : provider.resolve rel with
  | error exc => rfl
  | ok path =>
      have here := same path found
      simp only [andThen_ok, call_bind, call_get, call_pure, here]

theorem checksum_congr {provider : FilesystemStorageProvider} {rel : List Char}
    {before after : HostTree} (codec : Codec) (algorithm : String)
    (same : ∀ path, provider.resolve rel = .ok path → after.node path = before.node path) :
    (call (provider.checksum codec rel algorithm) after).1 =
      (call (provider.checksum codec rel algorithm) before).1 := by
  have read := readBytes_congr same
  simp only [FilesystemStorageProvider.checksum, call_bind]
  rcases first : call (provider.readBytes rel) after with ⟨answer, last⟩
  rcases second : call (provider.readBytes rel) before with ⟨answer', last'⟩
  rw [first, second] at read
  subst read
  cases answer with
  | error exc => rfl
  | ok data => simp only [andThen_ok, call_check]

/-- What is loaded is the file that the URI denotes. -/
theorem load_ok_iff {uri : String} {tree : HostTree} {data : Bytes} :
    (call (manager.load uri) tree).1 = .ok data ↔
      ∃ path, manager.Denotes uri path ∧ tree.node path = some (.file data) := by
  simp only [load, FilesystemStorageProvider.readBytes, FilesystemStorageProvider.requireExists,
    bind_assoc, call_bind, call_check]
  constructor
  · intro loaded
    cases parsed : extractPath uri with
    | error exc =>
        rw [parsed] at loaded
        cases loaded
    | ok rel =>
        rw [parsed, andThen_ok, call_bind, call_check] at loaded
        cases resolved : manager.provider.resolve rel with
        | error exc =>
            rw [resolved] at loaded
            cases loaded
        | ok path =>
            refine ⟨path, ⟨rel, parsed, resolved⟩, ?_⟩
            rw [resolved] at loaded
            cases stands : tree.node path with
            | none => simp [stands] at loaded
            | some node => cases node <;> simp_all
  · rintro ⟨path, ⟨rel, parsed, resolved⟩, stands⟩
    simp [parsed, resolved, stands]

/-- The answers for a URI are those of the object it denotes. -/
theorem answers_congr {uri : String} {before after : HostTree}
    (same : ∀ path, manager.Denotes uri path → after.node path = before.node path) :
    manager.answers uri after = manager.answers uri before := by
  simp only [answers, load, objectExists, checksum, call_bind, call_check]
  cases parsed : extractPath uri with
  | error exc => rfl
  | ok rel =>
      have object : ∀ path, manager.provider.resolve rel = .ok path →
          after.node path = before.node path := fun path found => same path ⟨rel, parsed, found⟩
      simp only [andThen_ok, readBytes_congr object, pathExists_congr object,
        checksum_congr manager.codec _ object]

/-- Whatever the workspaces, a URI of the same path denotes the same object. -/
theorem denotes_workspace {first second : List Char} (named : first ≠ [] ∧ '/' ∉ first)
    (named' : second ≠ [] ∧ '/' ∉ second) (path : List Char) (object : HostPath) :
    manager.Denotes (uriOf first path) object ↔ manager.Denotes (uriOf second path) object := by
  have parsed : extractPath (uriOf first path) = .ok path := by
    rw [extractPath, parseUri_uriOf named.1 named.2]
    rfl
  have parsed' : extractPath (uriOf second path) = .ok path := by
    rw [extractPath, parseUri_uriOf named'.1 named'.2]
    rfl
  unfold Denotes
  rw [parsed, parsed']

/-- Calls that do not act on what a URI denotes, taken one after another, change no answer
for it. -/
theorem answers_unchanged (uri : String) (calls : List StorageCall) (tree : HostTree)
    (spared : Along (storageStep manager) (fun tree storageCall =>
      ∀ path, manager.Denotes uri path → manager.Spares path tree storageCall) tree calls) :
    manager.answers uri (run (storageStep manager) tree calls).2 =
      manager.answers uri tree := by
  apply answers_congr
  intro path denoted
  have kept : ∀ (now : HostTree) (storageCall : StorageCall), now.node path = tree.node path →
      (∀ path, manager.Denotes uri path → manager.Spares path now storageCall) →
      (storageStep manager now storageCall).2.node path = tree.node path := by
    intro now storageCall same spares
    exact (manager.storageStep_keeps storageCall (spares path denoted)).trans same
  exact @run_invariant_along _ _ _ _ _ (fun now : HostTree => now.node path = tree.node path)
    kept _ _ rfl spared

/-- A manager over an empty `/data`. -/
def plain : StorageManager where
  provider := ⟨["data".toList]⟩
  codec :=
    { encode := fun _ text => .ok (text.toList.map (fun char => UInt8.ofNat char.toNat))
      decode := fun _ data => .ok (String.ofList (data.map (fun byte => Char.ofNat byte.toNat)))
      computeChecksum := fun data _ => .ok (toString data.length) }

/-- What workspace alpha saves, workspace beta finds. -/
theorem answers_shared :
    let tree : HostTree := FileTree.empty.makeDirs ["data".toList]
    let calls := [StorageCall.save "storage://alpha/report.txt" [1]]
    (parseUri "storage://alpha/report.txt").map StorageURI.workspace = .ok "alpha".toList ∧
      (parseUri "storage://beta/report.txt").map StorageURI.workspace = .ok "beta".toList ∧
      plain.answers "storage://beta/report.txt" (run (storageStep plain) tree calls).2 ≠
        plain.answers "storage://beta/report.txt" tree := by
  intro tree calls
  refine ⟨by decide, by decide, fun same => ?_⟩
  have found := congrArg Answers.objectExists same
  have after : (plain.answers "storage://beta/report.txt"
      (run (storageStep plain) tree calls).2).objectExists = .ok true := by decide +kernel
  have before : (plain.answers "storage://beta/report.txt" tree).objectExists = .ok false := by
    decide +kernel
  rw [after, before] at found
  cases found

theorem answers_unchanged_elsewhere :
    let tree : HostTree := FileTree.empty.makeDirs ["data".toList]
    let calls := [StorageCall.save "storage://alpha/report.txt" [1]]
    plain.answers "storage://beta/notes.txt" (run (storageStep plain) tree calls).2 =
      plain.answers "storage://beta/notes.txt" tree := by
  intro tree calls
  have notes : plain.Denotes "storage://beta/notes.txt" ["data".toList, "notes.txt".toList] :=
    ⟨"notes.txt".toList, by decide, by decide⟩
  have report : plain.Denotes "storage://alpha/report.txt" ["data".toList, "report.txt".toList] :=
    ⟨"report.txt".toList, by decide, by decide⟩
  apply answers_unchanged
  refine ⟨fun path denoted target written => ?_, trivial⟩
  rw [denoted.eq notes, written.eq report]
  exact ⟨by decide, by decide⟩

end StorageManager

end LexMind.Storage
