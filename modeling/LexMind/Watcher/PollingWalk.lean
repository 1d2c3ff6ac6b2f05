import LexMind.Watcher.StoragePolling

set_option autoImplicit false

/- What the walk of a poll over the stored tree finds. -/
namespace LexMind.Watcher

open Lib Storage Relation

/-- The host resolves the root of the storage. -/
def PolledStorage.Resolved (storage : PolledStorage) : Prop :=
  HostPath.Normal storage.manager.provider.root

/-- The URI of what lies below the root of a watch. -/
def uriBelow (rootUri : String) (names : HostPath) : String := names.foldl childUri rootUri

theorem uriBelow_snoc (rootUri : String) (names : HostPath) (name : List Char) :
    uriBelow rootUri (names ++ [name]) = childUri (uriBelow rootUri names) name := by
  rw [uriBelow, List.foldl_append]
  rfl

theorem childUri_ne_empty (current : String) (name : List Char) : childUri current name ≠ "" := by
  intro empty
  have chars := congrArg String.toList empty
  rw [childUri, String.toList_ofList] at chars
  exact List.cons_ne_nil _ _ (List.append_eq_nil_iff.mp chars).2

namespace StoragePollingBackend

variable {storage : PolledStorage} {config : PolledConfig} {current : String} {path : HostPath}

theorem denotes_child (resolved : storage.Resolved) (denoted : storage.manager.Denotes current path)
    {name : List Char} (legal : LegalName name) :
    storage.manager.Denotes (childUri current name) (path ++ [name]) := by
  obtain ⟨rel, read, found⟩ := denoted
  exact ⟨childPath rel name, extractPath_childUri read name,
    resolve_childPath resolved found legal⟩

/-- How large the file at a path is. -/
def sizeAt (tree : StoredTree) (path : HostPath) : Nat :=
  match tree.node path with
  | some (.file data) => data.length
  | _ => 0

theorem list_denoted (denoted : storage.manager.Denotes current path) (present : current ≠ "")
    (heard : storage.failure current = none) :
    storage.tree.node path = some .dir ∧
        storage.list current = .ok (storage.tree.names path) ∨
      storage.tree.node path ≠ some .dir ∧ ∃ exc, storage.list current = .error exc := by
  obtain ⟨rel, read, found⟩ := denoted
  simp only [PolledStorage.list, heard, StorageManager.list, present, ↓reduceIte, read, bind,
    Except.bind, FilesystemStorageProvider.list, found]
  rcases storage.tree.node path with _ | (_ | data)
  · exact .inr ⟨nofun, _, rfl⟩
  · exact .inl ⟨rfl, rfl⟩
  · exact .inr ⟨nofun, _, rfl⟩

theorem stat_denoted (denoted : storage.manager.Denotes current path) :
    ∃ stat, storage.stat current = .ok stat ∧
      (stat.isDirectory = true ↔ storage.tree.node path = some .dir) ∧
      stat.size = sizeAt storage.tree path := by
  obtain ⟨rel, read, found⟩ := denoted
  simp only [PolledStorage.stat, StorageManager.stat, read, bind, Except.bind,
    FilesystemStorageProvider.stat, found, sizeAt]
  rcases storage.tree.node path with _ | (_ | data)
  · exact ⟨_, rfl, by simp, rfl⟩
  · exact ⟨_, rfl, by simp, rfl⟩
  · exact ⟨_, rfl, by simp, rfl⟩

/-- The directories among the names in a directory that the walk goes on to. -/
def subdirs (storage : PolledStorage) (config : PolledConfig) (current : String) (path : HostPath)
    (names : List (List Char)) : List String :=
  if config.recursive then
    (names.filter (fun name => storage.tree.node (path ++ [name]) = some .dir)).map
      (childUri current)
  else []

def files (storage : PolledStorage) (current : String) (path : HostPath)
    (names : List (List Char)) : List (String × Nat) :=
  (names.filter (fun name => storage.tree.node (path ++ [name]) ≠ some .dir)).map
    (fun name => (childUri current name, sizeAt storage.tree (path ++ [name])))

theorem visit_spec (resolved : storage.Resolved) (denoted : storage.manager.Denotes current path)
    {names : List (List Char)} (legal : ∀ name ∈ names, LegalName name) (stack : List String)
    (result : Snapshot) :
    visit storage config current names (stack, result) =
      .ok ((subdirs storage config current path names).reverse ++ stack,
        result.putAll (files storage current path names)) := by
  induction names generalizing stack result with
  | nil => simp [visit, subdirs, files, Keyed.putAll]
  | cons name rest ih =>
      have later := ih (fun other inside => legal other (List.mem_cons_of_mem _ inside))
      obtain ⟨stat, answered, directory, size⟩ :=
        stat_denoted (denotes_child resolved denoted (legal name List.mem_cons_self))
      simp only [visit, answered]
      by_cases dir : storage.tree.node (path ++ [name]) = some .dir
      · rw [if_pos (directory.mpr dir), later]
        by_cases recursive : config.recursive = true <;>
          simp [subdirs, files, dir, recursive]
      · rw [if_neg (fun is => dir (directory.mp is)), later]
        simp [subdirs, files, dir, size, Keyed.putAll]

/-- The directory that a `list` call lists, where it does not fail. -/
def dirOf (storage : PolledStorage) (uri : String) : Option HostPath :=
  match storage.failure uri, extractPath uri with
  | none, .ok rel =>
      match storage.manager.provider.resolve rel with
      | .ok path => if storage.tree.node path = some .dir then some path else none
      | .error _ => none
  | _, _ => none

def nextDirs (storage : PolledStorage) (config : PolledConfig) (uri : String) : List String :=
  match dirOf storage uri with
  | some path => (subdirs storage config uri path (storage.tree.names path)).reverse
  | none => []

def filesIn (storage : PolledStorage) (uri : String) : List (String × Nat) :=
  match dirOf storage uri with
  | some path => files storage uri path (storage.tree.names path)
  | none => []

theorem dirOf_eq_some {uri : String} : dirOf storage uri = some path ↔
    storage.failure uri = none ∧ storage.manager.Denotes uri path ∧
      storage.tree.node path = some .dir := by
  unfold dirOf
  cases storage.failure uri with
  | some exc => exact ⟨nofun, nofun⟩
  | none =>
      cases read : extractPath uri with
      | error exc =>
          refine ⟨nofun, ?_⟩
          rintro ⟨_, ⟨rel, other, _⟩, _⟩
          cases read.symm.trans other
      | ok rel =>
          dsimp only
          cases found : storage.manager.provider.resolve rel with
          | error exc =>
              refine ⟨nofun, ?_⟩
              rintro ⟨_, ⟨rel', other, reached⟩, _⟩
              cases read.symm.trans other
              cases found.symm.trans reached
          | ok other =>
              dsimp only
              constructor
              · intro held
                split at held
                · rename_i dir
                  cases held
                  exact ⟨rfl, ⟨rel, read, found⟩, dir⟩
                · cases held
              · rintro ⟨_, ⟨rel', same, reached⟩, dir⟩
                cases read.symm.trans same
                cases found.symm.trans reached
                exact if_pos dir

theorem list_of_dirOf {uri : String} (found : dirOf storage uri = some path) (present : uri ≠ "") :
    storage.list uri = .ok (storage.tree.names path) := by
  obtain ⟨heard, denoted, dir⟩ := dirOf_eq_some.mp found
  exact ((list_denoted denoted present heard).resolve_right (fun other => other.1 dir)).2

theorem list_of_dirOf_none {uri : String} (none : dirOf storage uri = none) (present : uri ≠ "") :
    ∃ exc, storage.list uri = .error exc := by
  cases heard : storage.failure uri with
  | some exc => exact ⟨exc, by rw [PolledStorage.list, heard]⟩
  | none =>
      cases read : extractPath uri with
      | error exc =>
          exact ⟨exc, by
            simp only [PolledStorage.list, heard, StorageManager.list, present, ↓reduceIte, read]
            rfl⟩
      | ok rel =>
          cases found : storage.manager.provider.resolve rel with
          | error exc =>
              exact ⟨exc, by
                simp only [PolledStorage.list, heard, StorageManager.list, present, ↓reduceIte,
                  read, bind, Except.bind, FilesystemStorageProvider.list, found]⟩
          | ok other =>
              have denoted : storage.manager.Denotes uri other := ⟨rel, read, found⟩
              rcases list_denoted denoted present heard with ⟨dir, _⟩ | ⟨_, refused⟩
              · cases none.symm.trans (dirOf_eq_some.mpr ⟨heard, denoted, dir⟩)
              · exact refused

theorem stacked_present {stack : List String} (later : ∀ uri ∈ stack, uri ≠ "")
    {names : List (List Char)} :
    ∀ uri ∈ (subdirs storage config current path names).reverse ++ stack, uri ≠ "" := by
  intro uri inside
  rcases List.mem_append.mp inside with pushed | before
  · rw [List.mem_reverse, subdirs] at pushed
    split at pushed
    · obtain ⟨name, _, rfl⟩ := List.mem_map.mp pushed
      exact childUri_ne_empty current name
    · cases pushed
  · exact later uri before

/-- The loop over the stack, as the walk over the directories that answer. -/
theorem walk_eq (resolved : storage.Resolved) {fuel : Nat} {stack : List String}
    (present : ∀ uri ∈ stack, uri ≠ "") (result : Snapshot) :
    walk storage config fuel stack result =
      (stackWalk (nextDirs storage config) (filesIn storage) fuel stack).map
        (fun rows => .ok (result.putAll rows)) := by
  induction fuel generalizing stack result with
  | zero => cases stack <;> rfl
  | succ fuel ih =>
      cases stack with
      | nil => rfl
      | cons current stack =>
          have named := present current List.mem_cons_self
          have later : ∀ uri ∈ stack, uri ≠ "" :=
            fun uri inside => present uri (List.mem_cons_of_mem _ inside)
          rw [walk, stackWalk]
          cases found : dirOf storage current with
          | none =>
              obtain ⟨exc, refused⟩ := list_of_dirOf_none found named
              simp only [refused, nextDirs, filesIn, found, List.nil_append, Option.map_map]
              exact ih later result
          | some path =>
              have legal : ∀ name ∈ storage.tree.names path, LegalName name :=
                fun name inside => storage.tree.legal path name ((storage.tree.mem_names _ _).mp inside)
              rw [list_of_dirOf found named]
              dsimp only
              rw [visit_spec resolved (dirOf_eq_some.mp found).2.1 legal]
              simp only [nextDirs, filesIn, found, Option.map_map]
              rw [ih (stacked_present later)]
              congr 1
              funext rows
              exact congrArg _ (List.foldl_append ..).symm

/-- One for the directory, and one for each path below it. -/
def weight (storage : PolledStorage) (uri : String) : Nat :=
  match dirOf storage uri with
  | some path => 1 + below storage.tree.paths path
  | none => 1

theorem nextDirs_shrinks (resolved : storage.Resolved) (uri : String) :
    ((nextDirs storage config uri).map (weight storage)).sum < weight storage uri := by
  unfold nextDirs weight
  cases found : dirOf storage uri with
  | none => exact Nat.one_pos
  | some path =>
      dsimp only
      have denoted := (dirOf_eq_some.mp found).2.1
      set dirs := (storage.tree.names path).filter
        (fun name => storage.tree.node (path ++ [name]) = some .dir) with named
      have one : ∀ name ∈ dirs, weight storage (childUri uri name) ≤
          1 + below storage.tree.paths (path ++ [name]) := by
        intro name inside
        have listed := (storage.tree.mem_names _ _).mp (List.mem_filter.mp inside).1
        have child := denotes_child resolved denoted (storage.tree.legal path name listed)
        rw [weight]
        cases reached : dirOf storage (childUri uri name) with
        | none => exact Nat.le_add_right _ _
        | some other =>
            rw [child.eq (dirOf_eq_some.mp reached).2.1]
      have total : (dirs.map (fun name => 1 + below storage.tree.paths (path ++ [name]))).sum ≤
          below storage.tree.paths path := by
        refine sum_below_le ((storage.tree.names_nodup path).filter _) (fun name inside => ?_)
        exact storage.tree.listed _ ((storage.tree.mem_names _ _).mp (List.mem_filter.mp inside).1)
      have pushed : ((subdirs storage config uri path (storage.tree.names path)).map
          (weight storage)).sum ≤ below storage.tree.paths path := by
        unfold subdirs
        split
        · rw [List.map_map]
          exact (List.sum_le_sum one).trans total
        · exact Nat.zero_le _
      rw [List.map_reverse, List.sum_reverse]
      exact Nat.lt_of_le_of_lt pushed (Nat.lt_add_of_pos_left Nat.one_pos)

/-- The files a watch is about: below the root, and in the root itself where the watch is not
recursive. -/
structure InScope (tree : StoredTree) (config : PolledConfig) (top names : HostPath)
    (data : Bytes) : Prop where
  file : tree.node (top ++ names) = some (.file data)
  strict : names ≠ []
  immediate : config.recursive = false → names.length = 1

/-- No `list` call fails at the root or at a directory above what the names lead to. -/
def Heard (storage : PolledStorage) (config : PolledConfig) (names : HostPath) : Prop :=
  ∀ front, front <+: names → front ≠ names →
    storage.failure (uriBelow config.rootUri front) = none

theorem Heard.front {front : HostPath} {name : List Char}
    (heard : Heard storage config (front ++ [name])) : Heard storage config front := by
  intro earlier within _
  refine heard earlier (within.trans (List.prefix_append _ _)) (fun same => ?_)
  have lengths := (same ▸ within).length_le
  simp at lengths

theorem Heard.snoc {names : HostPath} (heard : Heard storage config names)
    (answers : storage.failure (uriBelow config.rootUri names) = none) (name : List Char) :
    Heard storage config (names ++ [name]) := by
  intro front within strict
  rcases List.prefix_concat_iff.mp within with whole | early
  · exact absurd whole strict
  · by_cases last : front = names
    · rw [last]
      exact answers
    · exact heard front early last

theorem denotes_below (resolved : storage.Resolved) {rootUri : String} {top names : HostPath}
    (denoted : storage.manager.Denotes rootUri top)
    (present : storage.tree.node (top ++ names) ≠ none) :
    storage.manager.Denotes (uriBelow rootUri names) (top ++ names) := by
  induction names using List.reverseRecOn with
  | nil => rwa [List.append_nil]
  | append_singleton front name ih =>
      rw [← List.append_assoc] at present ⊢
      have parent := storage.tree.nested _ name present
      rw [uriBelow_snoc]
      exact denotes_child resolved (ih (by rw [parent]; nofun)) (storage.tree.legal _ name present)

/-- What the walk reaches is the root, or a directory below it where the watch is recursive, and no
`list` call above it has failed. -/
theorem reached_below (resolved : storage.Resolved) {top : HostPath}
    (denoted : storage.manager.Denotes config.rootUri top) {uri : String}
    (path : ReflTransGen (fun first second => second ∈ nextDirs storage config first)
      config.rootUri uri) :
    ∃ names, uri = uriBelow config.rootUri names ∧
      storage.manager.Denotes uri (top ++ names) ∧
      (config.recursive = false → names = []) ∧ Heard storage config names := by
  induction path with
  | refl =>
      refine ⟨[], rfl, by rwa [List.append_nil], fun _ => rfl, fun front within strict => ?_⟩
      exact absurd (List.prefix_nil.mp within) strict
  | tail _ step ih =>
      obtain ⟨names, rfl, denoted, flat, heard⟩ := ih
      unfold nextDirs at step
      split at step
      · rename_i path found
        obtain ⟨answers, here, _⟩ := dirOf_eq_some.mp found
        cases denoted.eq here
        rw [List.mem_reverse, subdirs] at step
        split at step
        · rename_i recursive
          obtain ⟨name, inside, rfl⟩ := List.mem_map.mp step
          have listed := (storage.tree.mem_names _ _).mp (List.mem_filter.mp inside).1
          refine ⟨names ++ [name], (uriBelow_snoc _ _ _).symm, ?_, fun flat => ?_, ?_⟩
          · rw [← List.append_assoc]
            exact denotes_child resolved denoted (storage.tree.legal _ name listed)
          · rw [recursive] at flat
            cases flat
          · exact heard.snoc answers name
        · cases step
      · cases step

/-- The files of a directory that can be listed, with their sizes. -/
theorem mem_filesIn (uri : String) (row : String × Nat) :
    row ∈ filesIn storage uri ↔ ∃ place name data, dirOf storage uri = some place ∧
      storage.tree.node (place ++ [name]) = some (.file data) ∧
      row = (childUri uri name, data.length) := by
  unfold filesIn
  cases found : dirOf storage uri with
  | none => simp
  | some place =>
      constructor
      · intro held
        obtain ⟨name, inside, rfl⟩ := List.mem_map.mp held
        obtain ⟨listed, leaf⟩ := List.mem_filter.mp inside
        have present := (storage.tree.mem_names _ _).mp listed
        have notDir := of_decide_eq_true leaf
        rcases stands : storage.tree.node (place ++ [name]) with _ | (_ | data)
        · exact absurd stands present
        · exact absurd stands notDir
        · exact ⟨place, name, data, rfl, stands, by rw [sizeAt, stands]⟩
      · rintro ⟨_, name, data, same, stands, rfl⟩
        cases same
        refine List.mem_map.mpr ⟨name, List.mem_filter.mpr ⟨?_, ?_⟩, ?_⟩
        · rw [storage.tree.mem_names, stands]
          nofun
        · rw [stands]
          rfl
        · rw [sizeAt, stands]

/-- The walk gets to each directory below which there is something in scope that it hears of. -/
theorem reaches (resolved : storage.Resolved) {top : HostPath}
    (denoted : storage.manager.Denotes config.rootUri top) {names : HostPath}
    (dir : storage.tree.node (top ++ names) = some .dir)
    (recursive : names ≠ [] → config.recursive = true) (heard : Heard storage config names) :
    ReflTransGen (fun first second => second ∈ nextDirs storage config first)
      config.rootUri (uriBelow config.rootUri names) := by
  induction names using List.reverseRecOn with
  | nil => exact .refl
  | append_singleton front name ih =>
      have deeper := recursive (by simp)
      rw [← List.append_assoc] at dir
      have parent := storage.tree.nested _ name (by rw [dir]; nofun)
      refine (ih parent (fun _ => deeper) heard.front).tail ?_
      have answers := heard front (List.prefix_append _ _) (by simp)
      have found : dirOf storage (uriBelow config.rootUri front) = some (top ++ front) :=
        dirOf_eq_some.mpr ⟨answers, denotes_below resolved denoted (by rw [parent]; nofun), parent⟩
      rw [nextDirs, found, uriBelow_snoc]
      dsimp only
      rw [List.mem_reverse, subdirs, if_pos deeper]
      refine List.mem_map_of_mem (List.mem_filter.mpr ⟨?_, decide_eq_true dir⟩)
      rw [storage.tree.mem_names, dir]
      nofun

theorem found_iff (resolved : storage.Resolved) {top : HostPath}
    (denoted : storage.manager.Denotes config.rootUri top) (row : String × Nat) :
    (∃ uri, ReflTransGen (fun first second => second ∈ nextDirs storage config first)
        config.rootUri uri ∧ row ∈ filesIn storage uri) ↔
      ∃ names data, InScope storage.tree config top names data ∧ Heard storage config names ∧
        row = (uriBelow config.rootUri names, data.length) := by
  constructor
  · rintro ⟨uri, path, held⟩
    obtain ⟨names, rfl, here, flat, heard⟩ := reached_below resolved denoted path
    obtain ⟨place, name, data, found, stands, rfl⟩ := (mem_filesIn _ _).mp held
    obtain ⟨answers, there, _⟩ := dirOf_eq_some.mp found
    cases here.eq there
    refine ⟨names ++ [name], data, ⟨?_, by simp, fun once => ?_⟩, heard.snoc answers name, ?_⟩
    · rw [← List.append_assoc]
      exact stands
    · rw [flat once]
      rfl
    · rw [uriBelow_snoc]
  · rintro ⟨names, data, ⟨file, strict, immediate⟩, heard, rfl⟩
    obtain ⟨front, name, rfl⟩ := (List.eq_nil_or_concat' names).resolve_left strict
    rw [← List.append_assoc] at file
    have dir := storage.tree.nested _ name (by rw [file]; nofun)
    have answers := heard front (List.prefix_append _ _) (by simp)
    refine ⟨uriBelow config.rootUri front, reaches resolved denoted dir (fun deep => ?_) ?_, ?_⟩
    · by_contra flat
      have once := immediate (Bool.not_eq_true _ ▸ flat)
      rw [List.length_append] at once
      exact deep (List.length_eq_zero_iff.mp (by simpa using once))
    · exact heard.front
    · have found : dirOf storage (uriBelow config.rootUri front) = some (top ++ front) :=
        dirOf_eq_some.mpr ⟨answers, denotes_below resolved denoted (by rw [dir]; nofun), dir⟩
      rw [uriBelow_snoc]
      exact (mem_filesIn _ _).mpr ⟨top ++ front, name, data, found, file, rfl⟩

/-- A URI below the root leads to one file only. -/
theorem same_below (resolved : storage.Resolved) {top names names' : HostPath}
    (denoted : storage.manager.Denotes config.rootUri top) {data data' : Bytes}
    (inScope : InScope storage.tree config top names data)
    (inScope' : InScope storage.tree config top names' data')
    (same : uriBelow config.rootUri names = uriBelow config.rootUri names') :
    names = names' ∧ data = data' := by
  have first : storage.manager.Denotes (uriBelow config.rootUri names) (top ++ names) :=
    denotes_below resolved denoted (by rw [inScope.file]; nofun)
  have second : storage.manager.Denotes (uriBelow config.rootUri names') (top ++ names') :=
    denotes_below resolved denoted (by rw [inScope'.file]; nofun)
  rw [same] at first
  have path := List.append_cancel_left (first.eq second)
  subst path
  exact ⟨rfl, Node.file.inj (Option.some.inj (inScope.file.symm.trans inScope'.file))⟩

theorem weight_le (uri : String) : weight storage uri ≤ storage.tree.paths.length + 1 := by
  unfold weight
  split
  · rename_i path _
    have bound : below storage.tree.paths path ≤ storage.tree.paths.length :=
      List.countP_le_length
    omega
  · exact Nat.le_add_left 1 _

/-- The snapshot of a watch holds the files in scope that the walk hears of, under their URIs and
with their sizes. -/
theorem snapshot_spec (resolved : storage.Resolved) {top : HostPath}
    (denoted : storage.manager.Denotes config.rootUri top) :
    ∃ taken, snapshot storage config = some (.ok taken) ∧ ∀ uri size,
      taken.find? uri = some (uri, size) ↔ ∃ names data,
        InScope storage.tree config top names data ∧ Heard storage config names ∧
        uri = uriBelow config.rootUri names ∧ size = data.length := by
  have enough : ([config.rootUri].map (weight storage)).sum ≤ storage.tree.paths.length + 1 := by
    simpa using weight_le config.rootUri
  have shrinks (uri : String) :
      ((nextDirs storage config uri).map (weight storage)).sum < weight storage uri :=
    nextDirs_shrinks resolved uri
  obtain ⟨rows, walked, reached⟩ := @stackWalk_spec _ _ _ (filesIn storage) _ shrinks _ _ enough
  have present : ∀ uri ∈ [config.rootUri], uri ≠ "" := fun uri inside =>
    List.mem_singleton.mp inside ▸ config.rooted
  have members (row : String × Nat) : row ∈ rows ↔ ∃ names data,
      InScope storage.tree config top names data ∧ Heard storage config names ∧
      row = (uriBelow config.rootUri names, data.length) := by
    rw [reached, ← found_iff resolved denoted]
    simp only [List.mem_singleton, exists_eq_left]
  refine ⟨Keyed.empty.putAll rows, ?_, fun uri size => ?_⟩
  · rw [snapshot, walk_eq resolved present, walked, Option.map_some]
  · have functional : ∀ first ∈ rows, ∀ second ∈ rows, first.1 = second.1 → first = second := by
      intro first early second late same
      obtain ⟨names, data, inScope, _, rfl⟩ := (members first).mp early
      obtain ⟨names', data', inScope', _, rfl⟩ := (members second).mp late
      obtain ⟨rfl, rfl⟩ := same_below resolved denoted inScope inScope' same
      rfl
    rw [Keyed.find?_putAll functional, and_iff_left rfl, members]
    simp only [Prod.mk.injEq]

/-- Where the root of a watch names nothing that the storage resolves, the snapshot is empty. -/
theorem snapshot_unresolved
    (undenoted : ∀ top, ¬ storage.manager.Denotes config.rootUri top) :
    snapshot storage config = some (.ok .empty) := by
  have none : dirOf storage config.rootUri = none := by
    cases found : dirOf storage config.rootUri with
    | none => rfl
    | some path => exact absurd (dirOf_eq_some.mp found).2.1 (undenoted path)
  obtain ⟨exc, refused⟩ := list_of_dirOf_none none config.rooted
  rw [snapshot, walk, refused]
  cases storage.tree.paths.length <;> rfl

end StoragePollingBackend

end LexMind.Watcher
