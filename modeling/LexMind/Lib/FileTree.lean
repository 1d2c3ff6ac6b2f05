import Mathlib.Data.List.Infix

set_option autoImplicit false

/- Trees of directories and files, as what stands at each path. -/
namespace Lib

inductive Node (β : Type) where
  | dir
  | file (content : β)
deriving DecidableEq, Repr

def Node.isFile {β : Type} : Node β → Bool
  | dir => false
  | file _ => true

/-- The root is a directory, and whatever stands at a path stands in a directory. -/
structure FileTree (α β : Type) where
  node : List α → Option (Node β)
  rooted : node [] = some .dir
  nested : ∀ path name, node (path ++ [name]) ≠ none → node path = some .dir

namespace FileTree

variable {α β : Type}

def empty : FileTree α β where
  node path := if path.isEmpty then some .dir else none
  rooted := rfl
  nested path name present := absurd (by simp) present

theorem dir_of_below (tree : FileTree α β) {path rest : List α} (strict : rest ≠ [])
    (present : tree.node (path ++ rest) ≠ none) : tree.node path = some .dir := by
  induction rest using List.reverseRecOn with
  | nil => exact absurd rfl strict
  | append_singleton rest name ih =>
      rw [← List.append_assoc] at present
      have inside := tree.nested _ name present
      by_cases last : rest = []
      · rwa [last, List.append_nil] at inside
      · exact ih last (by rw [inside]; exact Option.some_ne_none _)

/-- All that a directory's path goes through is a directory. -/
theorem dir_of_prefix (tree : FileTree α β) {front path : List α} (above : front <+: path)
    (stands : tree.node path = some .dir) : tree.node front = some .dir := by
  obtain ⟨rest, rfl⟩ := above
  by_cases last : rest = []
  · rwa [last, List.append_nil] at stands
  · exact tree.dir_of_below last (by rw [stands]; exact Option.some_ne_none _)

/-- Whatever stands at a path has a directory for its parent. -/
theorem dir_dropLast (tree : FileTree α β) {path : List α} (present : tree.node path ≠ none) :
    tree.node path.dropLast = some .dir := by
  rcases List.eq_nil_or_concat' path with rfl | ⟨front, name, rfl⟩
  · exact tree.rooted
  · rw [List.dropLast_concat]
    exact tree.nested front name present

/-- Nothing stands below a path that is not a directory. -/
theorem none_of_below (tree : FileTree α β) {path other : List α} (below : path <+: other)
    (strict : path ≠ other) (leaf : tree.node path ≠ some .dir) : tree.node other = none := by
  obtain ⟨rest, rfl⟩ := below
  by_contra present
  exact leaf (tree.dir_of_below (fun last => strict (by rw [last, List.append_nil])) present)

/-- A file stands at the path or above it. -/
def blocked (tree : FileTree α β) (path : List α) : Bool :=
  path.inits.any (fun front => (tree.node front).any Node.isFile)

theorem dir_of_blocked_false {tree : FileTree α β} {path front : List α}
    (clear : tree.blocked path = false) (above : front <+: path)
    (present : tree.node front ≠ none) : tree.node front = some .dir := by
  have file := List.any_eq_false.mp clear front ((List.mem_inits front path).mpr above)
  cases found : tree.node front with
  | none => exact absurd found present
  | some node =>
      cases node with
      | dir => rfl
      | file content =>
          rw [found] at file
          exact absurd rfl file

/-- Nothing blocks the way to a directory. -/
theorem blocked_of_dir (tree : FileTree α β) {path : List α} (stands : tree.node path = some .dir) :
    tree.blocked path = false := by
  apply List.any_eq_false.mpr
  intro front inside file
  have directory : tree.node front = some .dir :=
    tree.dir_of_prefix ((List.mem_inits front path).mp inside) stands
  rw [directory] at file
  cases file

theorem blocked_front (tree : FileTree α β) {front path : List α} (above : front <+: path)
    (clear : tree.blocked path = false) : tree.blocked front = false := by
  apply List.any_eq_false.mpr
  intro other inside
  exact List.any_eq_false.mp clear other
    ((List.mem_inits other path).mpr (((List.mem_inits other front).mp inside).trans above))

/-- The tree that stands below a path. -/
def below (tree : FileTree α β) (path : List α) : FileTree α β where
  node rest := if rest.isEmpty then some .dir else tree.node (path ++ rest)
  rooted := rfl
  nested rest name present := by
    split
    · rfl
    · rw [if_neg (by simp), ← List.append_assoc] at present
      exact tree.nested _ name present

theorem ext_node {first second : FileTree α β} (same : first.node = second.node) :
    first = second := by
  cases first
  cases second
  cases same
  rfl

variable [DecidableEq α]

/-- Make a path and all above it directories. -/
def makeDirs (tree : FileTree α β) (path : List α) : FileTree α β where
  node other := if other <+: path then some .dir else tree.node other
  rooted := if_pos List.nil_prefix
  nested other name present := by
    split at present
    · rename_i above
      exact if_pos ((List.prefix_append other [name]).trans above)
    · have inside := tree.nested other name present
      split
      · rfl
      · exact inside

/-- Put a tree at a path, in place of what stands there. -/
def graft (tree : FileTree α β) (path : List α) (sub : FileTree α β) : FileTree α β where
  node other :=
    if path <+: other then sub.node (other.drop path.length)
    else if other <+: path then some .dir
    else tree.node other
  rooted := by
    split
    · simpa using sub.rooted
    · exact if_pos List.nil_prefix
  nested other name present := by
    by_cases inside : path <+: other
    · rw [if_pos (inside.trans (List.prefix_append other [name])),
        List.drop_append_of_le_length inside.length_le] at present
      rw [if_pos inside]
      exact sub.nested _ name present
    · rw [if_neg inside]
      by_cases above : other <+: path
      · exact if_pos above
      · rw [if_neg above]
        rw [if_neg, if_neg] at present
        · exact tree.nested other name present
        · exact fun longer => above ((List.prefix_append other [name]).trans longer)
        · intro within
          rcases List.prefix_concat_iff.mp within with same | shorter
          · exact above (same ▸ List.prefix_append other [name])
          · exact inside shorter

/-- Put a file at a path, in place of what stands there; the root stays a directory. -/
def putFile (tree : FileTree α β) (path : List α) (content : β) : FileTree α β where
  node other :=
    if other <+: path ∧ other ≠ path ∨ other = [] then some .dir
    else if other = path then some (.file content)
    else if path <+: other then none
    else tree.node other
  rooted := if_pos (.inr rfl)
  nested other name present := by
    by_cases directory : other <+: path ∧ other ≠ path ∨ other = []
    · exact if_pos directory
    · have above : ¬ other ++ [name] <+: path := by
        intro longer
        have short := longer.length_le
        rw [List.length_append, List.length_singleton] at short
        refine directory (.inl ⟨(List.prefix_append other [name]).trans longer, fun same => ?_⟩)
        rw [same] at short
        omega
      have outside : ¬ path <+: other ++ [name] := by
        intro within
        rw [if_neg, if_neg, if_pos within] at present
        · exact absurd rfl present
        · rintro rfl
          exact above (List.prefix_refl _)
        · rintro (⟨longer, _⟩ | none)
          · exact above longer
          · simp at none
      have apart : ¬ path <+: other := fun within =>
        outside (within.trans (List.prefix_append other [name]))
      rw [if_neg, if_neg, if_neg outside] at present
      · rw [if_neg directory, if_neg, if_neg apart]
        · exact tree.nested other name present
        · rintro rfl
          exact apart (List.prefix_refl _)
      · rintro rfl
        exact outside (List.prefix_refl _)
      · rintro (⟨longer, _⟩ | none)
        · exact above longer
        · simp at none

/-- Remove what stands at a path and below it; the root stays. -/
def remove (tree : FileTree α β) (path : List α) : FileTree α β where
  node other := if other = [] then some .dir else if path <+: other then none else tree.node other
  rooted := if_pos rfl
  nested other name present := by
    rw [if_neg (by simp)] at present
    split at present
    · exact absurd rfl present
    · rename_i outside
      split
      · rfl
      · rw [if_neg (fun within => outside (within.trans (List.prefix_append other [name])))]
        exact tree.nested other name present

section Frames

variable {tree : FileTree α β} {path other : List α}

/-- What a new directory leaves as it was: all that is a directory or not above it. -/
theorem makeDirs_frame (kept : other <+: path → tree.node other = some .dir) :
    (tree.makeDirs path).node other = tree.node other := by
  change (if other <+: path then some .dir else tree.node other) = tree.node other
  split
  · rename_i above
    exact (kept above).symm
  · rfl

/-- A tree put where nothing stands leaves alone whatever it has nothing to put at. -/
theorem graft_frame {sub : FileTree α β} (free : tree.node path = none)
    (nothing : ∀ rest, other = path ++ rest → sub.node rest = none)
    (kept : other <+: path → tree.node other = some .dir) :
    (tree.graft path sub).node other = tree.node other := by
  change (if path <+: other then _ else if other <+: path then _ else _) = _
  by_cases inside : path <+: other
  · obtain ⟨rest, rfl⟩ := inside
    have vacant : tree.node (path ++ rest) = none := by
      by_cases same : path = path ++ rest
      · rw [← same]
        exact free
      · apply tree.none_of_below (List.prefix_append path rest) same
        rw [free]
        exact fun none => nomatch none
    rw [if_pos (List.prefix_append path rest), List.drop_left, nothing rest rfl, vacant]
  · rw [if_neg inside]
    split
    · rename_i above
      exact (kept above).symm
    · rfl

theorem putFile_self {content : β} (leaf : tree.node path ≠ some .dir) :
    (tree.putFile path content).node path = some (.file content) := by
  have strict : path ≠ [] := by
    rintro rfl
    exact leaf tree.rooted
  change (if path <+: path ∧ path ≠ path ∨ path = [] then _ else if path = path then _ else _) = _
  rw [if_neg (by simp [strict]), if_pos rfl]

/-- A file put where no directory stands changes no other path but those above it. -/
theorem putFile_frame (content : β) (leaf : tree.node path ≠ some .dir) (differs : path ≠ other)
    (kept : other <+: path → tree.node other = some .dir) :
    (tree.putFile path content).node other = tree.node other := by
  change (if other <+: path ∧ other ≠ path ∨ other = [] then _ else _) = _
  split
  · rename_i directory
    rcases directory with ⟨above, _⟩ | rfl
    · exact (kept above).symm
    · exact tree.rooted.symm
  · rw [if_neg differs.symm]
    split
    · rename_i within
      exact (tree.none_of_below within differs leaf).symm
    · rfl

theorem remove_frame (vacant : path <+: other → tree.node other = none) :
    (tree.remove path).node other = tree.node other := by
  change (if other = [] then _ else if path <+: other then none else tree.node other) = _
  split
  · rename_i root
    rw [root]
    exact tree.rooted.symm
  · split
    · rename_i inside
      exact (vacant inside).symm
    · rfl

omit [DecidableEq α] in
/-- All that a path in a directory goes through is a directory. -/
theorem dir_above (parent : tree.node path.dropLast = some .dir) (above : other <+: path)
    (differs : path ≠ other) : tree.node other = some .dir := by
  rcases List.eq_nil_or_concat' path with rfl | ⟨front, name, rfl⟩
  · exact absurd (List.prefix_nil.mp above).symm differs
  · rw [List.dropLast_concat] at parent
    rcases List.prefix_concat_iff.mp above with same | shorter
    · exact absurd same.symm differs
    · exact tree.dir_of_prefix shorter parent

theorem makeDirs_node (above : other <+: path) : (tree.makeDirs path).node other = some .dir :=
  if_pos above

/-- A path does not change when its parent is made a directory. -/
theorem makeDirs_dropLast : (tree.makeDirs path.dropLast).node path = tree.node path := by
  apply makeDirs_frame
  intro above
  have short := above.length_le
  rw [List.length_dropLast] at short
  have none : path = [] := by
    apply List.eq_nil_of_length_eq_zero
    omega
  rw [none]
  exact tree.rooted

/-- A directory that is there already is not made again. -/
theorem makeDirs_of_dir (stands : tree.node path = some .dir) : tree.makeDirs path = tree := by
  apply ext_node
  funext other
  apply makeDirs_frame
  intro above
  exact tree.dir_of_prefix above stands

/-- A file that is there already, with the same content, is not changed. -/
theorem putFile_of_file {content : β} (stands : tree.node path = some (.file content)) :
    tree.putFile path content = tree := by
  have leaf : tree.node path ≠ some .dir := by
    rw [stands]
    exact fun same => nomatch same
  apply ext_node
  funext other
  by_cases same : path = other
  · rw [← same, putFile_self leaf, stands]
  · apply putFile_frame content leaf same
    rintro ⟨rest, rfl⟩
    have proper : rest ≠ [] := by
      rintro rfl
      exact same (List.append_nil other)
    apply tree.dir_of_below proper
    rw [stands]
    exact fun none => nomatch none

/-- Directories made outside a path change nothing below it. -/
theorem below_makeDirs (outside : ¬ other <+: path) :
    ((tree.makeDirs path).below other).node = (tree.below other).node := by
  funext rest
  have apart : ¬ other ++ rest <+: path := fun above =>
    outside ((List.prefix_append other rest).trans above)
  change (if rest.isEmpty then _ else if other ++ rest <+: path then _ else _) = _
  rw [if_neg apart]
  rfl

omit [DecidableEq α] in
/-- A directory's tree is what stands below it. -/
theorem below_of_dir (stands : tree.node path = some .dir) (rest : List α) :
    (tree.below path).node rest = tree.node (path ++ rest) := by
  change (if rest.isEmpty then _ else _) = _
  split
  · rename_i empty
    rw [List.isEmpty_iff.mp empty, List.append_nil, stands]
  · rfl

omit [DecidableEq α] in
/-- A file is all that stands at its path and below. -/
theorem node_below_file {content : β} (stands : tree.node path = some (.file content))
    (rest : List α) :
    tree.node (path ++ rest) = if rest = [] then some (.file content) else none := by
  split
  · rename_i empty
    rw [empty, List.append_nil, stands]
  · rename_i strict
    apply tree.none_of_below (List.prefix_append path rest)
    · exact fun same => strict (List.self_eq_append_right.mp same)
    · rw [stands]
      exact fun same => nomatch same

theorem graft_inside (sub : FileTree α β) (rest : List α) :
    (tree.graft path sub).node (path ++ rest) = sub.node rest := by
  change (if path <+: path ++ rest then _ else _) = _
  rw [if_pos (List.prefix_append path rest), List.drop_left]

theorem remove_inside (strict : path ≠ []) (inside : path <+: other) :
    (tree.remove path).node other = none := by
  have proper : other ≠ [] := by
    rintro rfl
    exact strict (List.prefix_nil.mp inside)
  change (if other = [] then _ else if path <+: other then _ else _) = _
  rw [if_neg proper, if_pos inside]

theorem remove_outside (outside : ¬ path <+: other) :
    (tree.remove path).node other = tree.node other :=
  remove_frame fun inside => absurd inside outside

/-- What stands at a path is as it was, or is a directory made above `target`. -/
def KeepsUpToParents (before after : FileTree α β) (target other : List α) : Prop :=
  after.node other = before.node other ∨
    other <+: target ∧ before.node other = none ∧ after.node other = some .dir

/-- The directories made above a path are all that making them changes. -/
theorem makeDirs_upToParents {target : List α} (clear : tree.blocked path = false)
    (above : path <+: target) (other : List α) :
    KeepsUpToParents tree (tree.makeDirs path) target other := by
  by_cases front : other <+: path
  · by_cases vacant : tree.node other = none
    · exact .inr ⟨front.trans above, vacant, makeDirs_node front⟩
    · refine .inl ((makeDirs_node front).trans ?_)
      exact (dir_of_blocked_false clear front vacant).symm
  · exact .inl (makeDirs_frame fun inside => absurd inside front)

/-- A file at the path. -/
def fileAt (tree : FileTree α β) (path : List α) : Prop := (tree.node path).any Node.isFile = true

theorem fileAt_makeDirs (file : (tree.makeDirs path).fileAt other) : tree.fileAt other := by
  by_cases front : other <+: path
  · rw [fileAt, makeDirs_node front] at file
    cases file
  · rwa [fileAt, makeDirs_frame fun inside => absurd inside front] at file

theorem fileAt_remove (file : (tree.remove path).fileAt other) : tree.fileAt other := by
  change (if other = [] then _ else if path <+: other then none else tree.node other).any _ = true
    at file
  split at file
  · cases file
  · split at file
    · cases file
    · exact file

/-- Putting a file makes no other. -/
theorem fileAt_putFile {content : β} (file : (tree.putFile path content).fileAt other) :
    other = path ∨ tree.fileAt other := by
  change (if other <+: path ∧ other ≠ path ∨ other = [] then _ else if other = path then _ else
    if path <+: other then none else tree.node other).any _ = true at file
  split at file
  · cases file
  · split at file
    · rename_i same
      exact .inl same
    · split at file
      · cases file
      · exact .inr file

omit [DecidableEq α] in
/-- Where there are no more files above a path than before, it is as clear. -/
theorem blocked_false_of_files {after : FileTree α β} (clear : tree.blocked path = false)
    (fewer : ∀ front, front <+: path → after.fileAt front → tree.fileAt front) :
    after.blocked path = false := by
  apply List.any_eq_false.mpr
  intro front inside file
  exact List.any_eq_false.mp clear front inside
    (fewer front ((List.mem_inits front path).mp inside) file)

end Frames

end FileTree

end Lib
