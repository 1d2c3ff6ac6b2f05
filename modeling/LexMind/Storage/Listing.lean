import LexMind.Storage.Confinement
import LexMind.Storage.Manager
import Mathlib.Data.List.Dedup
import Mathlib.Data.List.DropRight
import Mathlib.Data.List.Sort

set_option autoImplicit false

/- Reading directories: the host's tree with its listing, and what `list` and `stat` answer. -/
namespace LexMind.Storage

open Lib

/-- A name that a directory can hold. -/
structure LegalName (name : List Char) : Prop where
  some : name ≠ []
  current : name ≠ ['.']
  parent : name ≠ ['.', '.']
  slashless : '/' ∉ name
  printable : Char.ofNat 0 ∉ name

/-- A tree of finitely many files and directories, with a list of their paths. -/
structure StoredTree extends HostTree where
  paths : List HostPath
  listed : ∀ path, node path ≠ none → path ∈ paths
  legal : ∀ path name, node (path ++ [name]) ≠ none → LegalName name

namespace StoredTree

variable (tree : StoredTree)

/-- What `iterdir` yields, sorted by name. -/
def names (path : HostPath) : List (List Char) :=
  ((tree.paths.filter (fun other => other ≠ [] ∧ other.dropLast = path ∧
    tree.node other ≠ none)).map (fun other => other.getLastD [])).dedup.insertionSort
      (fun first second => String.ofList first ≤ String.ofList second)

theorem mem_names (path : HostPath) (name : List Char) :
    name ∈ tree.names path ↔ tree.node (path ++ [name]) ≠ none := by
  unfold names
  rw [List.mem_insertionSort, List.mem_dedup, List.mem_map]
  constructor
  · rintro ⟨other, picked, rfl⟩
    obtain ⟨_, strict, rfl, present⟩ := by simpa using picked
    rwa [List.getLastD_eq_getLast?, List.getLast?_eq_some_getLast strict, Option.getD_some,
      List.dropLast_append_getLast]
  · intro present
    refine ⟨path ++ [name], ?_, by simp⟩
    simpa [present] using tree.listed _ present

theorem names_nodup (path : HostPath) : (tree.names path).Nodup :=
  (List.perm_insertionSort _ _).nodup_iff.mpr (List.nodup_dedup _)

end StoredTree

/-- What is known of an object, as far as the watchers read it. -/
structure StorageStat where
  present : Bool
  isDirectory : Bool
  size : Nat
deriving DecidableEq, Repr

namespace FilesystemStorageProvider

variable (provider : FilesystemStorageProvider) (tree : StoredTree)

def list (path : List Char) : Except PyExc (List (List Char)) := do
  let resolved ← provider.resolve path
  match tree.node resolved with
  | some .dir => return tree.names resolved
  | _ => throw (.storageNotFound (String.ofList path))

def stat (path : List Char) : Except PyExc StorageStat := do
  let resolved ← provider.resolve path
  match tree.node resolved with
  | none => return ⟨false, false, 0⟩
  | some .dir => return ⟨true, true, 0⟩
  | some (.file data) => return ⟨true, false, data.length⟩

end FilesystemStorageProvider

namespace StorageManager

variable (manager : StorageManager) (tree : StoredTree)

/-- An empty URI stands for the root of the storage. -/
def list (uri : String) : Except PyExc (List (List Char)) := do
  let path ← if uri = "" then .ok [] else extractPath uri
  manager.provider.list tree path

def stat (uri : String) : Except PyExc StorageStat := do
  let path ← extractPath uri
  manager.provider.stat tree path

end StorageManager

/-- `current.rstrip('/')`. -/
def rstrip (text : List Char) : List Char := text.rdropWhile (· = '/')

theorem rstrip_snoc (text : List Char) : rstrip (text ++ ['/']) = rstrip text :=
  List.rdropWhile_concat_pos _ _ _ (by decide)

theorem parts_rstrip (text : List Char) : PurePath.parts (rstrip text) = PurePath.parts text := by
  induction text using List.reverseRecOn with
  | nil => rfl
  | append_singleton front char ih =>
      by_cases slash : char = '/'
      · subst slash
        have parts : PurePath.parts (front ++ ['/']) = PurePath.parts front := by
          unfold PurePath.parts
          rw [List.splitOn_append_cons_self, List.splitOn_nil, List.filter_append]
          simp
        rw [rstrip_snoc, ih, parts]
      · rw [rstrip, List.rdropWhile_concat_neg _ _ _ (by simpa using slash)]

/-- The path of a name in a directory, as it is written behind the directory's path. -/
def childPath (path name : List Char) : List Char :=
  if rstrip path = [] then name else rstrip path ++ '/' :: name

theorem head?_rstrip {text : List Char} (some : rstrip text ≠ []) :
    (rstrip text).head? = text.head? := by
  obtain ⟨rest, split⟩ := List.rdropWhile_prefix (· = '/') text
  conv_rhs => rw [← split]
  exact (List.head?_append_of_ne_nil _ some).symm

/-- Only the host's own root is reached by slashes alone. -/
theorem locate_slashes {root : HostPath} {path : List Char} (slashes : rstrip path = []) :
    HostPath.locate root path = if path = [] then root else [] := by
  have all := List.rdropWhile_eq_nil_iff.mp slashes
  have none : PurePath.parts path = [] := by
    rw [← parts_rstrip, slashes]
    rfl
  cases path with
  | nil => rfl
  | cons char rest =>
      have slash : char = '/' := of_decide_eq_true (all char List.mem_cons_self)
      rw [HostPath.locate, none, slash]
      rfl

theorem locate_name (root : HostPath) {name : List Char} (legal : LegalName name) :
    HostPath.locate root name = root ++ [name] := by
  have parts : PurePath.parts name = [name] := by
    rw [PurePath.parts, List.splitOn_eq_singleton legal.slashless, List.filter_cons_of_pos]
    · rfl
    · exact decide_eq_true ⟨legal.some, legal.current⟩
  have relative : name.head? ≠ some '/' := fun slash =>
    legal.slashless (List.mem_of_mem_head? slash)
  rw [HostPath.locate, parts, if_neg relative]
  exact if_neg legal.parent

theorem resolve_ok_iff {provider : FilesystemStorageProvider} {path : List Char}
    {resolved : HostPath} :
    provider.resolve path = .ok resolved ↔ Char.ofNat 0 ∉ path ∧
      HostPath.render provider.root <+: HostPath.render resolved ∧
      HostPath.locate provider.root path = resolved := by
  unfold FilesystemStorageProvider.resolve
  by_cases null : Char.ofNat 0 ∈ path
  · simp [null]
  · by_cases passed : (HostPath.render provider.root).isPrefixOf
        (HostPath.render (HostPath.locate provider.root path)) = true
    · rw [if_neg null, if_pos passed, List.isPrefixOf_iff_prefix] at *
      constructor
      · intro found
        cases found
        exact ⟨null, passed, rfl⟩
      · rintro ⟨_, _, rfl⟩
        rfl
    · rw [if_neg null, if_neg passed]
      refine iff_of_false nofun ?_
      rintro ⟨_, within, rfl⟩
      exact passed (List.isPrefixOf_iff_prefix.mpr within)

/-- What a name is resolved to where its directory is. -/
theorem resolve_childPath {provider : FilesystemStorageProvider}
    (normal : HostPath.Normal provider.root) {path : List Char} {resolved : HostPath}
    (found : provider.resolve path = .ok resolved) {name : List Char} (legal : LegalName name) :
    provider.resolve (childPath path name) = .ok (resolved ++ [name]) := by
  obtain ⟨null, within, rfl⟩ := resolve_ok_iff.mp found
  have reached := normal.locate path
  refine resolve_ok_iff.mpr ⟨?_, within.trans ?_, ?_⟩
  · unfold childPath
    split
    · exact legal.printable
    · intro inside
      rcases List.mem_append.mp inside with early | late
      · exact null ((List.rdropWhile_prefix _ _).mem early)
      · exact (List.mem_cons.mp late).elim (by decide) legal.printable
  · rw [← List.isPrefixOf_iff_prefix, HostPath.render_prefix_iff reached
      (reached.snoc ⟨legal.some, legal.slashless⟩)]
    exact .inl (List.prefix_append _ _)
  · unfold childPath
    split
    · rename_i slashes
      rw [locate_name _ legal, locate_slashes slashes]
      split
      · rfl
      · rename_i absolute
        rw [locate_slashes slashes, if_neg absolute, ← List.isPrefixOf_iff_prefix,
          HostPath.render_prefix_iff normal HostPath.normal_nil] at within
        rcases within with top | ⟨front, last, more, rest, _, _, none⟩
        · rw [List.prefix_nil.mp top]
        · cases front <;> cases none
    · rename_i some
      have same : HostPath.locate provider.root (rstrip path) =
          HostPath.locate provider.root path := by
        rw [HostPath.locate, HostPath.locate, parts_rstrip, head?_rstrip some]
      rw [HostPath.locate_append_name _ some legal.some legal.current legal.parent legal.slashless,
        same]

/-- What a URI reads as. -/
theorem parseUri_ok {uri : String} {parsed : StorageURI} (found : parseUri uri = .ok parsed) :
    ∃ tail, uri.toList = schemePrefix ++ (parsed.workspace ++ tail) ∧ parsed.workspace ≠ [] ∧
      '/' ∉ parsed.workspace ∧ (tail = [] ∧ parsed.path = [] ∨ tail = '/' :: parsed.path) := by
  unfold parseUri at found
  split at found
  · cases found
  split at found
  · cases found
  rename_i scheme
  obtain ⟨remainder, whole⟩ := List.isPrefixOf_iff_prefix.mp (not_not.mp scheme)
  rw [← whole, List.drop_left] at found
  dsimp only at found
  split at found
  · cases found
  split at found
  · cases found
  rename_i named
  cases found
  refine ⟨remainder.dropWhile (· ≠ '/'), ?_, named, ?_, ?_⟩
  · rw [List.takeWhile_append_dropWhile, whole]
  · intro slash
    simpa only [ne_eq, not_true_eq_false, decide_false, Bool.false_eq_true] using
      List.mem_takeWhile_imp slash
  · cases cut : remainder.dropWhile (· ≠ '/') with
    | nil => exact .inl ⟨rfl, rfl⟩
    | cons char rest =>
        have first := List.head?_dropWhile_not (· ≠ '/') remainder
        rw [cut] at first
        have slash : char = '/' := by simpa using first
        rw [slash]
        exact .inr rfl

/-- The URI of a name in the directory that another URI names. -/
def childUri (current : String) (name : List Char) : String :=
  String.ofList (rstrip current.toList ++ '/' :: name)

/-- Nothing is taken off text that does not end in a slash. -/
theorem rstrip_append {front : List Char} (kept : rstrip front = front) (back : List Char) :
    rstrip (front ++ back) = front ++ rstrip back := by
  induction back using List.reverseRecOn with
  | nil => rw [List.append_nil, kept, rstrip, List.rdropWhile_nil, List.append_nil]
  | append_singleton rest char ih =>
      rw [← List.append_assoc]
      by_cases slash : char = '/'
      · rw [slash, rstrip_snoc, rstrip_snoc, ih]
      · rw [rstrip, rstrip, List.rdropWhile_concat_neg _ _ _ (by simpa using slash),
          List.rdropWhile_concat_neg _ _ _ (by simpa using slash), List.append_assoc]

theorem rstrip_cons_slash (path : List Char) :
    rstrip ('/' :: path) = if rstrip path = [] then [] else '/' :: rstrip path := by
  induction path using List.reverseRecOn with
  | nil => rfl
  | append_singleton rest char ih =>
      rw [← List.cons_append]
      by_cases slash : char = '/'
      · rw [slash, rstrip_snoc, rstrip_snoc, ih]
      · have kept (front : List Char) : rstrip (front ++ [char]) = front ++ [char] :=
          List.rdropWhile_concat_neg _ _ _ (by simpa using slash)
        rw [kept, kept, if_neg (by simp), List.cons_append]

theorem extractPath_childUri {current : String} {path : List Char}
    (found : extractPath current = .ok path) (name : List Char) :
    extractPath (childUri current name) = .ok (childPath path name) := by
  obtain ⟨parsed, read, same⟩ := returned_of_bind found
  cases same
  obtain ⟨tail, whole, named, segment, kinds⟩ := parseUri_ok read
  have kept : rstrip (schemePrefix ++ parsed.workspace) = schemePrefix ++ parsed.workspace := by
    refine List.rdropWhile_eq_self_iff.mpr (fun some slash => segment ?_)
    rw [List.getLast_append_of_ne_nil _ named] at slash
    have last : parsed.workspace.getLast named = '/' := of_decide_eq_true slash
    exact last ▸ List.getLast_mem named
  have child : childUri current name = uriOf parsed.workspace (childPath parsed.path name) := by
    unfold childUri uriOf childPath
    rw [whole, ← List.append_assoc, rstrip_append kept]
    rcases kinds with ⟨rfl, none⟩ | rfl
    · rw [none]
      simp [rstrip]
    · rw [rstrip_cons_slash]
      split <;> simp
  rw [child, extractPath, parseUri_uriOf named segment]
  rfl

end LexMind.Storage
