import LexMind.Lib.Delimited
import LexMind.Storage.Filesystem

set_option autoImplicit false

/- What `_resolve` lets through: it compares the texts of two paths, not their components. -/
namespace LexMind.Storage

open Lib

namespace HostPath

/-- What `Path.resolve` gives: no component is empty or holds a slash. -/
def Normal (path : HostPath) : Prop := ∀ part ∈ path, part ≠ [] ∧ '/' ∉ part

theorem Normal.clean {path : HostPath} (normal : Normal path) : Delimited.Clean '/' path :=
  fun part inside => (normal part inside).2

theorem normal_parts (text : List Char) : Normal (PurePath.parts text) := by
  intro part inside
  obtain ⟨piece, kept⟩ := List.mem_filter.mp inside
  have named : part ≠ [] ∧ part ≠ ['.'] := of_decide_eq_true kept
  exact ⟨named.1, Delimited.clean_splitOn '/' text part piece⟩

/-- A name behind a slash is the last component. -/
theorem parts_append_name (front : List Char) {name : List Char} (some : name ≠ [])
    (current : name ≠ ['.']) (slashless : '/' ∉ name) :
    PurePath.parts (front ++ '/' :: name) = PurePath.parts front ++ [name] := by
  have single : name.splitOn '/' = [name] := List.splitOn_eq_singleton slashless
  unfold PurePath.parts
  rw [List.splitOn_append_cons_self, List.filter_append, single, List.filter_cons_of_pos]
  · rfl
  · exact decide_eq_true ⟨some, current⟩

theorem locate_append_name (root : HostPath) {front name : List Char} (strict : front ≠ [])
    (some : name ≠ []) (current : name ≠ ['.']) (parent : name ≠ ['.', '.'])
    (slashless : '/' ∉ name) :
    HostPath.locate root (front ++ '/' :: name) = HostPath.locate root front ++ [name] := by
  have first : (front ++ '/' :: name).head? = front.head? := List.head?_append_of_ne_nil front strict
  unfold HostPath.locate
  rw [parts_append_name front some current slashless, List.foldl_append, first]
  exact if_neg parent

theorem normal_nil : Normal [] := by
  intro part inside
  cases inside

theorem Normal.dropLast {path : HostPath} (normal : Normal path) : Normal path.dropLast :=
  fun part inside => normal part (List.mem_of_mem_dropLast inside)

theorem Normal.snoc {path : HostPath} {part : List Char} (normal : Normal path)
    (next : part ≠ [] ∧ '/' ∉ part) : Normal (path ++ [part]) := by
  intro other inside
  rcases List.mem_append.mp inside with before | last
  · exact normal other before
  · rw [List.mem_singleton.mp last]
    exact next

/-- Following components from a resolved path stays among resolved paths. -/
theorem Normal.locate {root : HostPath} (normal : Normal root) (rel : List Char) :
    Normal (locate root rel) := by
  have start : Normal (if rel.head? = some '/' then [] else root) := by
    split
    · exact normal_nil
    · exact normal
  unfold HostPath.locate
  have walk : ∀ parts : HostPath, Normal parts → ∀ path : HostPath, Normal path →
      Normal (parts.foldl
        (fun path part => if part = ['.', '.'] then path.dropLast else path ++ [part]) path) := by
    intro parts
    induction parts with
    | nil =>
        intro _ path reached
        exact reached
    | cons part parts ih =>
        intro named path reached
        have later : Normal parts := fun other inside => named other (List.mem_cons_of_mem _ inside)
        apply ih later
        show Normal (if part = ['.', '.'] then path.dropLast else path ++ [part])
        split
        · exact reached.dropLast
        · exact reached.snoc (named part List.mem_cons_self)
  exact walk _ (normal_parts rel) _ start

theorem render_of_ne_nil {path : HostPath} (strict : path ≠ []) :
    render path = Delimited.led '/' path := if_neg strict

/-- The text of one path begins the text of another exactly where the other is inside it, or
is inside a sibling whose name only begins with its name. -/
theorem render_prefix_iff {root path : HostPath} (normal : Normal root) (named : Normal path) :
    (render root).isPrefixOf (render path) = true ↔
      root <+: path ∨ Delimited.Overrun root path := by
  rw [List.isPrefixOf_iff_prefix]
  by_cases top : root = []
  · subst top
    have slash : render [] <+: render path := by
      by_cases short : path = []
      · rw [short]
      · obtain ⟨-, none⟩ | ⟨rest, found⟩ := Delimited.led_cases '/' path
        · exact absurd none short
        · rw [render_of_ne_nil short, found]
          exact List.cons_prefix_cons.mpr ⟨rfl, List.nil_prefix⟩
    exact iff_of_true slash (.inl List.nil_prefix)
  · by_cases short : path = []
    · subst short
      rw [render_of_ne_nil top]
      apply iff_of_false
      · intro within
        cases root with
        | nil => exact top rfl
        | cons part rest =>
            rw [Delimited.led_cons] at within
            have none := List.prefix_nil.mp (List.cons_prefix_cons.mp within).2
            exact (normal part List.mem_cons_self).1 (List.append_eq_nil_iff.mp none).1
      · rintro (within | ⟨front, last, more, rest, _, _, none⟩)
        · exact top (List.prefix_nil.mp within)
        · cases front <;> cases none
    · rw [render_of_ne_nil top, render_of_ne_nil short]
      exact Delimited.led_prefix_iff normal.clean named.clean

end HostPath

namespace FilesystemStorageProvider

/-- `_resolve` refuses the path, or what it returns is the root or below it. -/
def Confined (provider : FilesystemStorageProvider) (rel : List Char) : Prop :=
  match provider.resolve rel with
  | .ok resolved => provider.root <+: resolved
  | .error exc => ∃ uri operation, exc = .storagePermissionDenied uri operation

/-- A sibling of the root whose name goes on after the root's name is let through. -/
theorem resolve_confined_iff (root rel : List Char) :
    let provider : FilesystemStorageProvider := ⟨HostPath.locate [] root⟩
    provider.Confined rel ↔
      Char.ofNat 0 ∉ rel ∧
        ¬ Delimited.Overrun provider.root (HostPath.locate provider.root rel) := by
  intro provider
  have normal : HostPath.Normal provider.root := HostPath.normal_nil.locate root
  have accepted := HostPath.render_prefix_iff normal (normal.locate rel)
  unfold Confined resolve
  by_cases null : Char.ofNat 0 ∈ rel
  · rw [if_pos null]
    apply iff_of_false
    · rintro ⟨uri, operation, raised⟩
      cases raised
    · intro holds
      exact holds.1 null
  · rw [if_neg null]
    by_cases passed : (HostPath.render provider.root).isPrefixOf
        (HostPath.render (HostPath.locate provider.root rel)) = true
    · rw [if_pos passed]
      constructor
      · intro inside
        exact ⟨null, fun overrun => overrun.not_prefix inside⟩
      · intro holds
        exact (accepted.mp passed).resolve_right holds.2
    · rw [if_neg passed]
      have outside : ¬ Delimited.Overrun provider.root (HostPath.locate provider.root rel) :=
        fun overrun => passed (accepted.mpr (.inr overrun))
      exact iff_of_true ⟨_, _, rfl⟩ ⟨null, outside⟩

/-- The storage of `/data` lets `../data2/x` through. -/
theorem resolve_unconfined :
    (⟨HostPath.locate [] "/data".toList⟩ : FilesystemStorageProvider).resolve "../data2/x".toList =
        .ok ["data2".toList, "x".toList] ∧
      ¬ (⟨HostPath.locate [] "/data".toList⟩ : FilesystemStorageProvider).Confined
        "../data2/x".toList := by
  have resolved : (⟨HostPath.locate [] "/data".toList⟩ : FilesystemStorageProvider).resolve
      "../data2/x".toList = .ok ["data2".toList, "x".toList] := by decide
  refine ⟨resolved, ?_⟩
  unfold Confined
  rw [resolved]
  decide

end FilesystemStorageProvider

end LexMind.Storage
