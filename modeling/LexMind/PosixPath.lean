import LexMind.Lib.Delimited
import LexMind.PurePath

set_option autoImplicit false

namespace LexMind

open Lib

/-- `pathlib.PurePosixPath`: a root of no, one or two slashes, and the components. -/
structure PurePosixPath where
  root : List Char
  parts : List (List Char)
  rooted : root = [] ∨ root = ['/'] ∨ root = ['/', '/']
  clean : ∀ part ∈ parts, part ≠ [] ∧ part ≠ ['.'] ∧ '/' ∉ part

namespace PurePosixPath

theorem ext_parts {first second : PurePosixPath} (root : first.root = second.root)
    (parts : first.parts = second.parts) : first = second := by
  cases first
  cases second
  cases root
  cases parts
  rfl

/-- Two slashes in front are kept, one or more of any other number count as one. -/
def rootOf (text : List Char) : List Char :=
  let slashes := text.takeWhile (fun ch => ch = '/')
  if slashes.length = 2 then slashes else slashes.take 1

theorem rooted_rootOf (text : List Char) :
    rootOf text = [] ∨ rootOf text = ['/'] ∨ rootOf text = ['/', '/'] := by
  have slashes : text.takeWhile (fun ch => ch = '/') =
      List.replicate (text.takeWhile (fun ch => ch = '/')).length '/' := by
    apply List.eq_replicate_of_mem
    intro ch inside
    simpa using List.mem_takeWhile_imp inside
  unfold rootOf
  rw [slashes]
  generalize (text.takeWhile (fun ch => ch = '/')).length = count
  simp only [List.length_replicate]
  split
  · rename_i two
    rw [two]
    exact .inr (.inr rfl)
  · cases count with
    | zero => exact .inl rfl
    | succ count => exact .inr (.inl rfl)

theorem clean_parts (text : List Char) :
    ∀ part ∈ PurePath.parts text, part ≠ [] ∧ part ≠ ['.'] ∧ '/' ∉ part := by
  intro part inside
  obtain ⟨piece, kept⟩ := List.mem_filter.mp inside
  rw [decide_eq_true_iff] at kept
  exact ⟨kept.1, kept.2, Delimited.clean_splitOn '/' text part piece⟩

/-- `PurePosixPath(text)`. -/
def ofText (text : List Char) : PurePosixPath where
  root := rootOf text
  parts := PurePath.parts text
  rooted := rooted_rootOf text
  clean := clean_parts text

/-- `str(path)`. -/
def text (path : PurePosixPath) : List Char :=
  let shown := path.root ++ ['/'].intercalate path.parts
  if shown = [] then ['.'] else shown

/-- `path / segment`: an absolute segment is taken instead of the path. -/
def joinpath (path : PurePosixPath) (segment : List Char) : PurePosixPath :=
  if rootOf segment ≠ [] then ofText segment
  else
    { root := path.root
      parts := path.parts ++ PurePath.parts segment
      rooted := path.rooted
      clean := fun part inside =>
        (List.mem_append.mp inside).elim (path.clean part) (clean_parts segment part) }

/-- `path.parent`; a path without components is its own parent. -/
def parent (path : PurePosixPath) : PurePosixPath where
  root := path.root
  parts := path.parts.dropLast
  rooted := path.rooted
  clean part inside := path.clean part (List.mem_of_mem_dropLast inside)

section Printed

/-- A slash in front adds no component. -/
theorem parts_slash (text : List Char) : PurePath.parts ('/' :: text) = PurePath.parts text := by
  have split : ('/' :: text).splitOn '/' = [] :: text.splitOn '/' := by
    rw [List.splitOn_cons_eq_if_modifyHead, if_pos (beq_self_eq_true '/')]
  rw [PurePath.parts, split]
  rfl

variable {parts : List (List Char)}
  (clean : ∀ part ∈ parts, part ≠ [] ∧ part ≠ ['.'] ∧ '/' ∉ part)

include clean

theorem parts_intercalate : PurePath.parts (['/'].intercalate parts) = parts := by
  have all : parts.filter (fun part => part ≠ [] ∧ part ≠ ['.']) = parts := by
    apply List.filter_eq_self.mpr
    intro part inside
    exact decide_eq_true ⟨(clean part inside).1, (clean part inside).2.1⟩
  by_cases nothing : parts = []
  · rw [nothing]
    rfl
  · rw [PurePath.parts, List.splitOn_intercalate '/' (fun part inside => (clean part inside).2.2)
      nothing, all]

/-- Joined components do not start with a slash. -/
theorem head_intercalate : ∀ ch ∈ (['/'].intercalate parts).head?, ch ≠ '/' := by
  intro ch found
  cases parts with
  | nil => cases found
  | cons part others =>
      obtain ⟨nonempty, _, slashless⟩ := clean part List.mem_cons_self
      obtain ⟨first, rest, rfl⟩ := List.exists_cons_of_ne_nil nonempty
      have leading : (['/'].intercalate ((first :: rest) :: others)).head? = some first := by
        cases others with
        | nil => rw [List.intercalate_singleton]; rfl
        | cons other others => rw [List.intercalate_cons_cons]; rfl
      rw [leading] at found
      cases found
      rintro rfl
      exact slashless List.mem_cons_self

theorem rootOf_intercalate {root : List Char}
    (rooted : root = [] ∨ root = ['/'] ∨ root = ['/', '/']) :
    rootOf (root ++ ['/'].intercalate parts) = root := by
  have stop : (['/'].intercalate parts).takeWhile (fun ch => ch = '/') = [] := by
    have leading := head_intercalate clean
    cases joined : ['/'].intercalate parts with
    | nil => rfl
    | cons ch rest =>
        apply List.takeWhile_cons_of_neg
        rw [joined] at leading
        exact fun slash => leading ch rfl (of_decide_eq_true slash)
  have slashes : ∀ ch ∈ root, decide (ch = '/') = true := by
    rcases rooted with rfl | rfl | rfl <;> simp
  unfold rootOf
  rw [List.takeWhile_append_of_pos slashes, stop, List.append_nil]
  rcases rooted with rfl | rfl | rfl <;> rfl

end Printed

/-- What a path prints is the path again. -/
theorem ofText_text (path : PurePosixPath) : ofText path.text = path := by
  by_cases nothing : path.root ++ ['/'].intercalate path.parts = []
  · have dot : path.text = ['.'] := if_pos nothing
    obtain ⟨root, joined⟩ := List.append_eq_nil_iff.mp nothing
    have parts := parts_intercalate path.clean
    rw [joined] at parts
    rw [dot]
    exact ext_parts root.symm parts
  · have shown : path.text = path.root ++ ['/'].intercalate path.parts := if_neg nothing
    rw [shown]
    apply ext_parts
    · exact rootOf_intercalate path.clean path.rooted
    · have parts := parts_intercalate path.clean
      show PurePath.parts (path.root ++ ['/'].intercalate path.parts) = path.parts
      rcases path.rooted with root | root | root
      · rw [root, List.nil_append, parts]
      · rw [root, List.cons_append, parts_slash, List.nil_append, parts]
      · rw [root, List.cons_append, List.cons_append, parts_slash, parts_slash, List.nil_append,
          parts]

theorem text_ne_nil (path : PurePosixPath) : path.text ≠ [] := by
  by_cases nothing : path.root ++ ['/'].intercalate path.parts = []
  · rw [text, if_pos nothing]
    exact List.cons_ne_nil _ _
  · rwa [text, if_neg nothing]

end PurePosixPath

end LexMind
