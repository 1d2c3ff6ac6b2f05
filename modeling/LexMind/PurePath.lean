import Mathlib.Data.List.TakeWhile

set_option autoImplicit false

/- The parts of `pathlib.PurePosixPath` the code reads, on lists of characters. -/
namespace LexMind.PurePath

/-- The components of a path: empty ones and `.` are dropped, `..` stays. -/
def parts (text : List Char) : List (List Char) :=
  (text.splitOn '/').filter (fun part => part ≠ [] ∧ part ≠ ['.'])

/-- The last component, or the empty text. -/
def name (text : List Char) : List Char := (parts text).getLastD []

/-- The characters after the last dot, all of them when there is none. -/
def tail (name : List Char) : List Char := (name.reverse.takeWhile (· ≠ '.')).reverse

/-- The last dot neither starts nor ends the name. -/
def hasSuffix (name : List Char) : Bool := tail name ≠ [] ∧ (tail name).length + 1 < name.length

def suffix (name : List Char) : List Char := if hasSuffix name then '.' :: tail name else []

def stem (name : List Char) : List Char :=
  if hasSuffix name then name.take (name.length - (tail name).length - 1) else name

/-- The suffix is empty or holds exactly one dot, its first character. -/
theorem suffix_spec (name : List Char) :
    suffix name = [] ∨ ∃ tail, tail ≠ [] ∧ '.' ∉ tail ∧ suffix name = '.' :: tail := by
  unfold suffix
  split
  · rename_i dotted
    refine .inr ⟨tail name, ?_, ?_, rfl⟩
    · simp only [hasSuffix, decide_eq_true_eq] at dotted
      exact dotted.1
    · intro inside
      simpa using List.mem_takeWhile_imp (List.mem_reverse.mp inside)
  · exact .inl rfl

example : suffix "report.tar.gz".toList = ".gz".toList := by decide

example : suffix ".profile".toList = [] := by decide

end LexMind.PurePath
