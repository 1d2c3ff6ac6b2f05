import LexMind.PurePath
import LexMind.Python

set_option autoImplicit false

namespace LexMind.Storage

/-- A parsed storage URI: its first segment, and what follows it. -/
structure StorageURI where
  workspace : List Char
  path : List Char
  raw : String
deriving DecidableEq, Repr

def schemePrefix : List Char := "storage://".toList

def parseUri (uri : String) : Except PyExc StorageURI :=
  if uri = "" then .error (.invalidStorageURI uri "empty URI")
  else if ¬ schemePrefix.isPrefixOf uri.toList then
    .error (.invalidStorageURI uri "scheme must be 'storage://'")
  else
    let remainder := uri.toList.drop schemePrefix.length
    let workspace := remainder.takeWhile (· ≠ '/')
    if remainder = [] then .error (.invalidStorageURI uri "missing workspace")
    else if workspace = [] then .error (.invalidStorageURI uri "empty workspace")
    else .ok ⟨workspace, (remainder.dropWhile (· ≠ '/')).drop 1, uri⟩

/-- The URI of a path in a workspace. -/
def uriOf (workspace path : List Char) : String :=
  String.ofList (schemePrefix ++ workspace ++ '/' :: path)

/-- What is written as a workspace and a path is read back as such. -/
theorem parseUri_uriOf {workspace : List Char} (named : workspace ≠ [])
    (segment : '/' ∉ workspace) (path : List Char) :
    parseUri (uriOf workspace path) = .ok ⟨workspace, path, uriOf workspace path⟩ := by
  have chars : (uriOf workspace path).toList = schemePrefix ++ (workspace ++ '/' :: path) := by
    rw [uriOf, String.toList_ofList, List.append_assoc]
  have present : uriOf workspace path ≠ "" := by
    intro empty
    rw [empty] at chars
    cases chars
  have inside : ∀ char ∈ workspace, decide (char ≠ '/') = true := fun char member =>
    decide_eq_true (fun same => segment (same ▸ member))
  have first : (workspace ++ '/' :: path).takeWhile (· ≠ '/') = workspace := by
    rw [List.takeWhile_append_of_pos inside]
    simp
  have rest : (workspace ++ '/' :: path).dropWhile (· ≠ '/') = '/' :: path := by
    rw [List.dropWhile_append_of_pos inside]
    simp
  rw [parseUri, if_neg present, chars, if_neg (by simp), List.drop_left]
  dsimp only
  rw [first, rest, if_neg (by simp), if_neg named]
  rfl

end LexMind.Storage
