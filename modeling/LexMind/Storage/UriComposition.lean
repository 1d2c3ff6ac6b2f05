import LexMind.PosixPath
import LexMind.Storage.Uri

set_option autoImplicit false

namespace LexMind.Storage

namespace StorageURI

/-- `str(uri)`. -/
def text (uri : StorageURI) : String := uriOf uri.workspace uri.path

def parent (uri : StorageURI) : StorageURI :=
  let parentPath := (PurePosixPath.ofText uri.path).parent.text
  ⟨uri.workspace, if parentPath = ['.'] then [] else parentPath, uri.raw⟩

def child (uri : StorageURI) (name : String) : StorageURI :=
  let childPath := ((PurePosixPath.ofText uri.path).joinpath name.toList).text
  ⟨uri.workspace, childPath, uriOf uri.workspace childPath⟩

/-- A way down to a child or up to the parent. -/
inductive Step
  | child (name : String)
  | parent

def Step.apply (uri : StorageURI) : Step → StorageURI
  | child name => uri.child name
  | parent => uri.parent

end StorageURI

def buildUri (workspace path : List Char) : String :=
  let cleanPath := if path ≠ [] then (PurePosixPath.ofText path).text else []
  uriOf workspace cleanPath

def joinUri (base : String) (segments : List String) : Except PyExc String := do
  let parsed ← parseUri base
  let current := segments.foldl (fun current segment => current.joinpath segment.toList)
    (PurePosixPath.ofText parsed.path)
  return buildUri parsed.workspace current.text

/-- The workspace that is read is a name without slashes. -/
theorem workspace_of_parseUri {uri : String} {parsed : StorageURI}
    (read : parseUri uri = .ok parsed) : parsed.workspace ≠ [] ∧ '/' ∉ parsed.workspace := by
  unfold parseUri at read
  split at read
  · cases read
  · split at read
    · cases read
    · dsimp only at read
      split at read
      · cases read
      · split at read
        · cases read
        · rename_i named
          cases read
          exact ⟨named, fun inside => by simpa using List.mem_takeWhile_imp inside⟩

/-- A path that is printed is built into the URI as it is. -/
theorem buildUri_text (workspace : List Char) (path : PurePosixPath) :
    buildUri workspace path.text = uriOf workspace path.text := by
  rw [buildUri, if_pos path.text_ne_nil, path.ofText_text]

theorem joinUri_ok {base : String} {parsed : StorageURI} (read : parseUri base = .ok parsed)
    (segments : List String) :
    joinUri base segments = .ok (uriOf parsed.workspace
      (segments.foldl (fun current segment => current.joinpath segment.toList)
        (PurePosixPath.ofText parsed.path)).text) := by
  rw [joinUri, read]
  exact congrArg Except.ok (buildUri_text _ _)

example : joinUri "storage://ws/docs" ["", ".", "//a", "b/"] = .ok "storage://ws///a/b" := by decide

/-- Segments joined one list after the other are joined as one list. -/
theorem joinUri_joinUri {base : String} {parsed : StorageURI} (read : parseUri base = .ok parsed)
    (first second : List String) :
    ∃ joined, joinUri base first = .ok joined ∧
      joinUri joined second = joinUri base (first ++ second) := by
  obtain ⟨named, segment⟩ := workspace_of_parseUri read
  refine ⟨_, joinUri_ok read first, ?_⟩
  rw [joinUri_ok (parseUri_uriOf named segment _), joinUri_ok read, List.foldl_append,
    PurePosixPath.ofText_text]

theorem workspace_apply (uri : StorageURI) (step : StorageURI.Step) :
    (step.apply uri).workspace = uri.workspace := by
  cases step with
  | child name => rfl
  | parent => rfl

/-- Steps stay within the workspace. -/
theorem workspace_steps (uri : StorageURI) (steps : List StorageURI.Step) :
    (steps.foldl StorageURI.Step.apply uri).workspace = uri.workspace := by
  induction steps generalizing uri with
  | nil => rfl
  | cons step steps ih => exact (ih (step.apply uri)).trans (workspace_apply uri step)

/-- Joining composes for every URI that is read, and what is reached from one by children and
parents is printed so that it is read back. -/
theorem uri_composition {base : String} {parsed : StorageURI} (read : parseUri base = .ok parsed) :
    (∀ xs ys, ∃ joined, joinUri base xs = .ok joined ∧ joinUri joined ys = joinUri base (xs ++ ys)) ∧
    ∀ steps : List StorageURI.Step,
      let reached := steps.foldl StorageURI.Step.apply parsed
      ∃ again, parseUri reached.text = .ok again ∧ again.workspace = reached.workspace ∧
        again.path = reached.path := by
  obtain ⟨named, segment⟩ := workspace_of_parseUri read
  refine ⟨joinUri_joinUri read, fun steps => ?_⟩
  have same := workspace_steps parsed steps
  refine ⟨_, parseUri_uriOf (same ▸ named) (same ▸ segment) _, rfl, rfl⟩

theorem uri_composition_docs :
    ∃ joined, joinUri "storage://ws/docs" ["/a", "."] = .ok joined ∧
      joinUri joined ["", "//b"] = joinUri "storage://ws/docs" (["/a", "."] ++ ["", "//b"]) :=
  (@uri_composition _ ⟨"ws".toList, "docs".toList, "storage://ws/docs"⟩ rfl).1 _ _

end LexMind.Storage
