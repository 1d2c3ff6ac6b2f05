import LexMind.Lib.Run
import LexMind.Storage.UriComposition

set_option autoImplicit false

/- The raw text of a URI against its parsed components. -/
namespace LexMind.Storage

open Lib

namespace StorageURI

/-- The raw text is read as the URI itself. -/
def Consistent (uri : StorageURI) : Prop := parseUri uri.raw = .ok uri

instance (uri : StorageURI) : Decidable uri.Consistent :=
  inferInstanceAs (Decidable (parseUri uri.raw = .ok uri))

/-- Nothing lies above the path. -/
def AtTop (uri : StorageURI) : Prop :=
  uri.path = [] ∨ uri.path = ['/'] ∨ uri.path = ['/', '/']

/-- A step as a call that answers nothing. -/
def stepped (uri : StorageURI) (step : Step) : Unit × StorageURI := ((), step.apply uri)

/-- A parent is only taken at the top. -/
def StaysOrDescends (uri : StorageURI) (step : Step) : Prop := step = .parent → uri.AtTop

theorem consistent_of_parseUri {text : String} {parsed : StorageURI}
    (read : parseUri text = .ok parsed) : parsed.Consistent := by
  have kept : parsed.raw = text := by
    unfold parseUri at read
    split at read
    · cases read
    · split at read
      · cases read
      · dsimp only at read
        split at read
        · cases read
        · split at read
          · cases read
          · cases read
            rfl
  rw [Consistent, kept]
  exact read

theorem child_consistent {uri : StorageURI} (consistent : uri.Consistent) (name : String) :
    (uri.child name).Consistent := by
  obtain ⟨named, segment⟩ := workspace_of_parseUri consistent
  exact parseUri_uriOf named segment _

/-- Only a path at the top is its own parent. -/
theorem parent_path_eq_iff (uri : StorageURI) : uri.parent.path = uri.path ↔ uri.AtTop := by
  constructor
  · intro same
    unfold parent at same
    dsimp only at same
    split at same
    · exact .inl same.symm
    · rename_i shown
      have own : PurePosixPath.ofText uri.path = (PurePosixPath.ofText uri.path).parent := by
        conv_lhs => rw [← same, PurePosixPath.ofText_text]
      have short : (PurePosixPath.ofText uri.path).parts =
          (PurePosixPath.ofText uri.path).parts.dropLast := congrArg PurePosixPath.parts own
      have empty : (PurePosixPath.ofText uri.path).parts = [] := by
        have length := congrArg List.length short
        rw [List.length_dropLast] at length
        exact List.length_eq_zero_iff.mp (by omega)
      rw [← own] at same shown
      rw [PurePosixPath.text, empty, List.intercalate_nil, List.append_nil] at same shown
      split at same
      · rename_i rootless
        exact absurd (if_pos rootless) shown
      · rename_i rooted
        rw [AtTop, ← same]
        exact .inr ((PurePosixPath.ofText uri.path).rooted.resolve_left rooted)
  · obtain ⟨workspace, path, raw⟩ := uri
    rintro (top | top | top) <;> cases top <;> rfl

/-- A consistent URI's parent keeps the raw text, so it is consistent only where it keeps the
path. -/
theorem parent_consistent_iff {uri : StorageURI} (consistent : uri.Consistent) :
    uri.parent.Consistent ↔ uri.AtTop := by
  rw [← parent_path_eq_iff]
  have same : uri.parent.Consistent ↔ uri = uri.parent :=
    ⟨fun read => Except.ok.inj (consistent.symm.trans read), fun same => same ▸ consistent⟩
  rw [same]
  constructor
  · exact fun own => (congrArg path own).symm
  · intro kept
    obtain ⟨workspace, path, raw⟩ := uri
    exact congrArg (fun path => StorageURI.mk workspace path raw) kept.symm

theorem step_consistent_iff {uri : StorageURI} (consistent : uri.Consistent) (step : Step) :
    (stepped uri step).2.Consistent ↔ uri.StaysOrDescends step := by
  cases step with
  | child name =>
      refine ⟨fun _ climbs => ?_, fun _ => child_consistent consistent name⟩
      cases climbs
  | parent => exact (parent_consistent_iff consistent).trans ⟨fun top _ => top, fun top => top rfl⟩

/-- From a URI that is read, the raw text names what the components name all along exactly where no
parent is taken below the top. -/
theorem raw_consistent_iff {base : String} {parsed : StorageURI} (read : parseUri base = .ok parsed)
    (steps : List Step) :
    Throughout stepped Consistent parsed steps ↔ Along stepped StaysOrDescends parsed steps :=
  @throughout_iff_along _ _ _ stepped StaysOrDescends (fun _ => True) Consistent
    (fun _ _ _ _ => trivial) (fun _ step _ consistent => step_consistent_iff consistent step)
    parsed trivial (consistent_of_parseUri read) steps

theorem raw_consistent_contract :
    Throughout stepped Consistent ⟨"ws".toList, [], "storage://ws"⟩
        [.parent, .child "docs", .child "contract.pdf"] ↔
      Along stepped StaysOrDescends ⟨"ws".toList, [], "storage://ws"⟩
        [.parent, .child "docs", .child "contract.pdf"] :=
  @raw_consistent_iff "storage://ws" _ rfl _

/-- The directory of a document still carries the document's raw text. -/
theorem parent_raw_stale :
    parseUri "storage://ws/docs/contract.pdf" =
        .ok ⟨"ws".toList, "docs/contract.pdf".toList, "storage://ws/docs/contract.pdf"⟩ ∧
      ¬ Throughout stepped Consistent
        ⟨"ws".toList, "docs/contract.pdf".toList, "storage://ws/docs/contract.pdf"⟩ [.parent] := by
  refine ⟨rfl, ?_⟩
  rintro ⟨_, stale⟩
  have read : ¬ (stepped ⟨"ws".toList, "docs/contract.pdf".toList, "storage://ws/docs/contract.pdf"⟩
      .parent).2.Consistent := by decide
  exact read stale

end StorageURI

end LexMind.Storage
