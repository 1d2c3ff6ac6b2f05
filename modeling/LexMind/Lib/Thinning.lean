import Mathlib.Data.List.Induction
import Mathlib.Data.List.Pairwise

set_option autoImplicit false

/- Greedy thinning: elements are taken in order, but for those that one taken before covers. -/
namespace Lib

variable {α : Type} (covers : α → α → Bool)

def thin (list : List α) : List α :=
  list.foldl (fun kept element =>
    if kept.any (fun other => covers other element) then kept else kept ++ [element]) []

theorem thin_append_singleton (list : List α) (element : α) :
    thin covers (list ++ [element]) =
      if (thin covers list).any (fun other => covers other element) then thin covers list
      else thin covers list ++ [element] :=
  List.foldl_append

/-- Seen from the end, it is the filter that keeps a list pairwise related. -/
theorem thin_eq_pwFilter (list : List α) :
    thin covers list =
      (list.reverse.pwFilter (fun later earlier => covers earlier later = false)).reverse := by
  induction list using List.reverseRecOn with
  | nil => rfl
  | append_singleton list element ih =>
      rw [thin_append_singleton, ih, List.reverse_append, List.reverse_singleton,
        List.singleton_append]
      by_cases covered : ∃ other ∈ list.reverse.pwFilter (fun later earlier =>
          covers earlier later = false), covers other element = true
      · rw [if_pos (by simpa using covered), List.pwFilter_cons_of_neg]
        obtain ⟨other, inside, covered⟩ := covered
        intro free
        rw [free other inside] at covered
        cases covered
      · have free : ∀ other ∈ list.reverse.pwFilter (fun later earlier =>
            covers earlier later = false), covers other element = false := fun other inside =>
          eq_false_of_ne_true (fun covered' => covered ⟨other, inside, covered'⟩)
        rw [if_neg (by simpa using covered), List.pwFilter_cons_of_pos free, List.reverse_cons]

theorem thin_sublist (list : List α) : (thin covers list).Sublist list := by
  rw [thin_eq_pwFilter, ← List.reverse_sublist, List.reverse_reverse]
  exact List.pwFilter_sublist _

theorem pairwise_thin (list : List α) :
    (thin covers list).Pairwise (fun earlier later => covers earlier later = false) := by
  rw [thin_eq_pwFilter, List.pairwise_reverse]
  exact List.pairwise_pwFilter _

/-- Where nothing is covered, everything is taken. -/
theorem thin_eq_self {list : List α}
    (free : list.Pairwise (fun earlier later => covers earlier later = false)) :
    thin covers list = list := by
  rw [thin_eq_pwFilter, List.pwFilter_eq_self.mpr (List.pairwise_reverse.mpr free),
    List.reverse_reverse]

/-- What is not taken is covered by an element that is taken and that comes before it. -/
theorem thin_dropped {before : α → α → Prop} {list : List α} (ordered : list.Pairwise before) :
    ∃ dropped, list.Perm (thin covers list ++ dropped) ∧
      ∀ element ∈ dropped, ∃ other ∈ thin covers list,
        covers other element = true ∧ before other element := by
  induction list using List.reverseRecOn with
  | nil => exact ⟨[], .refl _, List.forall_mem_nil _⟩
  | append_singleton list element ih =>
      obtain ⟨ordered, _, last⟩ := List.pairwise_append.mp ordered
      obtain ⟨dropped, perm, covered⟩ := ih ordered
      rw [thin_append_singleton]
      split
      · rename_i found
        obtain ⟨other, inside, covers⟩ := List.any_eq_true.mp found
        refine ⟨dropped ++ [element], ?_, fun dropping inside' => ?_⟩
        · rw [← List.append_assoc]
          exact perm.append_right [element]
        · rcases List.mem_append.mp inside' with early | same
          · exact covered dropping early
          · obtain rfl := List.mem_singleton.mp same
            exact ⟨other, inside, covers,
              last other ((thin_sublist _ list).subset inside) dropping List.mem_cons_self⟩
      · refine ⟨dropped, ?_, fun dropping inside => ?_⟩
        · rw [List.append_assoc]
          exact (perm.append_right [element]).trans
            ((List.append_assoc ..).symm ▸ (List.perm_append_comm.append_left _))
        · obtain ⟨other, kept, rest⟩ := covered dropping inside
          exact ⟨other, List.mem_append_left _ kept, rest⟩

end Lib
