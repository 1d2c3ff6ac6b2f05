import LexMind.Lib.Keyed
import Mathlib.Algebra.BigOperators.Group.List.Basic

set_option autoImplicit false

/- Grouping a list by a key, and sums over the groups. -/
namespace Lib

variable {α κ : Type} [DecidableEq κ]

/-- The elements under a key; none where it is absent. -/
def members (groups : Keyed (Prod.fst : κ × List α → κ)) (k : κ) : List α :=
  ((groups.find? k).map Prod.snd).getD []

variable (key : α → κ)

/-- Each element is appended to the list of its key, which is made where it is missing. -/
def group (list : List α) : Keyed (Prod.fst : κ × List α → κ) :=
  list.foldl (fun groups element =>
    groups.put (key element, members groups (key element) ++ [element])) .empty

theorem group_append_singleton (list : List α) (element : α) :
    group key (list ++ [element]) =
      (group key list).put (key element, members (group key list) (key element) ++ [element]) :=
  List.foldl_append

/-- A group is what the list holds of its key, in the list's order. -/
theorem members_group (list : List α) (k : κ) :
    members (group key list) k = list.filter (fun element => key element = k) := by
  induction list using List.reverseRecOn with
  | nil => rfl
  | append_singleton list element ih =>
      rw [List.filter_append, ← ih, group_append_singleton, members, Keyed.find?_put]
      by_cases same : key element = k
      · simp [same]
      · simp [same, members]

theorem mem_keys_group (list : List α) (k : κ) :
    k ∈ (group key list).rows.map Prod.fst ↔ k ∈ list.map key := by
  induction list using List.reverseRecOn with
  | nil => exact Iff.rfl
  | append_singleton list element ih =>
      rw [group_append_singleton, List.map_append, List.mem_append, ← ih]
      show k ∈ (Keyed.putRows Prod.fst (group key list).rows _).map Prod.fst ↔ _
      rw [Keyed.putRows_map_key]
      split
      · rename_i present
        constructor
        · exact .inl
        · rintro (inside | same)
          · exact inside
          · rwa [List.mem_singleton.mp same]
      · simp

variable {key}

/-- A sum over a list is the sum over its groups. -/
theorem sum_groups {ω : Type} [AddCommMonoid ω] (weight : α → ω) {keys : List κ}
    (distinct : keys.Nodup) {list : List α} (all : ∀ element ∈ list, key element ∈ keys) :
    (keys.map (fun k =>
      ((list.filter (fun element => key element = k)).map weight).sum)).sum =
        (list.map weight).sum := by
  induction list with
  | nil => simp
  | cons element rest ih =>
      have first (k : κ) :
          (((element :: rest).filter (fun element => key element = k)).map weight).sum =
            (if key element = k then weight element else 0) +
              ((rest.filter (fun element => key element = k)).map weight).sum := by
        by_cases same : key element = k
        · simp [same]
        · simp [same]
      have once : (keys.map (fun k => if key element = k then weight element else 0)).sum =
          weight element := by
        rw [List.sum_map_eq_nsmul_single (key element), if_pos rfl,
          List.count_eq_one_of_mem distinct (all element List.mem_cons_self), one_nsmul]
        exact fun k apart _ => if_neg (Ne.symm apart)
      rw [List.map_congr_left (fun k _ => first k), List.sum_map_add, once,
        ih (fun other inside => all other (List.mem_cons_of_mem element inside)), List.map_cons,
        List.sum_cons]

end Lib
