import Mathlib.Data.List.Dedup
import Mathlib.Data.List.Sort

set_option autoImplicit false

/- Sets kept as sorted lists of normalised elements. -/
namespace Lib

/-- Which elements a set keeps, and in which form. -/
structure NormalForm (α : Type) where
  keep : α → Bool
  normal : α → α
  keep_normal : ∀ element, keep element = true → keep (normal element) = true
  normal_normal : ∀ element, keep element = true → normal (normal element) = normal element

namespace NormalForm

variable {α : Type} [LinearOrder α] (form : NormalForm α)

/-- The element has the form in which it is kept. -/
def Stored (element : α) : Prop := form.keep element = true ∧ form.normal element = element

/-- The set of the elements, in order. -/
def clean (elements : List α) : List α :=
  ((elements.filter form.keep).map form.normal).dedup.insertionSort (· ≤ ·)

theorem mem_clean {elements : List α} {element : α} :
    element ∈ form.clean elements ↔
      ∃ source ∈ elements, form.keep source = true ∧ form.normal source = element := by
  rw [clean, List.mem_insertionSort, List.mem_dedup, List.mem_map]
  constructor
  · rintro ⟨source, kept, same⟩
    obtain ⟨inside, keep⟩ := List.mem_filter.mp kept
    exact ⟨source, inside, keep, same⟩
  · rintro ⟨source, inside, keep, same⟩
    exact ⟨source, List.mem_filter.mpr ⟨inside, keep⟩, same⟩

theorem sortedLT_clean (elements : List α) : (form.clean elements).SortedLT := by
  have distinct : (form.clean elements).Nodup :=
    (List.perm_insertionSort _ _).nodup_iff.mpr (List.nodup_dedup _)
  exact (List.pairwise_insertionSort (· ≤ ·) _).sortedLE.sortedLT_of_nodup distinct

theorem stored_of_mem_clean {elements : List α} {element : α}
    (inside : element ∈ form.clean elements) : form.Stored element := by
  obtain ⟨source, _, keep, rfl⟩ := form.mem_clean.mp inside
  exact ⟨form.keep_normal source keep, form.normal_normal source keep⟩

/-- A set in order is what its elements say. -/
theorem clean_eq_iff {elements set : List α} (sorted : set.SortedLT) :
    form.clean elements = set ↔ ∀ element, element ∈ form.clean elements ↔ element ∈ set := by
  constructor
  · intro same element
    rw [same]
  · exact (form.sortedLT_clean elements).eq_of_mem_iff sorted

theorem mem_clean_stored {elements : List α} {element : α}
    (stored : ∀ source ∈ elements, form.Stored source) :
    element ∈ form.clean elements ↔ element ∈ elements := by
  rw [mem_clean]
  constructor
  · rintro ⟨source, inside, _, rfl⟩
    rwa [(stored source inside).2]
  · intro inside
    exact ⟨element, inside, stored element inside⟩

/-- A set in order is its own clean form. -/
theorem clean_stored {set : List α} (sorted : set.SortedLT)
    (stored : ∀ element ∈ set, form.Stored element) : form.clean set = set :=
  (form.clean_eq_iff sorted).mpr fun _ => form.mem_clean_stored stored

theorem mem_clean_append {front back : List α} {element : α} :
    element ∈ form.clean (front ++ back) ↔
      element ∈ form.clean front ∨ element ∈ form.clean back := by
  simp only [mem_clean, List.mem_append, or_and_right, exists_or]

theorem mem_clean_clean {elements : List α} {element : α} :
    element ∈ form.clean (form.clean elements) ↔ element ∈ form.clean elements :=
  form.mem_clean_stored fun _ inside => form.stored_of_mem_clean inside

theorem clean_congr {first second : List α}
    (same : ∀ element, element ∈ form.clean first ↔ element ∈ form.clean second) :
    form.clean first = form.clean second :=
  (form.clean_eq_iff (form.sortedLT_clean second)).mpr same

theorem clean_append_comm (front back : List α) :
    form.clean (front ++ back) = form.clean (back ++ front) := by
  apply form.clean_congr
  intro element
  rw [mem_clean_append, mem_clean_append, or_comm]

/-- Cleaning a part beforehand makes no difference. -/
theorem clean_append_clean (front back : List α) :
    form.clean (form.clean front ++ back) = form.clean (front ++ back) := by
  apply form.clean_congr
  intro element
  rw [mem_clean_append, mem_clean_append, mem_clean_clean]

/-- What is there already adds nothing. -/
theorem clean_append_of_subset {front back : List α}
    (subset : ∀ element ∈ form.clean back, element ∈ form.clean front) :
    form.clean (front ++ back) = form.clean front := by
  apply form.clean_congr
  intro element
  rw [mem_clean_append]
  exact ⟨fun inside => inside.elim id (subset element), .inl⟩

theorem clean_append_eq_iff {first second : List α} (sorted : second.SortedLT)
    (stored : ∀ element ∈ first ++ second, form.Stored element) :
    form.clean (first ++ second) = second ↔ ∀ element ∈ first, element ∈ second := by
  rw [clean_eq_iff _ sorted]
  simp only [form.mem_clean_stored stored, List.mem_append, or_iff_right_iff_imp]

theorem length_clean_le_append (front back : List α) :
    (form.clean front).length ≤ (form.clean (front ++ back)).length := by
  have subset : form.clean front ⊆ form.clean (front ++ back) :=
    fun _ inside => form.mem_clean_append.mpr (.inl inside)
  exact (List.subperm_of_subset (form.sortedLT_clean front).nodup subset).length_le

end NormalForm

end Lib
