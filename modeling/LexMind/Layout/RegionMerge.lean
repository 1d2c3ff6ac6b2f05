import LexMind.Layout.LayoutAnalysis
import LexMind.Lib.StableSort
import LexMind.Lib.Thinning
import Mathlib.Algebra.Order.Ring.Rat

set_option autoImplicit false

/- What merging overlapping regions keeps and drops. -/
namespace LexMind.Layout

open Lib

namespace LayoutAnalysisService

/-- By falling confidence. -/
abbrev Surer (first second : LayoutRegion) : Prop := second.confidence ≤ first.confidence

abbrev Ahead (first second : LayoutRegion) : Prop := first.order ≤ second.order

instance : Std.Total Surer := ⟨fun first second => le_total second.confidence first.confidence⟩

instance : IsTrans LayoutRegion Surer := ⟨fun _ _ _ first second => le_trans second first⟩

instance : Std.Total Ahead := ⟨fun first second => le_total first.order second.order⟩

instance : IsTrans LayoutRegion Ahead := ⟨fun _ _ _ first second => le_trans first second⟩

/-- One region's box contains the other's. -/
def overlaps (outer inner : LayoutRegion) : Bool := contains outer.bbox inner.bbox

/-- The regions that are kept, by falling confidence. -/
def surest (regions : List LayoutRegion) : List LayoutRegion :=
  thin overlaps (regions.insertionSort Surer)

theorem mergeOverlapping_eq (regions : List LayoutRegion) :
    mergeOverlapping regions = (surest regions).insertionSort Ahead := rfl

theorem mergeOverlapping_perm (regions : List LayoutRegion) :
    (mergeOverlapping regions).Perm (surest regions) :=
  List.perm_insertionSort Ahead _

theorem mem_mergeOverlapping (regions : List LayoutRegion) (region : LayoutRegion) :
    region ∈ mergeOverlapping regions ↔ region ∈ surest regions :=
  (mergeOverlapping_perm regions).mem_iff

section Scan

variable (regions : List LayoutRegion)

theorem surest_falling : (surest regions).Pairwise Surer :=
  (List.pairwise_insertionSort Surer regions).sublist (thin_sublist overlaps _)

theorem surest_separated :
    (surest regions).Pairwise (fun first second => overlaps first second = false) :=
  pairwise_thin overlaps _

/-- What is dropped is contained in what is kept with a confidence no smaller. -/
theorem dropped_contained :
    ∃ dropped, regions.Perm (mergeOverlapping regions ++ dropped) ∧
      ∀ region ∈ dropped, ∃ other ∈ mergeOverlapping regions,
        overlaps other region = true ∧ region.confidence ≤ other.confidence := by
  obtain ⟨dropped, perm, covered⟩ :=
    thin_dropped overlaps (List.pairwise_insertionSort Surer regions)
  refine ⟨dropped, ?_, fun region inside => ?_⟩
  · calc regions.Perm (regions.insertionSort Surer) := (List.perm_insertionSort Surer regions).symm
      _ |>.Perm (surest regions ++ dropped) := perm
      _ |>.Perm (mergeOverlapping regions ++ dropped) :=
        (mergeOverlapping_perm regions).symm.append_right dropped
  · obtain ⟨other, kept, rest⟩ := covered region inside
    exact ⟨other, (mem_mergeOverlapping regions other).mpr kept, rest⟩

theorem mergeOverlapping_separated {first second : LayoutRegion}
    (one : first ∈ mergeOverlapping regions) (other : second ∈ mergeOverlapping regions)
    (surer : second.confidence < first.confidence) : overlaps first second = false := by
  have differ : first ≠ second := by
    rintro rfl
    exact lt_irrefl _ surer
  rw [mem_mergeOverlapping] at one other
  rcases StableSort.pair_sublist_or one other differ with before | after
  · have apart := (surest_separated regions).sublist before
    exact List.rel_of_pairwise_cons apart List.mem_cons_self
  · have falling := List.pairwise_pair.mp ((surest_falling regions).sublist after)
    exact absurd surer (not_lt_of_ge falling)

/-- The one region above all others in confidence is not dropped: it would be contained in one at
least as sure. -/
theorem highest_kept {front back : List LayoutRegion} {region : LayoutRegion}
    (split : regions = front ++ region :: back)
    (highest : ∀ other ∈ front ++ back, other.confidence < region.confidence) :
    region ∈ mergeOverlapping regions := by
  obtain ⟨dropped, perm, covered⟩ := dropped_contained regions
  have listed : region ∈ mergeOverlapping regions ++ dropped :=
    perm.mem_iff.mp (split ▸ List.mem_append_right _ List.mem_cons_self)
  rcases List.mem_append.mp listed with kept | gone
  · exact kept
  · obtain ⟨other, kept, _, surer⟩ := covered region gone
    have inside : other ∈ front ++ region :: back :=
      split ▸ perm.mem_iff.mpr (List.mem_append_left _ kept)
    have same : other = region := by
      by_contra differ
      have rest : other ∈ front ++ back := by simpa [differ] using inside
      exact absurd (highest other rest) (not_lt_of_ge surer)
    exact same ▸ kept

end Scan

section Again

variable {regions : List LayoutRegion} (distinct : (regions.map LayoutRegion.confidence).Nodup)

include distinct

theorem surest_distinct : ((surest regions).map LayoutRegion.confidence).Nodup := by
  have sorted := ((List.perm_insertionSort Surer regions).map LayoutRegion.confidence).nodup_iff.mpr
    distinct
  exact ((thin_sublist overlaps _).map LayoutRegion.confidence).nodup sorted

/-- Sorted back by their confidences, the kept regions stand as they were scanned. -/
theorem insertionSort_mergeOverlapping :
    (mergeOverlapping regions).insertionSort Surer = surest regions := by
  apply List.Perm.eq_of_pairwise
  · intro first second one other surer less
    have left := (mem_mergeOverlapping regions first).mp ((List.mem_insertionSort Surer).mp one)
    exact List.inj_on_of_nodup_map (surest_distinct distinct) left other (le_antisymm less surer)
  · exact List.pairwise_insertionSort Surer _
  · exact surest_falling regions
  · exact (List.perm_insertionSort Surer _).trans (mergeOverlapping_perm regions)

theorem mergeOverlapping_again :
    mergeOverlapping (mergeOverlapping regions) = mergeOverlapping regions := by
  rw [mergeOverlapping_eq (mergeOverlapping regions), surest,
    insertionSort_mergeOverlapping distinct, thin_eq_self overlaps (surest_separated regions),
    mergeOverlapping_eq regions]

end Again

/-- The laws of merging: what is kept and dropped, in which order, and that merging again changes
nothing. -/
structure MergeLaws (regions : List LayoutRegion) : Prop where
  dropped : ∃ dropped, regions.Perm (mergeOverlapping regions ++ dropped) ∧
    ∀ region ∈ dropped, ∃ other ∈ mergeOverlapping regions,
      contains other.bbox region.bbox = true ∧ region.confidence ≤ other.confidence
  ordered : (mergeOverlapping regions).Pairwise (fun first second => first.order ≤ second.order)
  separated : ∀ first ∈ mergeOverlapping regions, ∀ second ∈ mergeOverlapping regions,
    second.confidence < first.confidence → contains first.bbox second.bbox = false
  highest : ∀ front region back, regions = front ++ region :: back →
    (∀ other ∈ front ++ back, other.confidence < region.confidence) →
      region ∈ mergeOverlapping regions
  again : (regions.map LayoutRegion.confidence).Nodup →
    mergeOverlapping (mergeOverlapping regions) = mergeOverlapping regions

theorem merge_laws (regions : List LayoutRegion) : MergeLaws regions where
  dropped := dropped_contained regions
  ordered := List.pairwise_insertionSort Ahead _
  separated _ one _ other surer := mergeOverlapping_separated regions one other surer
  highest _ _ _ split highest := highest_kept regions split highest
  again distinct := mergeOverlapping_again distinct

end LayoutAnalysisService

end LexMind.Layout
