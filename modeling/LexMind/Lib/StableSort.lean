import Mathlib.Data.List.Sort

set_option autoImplicit false

/- What comes after what in a list sorted by a key, where equal keys keep their order. -/
namespace Lib.StableSort

variable {α : Type} (key : α → Nat)

/-- Sorted by the key, an insertion before all it is not after. -/
abbrev sorted (list : List α) : List α := list.insertionSort (fun first second => key first ≤ key second)

/-- An indexed element is sorted before another: by its key, or by its index where the keys
are equal. -/
def Before (first second : α × Nat) : Prop :=
  key first.1 < key second.1 ∨ key first.1 = key second.1 ∧ first.2 < second.2

variable {key}

theorem Before.asymm {first second : α × Nat} (before : Before key first second) :
    ¬ Before key second first := by
  unfold Before at *
  omega

theorem pairwise_orderedInsert {new : α × Nat} {list : List (α × Nat)}
    (first : ∀ other ∈ list, new.2 < other.2) (ordered : list.Pairwise (Before key)) :
    (list.orderedInsert (fun one other => key one.1 ≤ key other.1) new).Pairwise (Before key) := by
  induction list with
  | nil => exact List.pairwise_singleton _ _
  | cons head rest ih =>
      obtain ⟨least, ordered⟩ := List.pairwise_cons.mp ordered
      rw [List.orderedInsert]
      split
      · rename_i small
        apply List.pairwise_cons.mpr
        refine ⟨fun other inside => ?_, List.pairwise_cons.mpr ⟨least, ordered⟩⟩
        have index := first other inside
        have above : key head.1 ≤ key other.1 := by
          rcases List.mem_cons.mp inside with rfl | later
          · exact Nat.le_refl _
          · rcases least other later with less | ⟨same, _⟩
            · exact Nat.le_of_lt less
            · exact Nat.le_of_eq same
        unfold Before
        omega
      · rename_i large
        have later := ih (fun other inside => first other (List.mem_cons_of_mem _ inside)) ordered
        apply List.pairwise_cons.mpr
        refine ⟨fun other inside => ?_, later⟩
        rcases (List.mem_orderedInsert _).mp inside with rfl | inside
        · exact .inl (by omega)
        · exact least other inside

theorem pairwise_sorted (list : List α) (start : Nat) :
    ((list.zipIdx start).insertionSort (fun one other => key one.1 ≤ key other.1)).Pairwise
      (Before key) := by
  induction list generalizing start with
  | nil => exact List.Pairwise.nil
  | cons head rest ih =>
      rw [List.zipIdx_cons, List.insertionSort_cons]
      apply pairwise_orderedInsert _ (ih (start + 1))
      intro other inside
      have member := (List.mem_insertionSort _).mp inside
      have bound := List.le_snd_of_mem_zipIdx member
      omega

/-- An element with all that is sorted after it is an element with all that has a larger key,
or the same key and a larger index. -/
theorem sorted_split_iff (list : List α) (holds later : α → Prop) :
    (∃ front chosen back, sorted key list = front ++ chosen :: back ∧ holds chosen ∧
        ∀ other ∈ back, later other) ↔
      ∃ index chosen, list[index]? = some chosen ∧ holds chosen ∧
        ∀ index' other, list[index']? = some other →
          Before key (chosen, index) (other, index') → later other := by
  let tagged := list.zipIdx.insertionSort (fun one other => key one.1 ≤ key other.1)
  have ordered : tagged.Pairwise (Before key) := pairwise_sorted list 0
  have projected : tagged.map Prod.fst = sorted key list := by
    rw [List.map_insertionSort _ (fun first second => key first ≤ key second)]
    · rw [List.zipIdx_map_fst]
    · intro _ _ _ _
      exact Iff.rfl
  have member : ∀ element index, (element, index) ∈ tagged ↔ list[index]? = some element := by
    intro element index
    rw [List.mem_insertionSort]
    exact List.mk_mem_zipIdx_iff_getElem?
  constructor
  · rintro ⟨front, chosen, back, split, held, after⟩
    rw [← projected] at split
    obtain ⟨front', rest, whole, -, tail⟩ := List.map_eq_append_iff.mp split
    obtain ⟨⟨chosen', index⟩, back', rfl, same, last⟩ := List.map_eq_cons_iff.mp tail
    subst same
    have here : list[index]? = some chosen' :=
      (member chosen' index).mp (by rw [whole]; exact List.mem_append_right _ List.mem_cons_self)
    refine ⟨index, chosen', here, held, fun index' other found before => ?_⟩
    have inside := (member other index').mpr found
    rw [whole] at inside ordered
    obtain ⟨-, pairs, cross⟩ := List.pairwise_append.mp ordered
    rcases List.mem_append.mp inside with left | right
    · exact absurd (cross _ left _ List.mem_cons_self) before.asymm
    · rcases List.mem_cons.mp right with same | right
      · cases same
        exact absurd before before.asymm
      · apply after
        rw [← last]
        exact List.mem_map_of_mem right
  · rintro ⟨index, chosen, found, held, after⟩
    have inside := (member chosen index).mpr found
    obtain ⟨front, back, whole⟩ := List.append_of_mem inside
    refine ⟨front.map Prod.fst, chosen, back.map Prod.fst, ?_, held, ?_⟩
    · rw [← projected, whole, List.map_append, List.map_cons]
    · intro other inside
      obtain ⟨⟨other', index'⟩, right, rfl⟩ := List.mem_map.mp inside
      rw [whole] at ordered
      have pairs := (List.pairwise_append.mp ordered).2.1
      have before := (List.pairwise_cons.mp pairs).1 _ right
      have there : (other', index') ∈ tagged := by
        rw [whole]
        exact List.mem_append_right _ (List.mem_cons_of_mem _ right)
      exact after index' other' ((member other' index').mp there) before

/-- Elements none of which the sort has to move past another keep their order. -/
theorem filter_insertionSort {before : α → α → Prop} [DecidableRel before] {keep : α → Bool}
    (tied : ∀ first second, keep first = true → keep second = true → before first second)
    (list : List α) : (list.insertionSort before).filter keep = list.filter keep := by
  have kept : ∀ element ∈ list.filter keep, keep element = true :=
    fun element inside => (List.mem_filter.mp inside).2
  have pairs : (list.filter keep).Pairwise before :=
    List.pairwise_of_forall_mem_list (fun first inside second other =>
      tied first second (kept first inside) (kept second other))
  have sub := (List.sublist_insertionSort pairs List.filter_sublist).filter keep
  have whole : (list.filter keep).filter keep = list.filter keep := List.filter_eq_self.mpr kept
  rw [whole] at sub
  have length := ((List.perm_insertionSort before list).filter keep).length_eq
  exact (sub.eq_of_length length.symm).symm

/-- Of two elements of a list, one stands before the other. -/
theorem pair_sublist_or {list : List α} {first second : α} (one : first ∈ list)
    (other : second ∈ list) (differ : first ≠ second) :
    [first, second].Sublist list ∨ [second, first].Sublist list := by
  induction list with
  | nil => cases one
  | cons head rest ih =>
      rcases List.mem_cons.mp one with same | left
      · rcases List.mem_cons.mp other with same' | right
        · exact absurd (same.trans same'.symm) differ
        · rw [same]
          exact .inl (List.cons_sublist_cons.mpr (List.singleton_sublist.mpr right))
      · rcases List.mem_cons.mp other with same' | right
        · rw [same']
          exact .inr (List.cons_sublist_cons.mpr (List.singleton_sublist.mpr left))
        · rcases ih left right with before | after
          · exact .inl (before.cons _)
          · exact .inr (after.cons _)

/-- Where nothing is repeated, what stands before has the smaller index. -/
theorem idxOf_lt_of_pair [DecidableEq α] {list : List α} (nodup : list.Nodup) {first second : α}
    (pair : [first, second].Sublist list) : list.idxOf first < list.idxOf second := by
  induction list with
  | nil => cases pair
  | cons head rest ih =>
      obtain ⟨absent, nodup⟩ := List.nodup_cons.mp nodup
      have apart : ∀ element ∈ rest, head ≠ element := fun element inside same =>
        absent (same ▸ inside)
      rcases List.sublist_cons_iff.mp pair with later | ⟨tail, same, inside⟩
      · have left := apart first (later.subset List.mem_cons_self)
        have right := apart second (later.subset (List.mem_cons_of_mem _ List.mem_cons_self))
        rw [List.idxOf_cons_ne _ left, List.idxOf_cons_ne _ right]
        exact Nat.succ_lt_succ (ih nodup later)
      · cases same
        have right := apart second (List.singleton_sublist.mp inside)
        rw [List.idxOf_cons_self, List.idxOf_cons_ne _ right]
        exact Nat.succ_pos _

theorem idxOf_lt_iff [DecidableEq α] {list : List α} (nodup : list.Nodup) {first second : α}
    (one : first ∈ list) (other : second ∈ list) (differ : first ≠ second) :
    list.idxOf first < list.idxOf second ↔ [first, second].Sublist list := by
  refine ⟨fun less => ?_, idxOf_lt_of_pair nodup⟩
  rcases pair_sublist_or one other differ with before | after
  · exact before
  · exact absurd (idxOf_lt_of_pair nodup after) (Nat.lt_asymm less)

/-- The sort puts one element before another where it has to, or where the two are tied and stood
so before. -/
theorem pair_sublist_insertionSort_iff {before : α → α → Prop} [DecidableRel before]
    [Std.Total before] [IsTrans α before] {list : List α} (nodup : list.Nodup) {first second : α}
    (one : first ∈ list) (other : second ∈ list) (differ : first ≠ second) :
    [first, second].Sublist (list.insertionSort before) ↔
      before first second ∧ (before second first → [first, second].Sublist list) := by
  classical
  have ordered := List.pairwise_insertionSort before list
  constructor
  · intro sorted
    refine ⟨List.pairwise_pair.mp (ordered.sublist sorted), fun back => ?_⟩
    rcases pair_sublist_or one other differ with stood | reversed
    · exact stood
    · have nodup' := (List.perm_insertionSort before list).nodup_iff.mpr nodup
      have less := idxOf_lt_of_pair nodup' sorted
      have more := idxOf_lt_of_pair nodup' (List.pair_sublist_insertionSort back reversed)
      exact absurd more (Nat.lt_asymm less)
  · rintro ⟨fits, stable⟩
    by_cases back : before second first
    · exact List.pair_sublist_insertionSort fits (stable back)
    · rcases pair_sublist_or ((List.mem_insertionSort before).mpr one)
        ((List.mem_insertionSort before).mpr other) differ with sorted | reversed
      · exact sorted
      · exact absurd (List.pairwise_pair.mp (ordered.sublist reversed)) back

/-- The first element of a sorted list is the first of those that nothing is sorted before. -/
theorem head_insertionSort {before : α → α → Prop} [DecidableRel before] [Std.Total before]
    [IsTrans α before] {list rest : List α} {first : α}
    (sorted : list.insertionSort before = first :: rest) :
    ∃ front back, list = front ++ first :: back ∧ (∀ other ∈ front, ¬ before other first) ∧
      ∀ other ∈ back, before first other := by
  induction list generalizing first rest with
  | nil => cases sorted
  | cons head tail ih =>
      rw [List.insertionSort_cons] at sorted
      cases later : tail.insertionSort before with
      | nil =>
          rw [later, List.orderedInsert_nil] at sorted
          cases sorted
          have empty : tail = [] := by
            have same := List.length_insertionSort before tail
            rw [later] at same
            exact List.length_eq_zero_iff.mp same.symm
          exact ⟨[], [], by rw [empty]; rfl, nofun, nofun⟩
      | cons least others =>
          obtain ⟨front, back, split, above, below⟩ := ih later
          rw [later, List.orderedInsert] at sorted
          split at sorted
          · rename_i small
            cases sorted
            refine ⟨[], tail, rfl, nofun, fun other inside => ?_⟩
            rw [split] at inside
            rcases List.mem_append.mp inside with left | right
            · have total := (Std.Total.total other least).resolve_left (above other left)
              exact IsTrans.trans _ _ _ small total
            · rcases List.mem_cons.mp right with rfl | right
              · exact small
              · exact IsTrans.trans _ _ _ small (below other right)
          · rename_i large
            cases sorted
            refine ⟨head :: front, back, by rw [split]; rfl, fun other inside => ?_, below⟩
            rcases List.mem_cons.mp inside with rfl | inside
            · exact large
            · exact above other inside

/-- The same where only some of the elements are sorted. -/
theorem head_sorted_filter {before : α → α → Prop} [DecidableRel before] [Std.Total before]
    [IsTrans α before] {keep : α → Bool} {list rest : List α} {first : α}
    (sorted : (list.filter keep).insertionSort before = first :: rest) :
    keep first = true ∧ ∃ front back, list = front ++ first :: back ∧
      (∀ other ∈ front, keep other = true → ¬ before other first) ∧
      ∀ other ∈ back, keep other = true → before first other := by
  obtain ⟨front, back, split, above, below⟩ := head_insertionSort sorted
  obtain ⟨left, right, rfl, kept, tail⟩ := List.filter_eq_append_iff.mp split
  obtain ⟨skipped, right, rfl, dropped, keeps, later⟩ := List.filter_eq_cons_iff.mp tail
  refine ⟨keeps, left ++ skipped, right, by rw [List.append_assoc], ?_, ?_⟩
  · intro other inside kind
    rcases List.mem_append.mp inside with inside | inside
    · exact above other (kept ▸ List.mem_filter.mpr ⟨inside, kind⟩)
    · exact absurd kind (dropped other inside)
  · intro other inside kind
    exact below other (later ▸ List.mem_filter.mpr ⟨inside, kind⟩)

end Lib.StableSort
