import LexMind.Lib.Keyed

set_option autoImplicit false

/- Insertion-ordered dictionaries of bounded size: taking rows from the front,
hiding rows, and renaming keys. -/
namespace Lib

namespace Keyed

variable {κ ν : Type} {key : ν → κ}

/-- The rows that are kept, in their order. -/
def restrict (table : Keyed key) (keep : ν → Bool) : Keyed key :=
  ⟨table.rows.filter keep, (List.filter_sublist.map key).nodup table.distinct⟩

/-- Without the row that was inserted first. -/
def popFirst (table : Keyed key) : Keyed key :=
  ⟨table.rows.tail, ((List.tail_sublist _).map key).nodup table.distinct⟩

/-- Take rows from the front while there are `limit` or more. -/
def shrink (limit : Nat) : List ν → List ν
  | [] => []
  | row :: rest => if limit ≤ (row :: rest).length then shrink limit rest else row :: rest

theorem shrink_sublist (limit : Nat) (rows : List ν) : (shrink limit rows).Sublist rows := by
  induction rows with
  | nil => exact .slnil
  | cons row rest ih =>
      rw [shrink]
      split
      · exact ih.cons row
      · exact .refl _

def makeRoom (limit : Nat) (table : Keyed key) : Keyed key :=
  ⟨shrink limit table.rows, ((shrink_sublist limit table.rows).map key).nodup table.distinct⟩

@[simp] theorem rows_restrict (table : Keyed key) (keep : ν → Bool) :
    (table.restrict keep).rows = table.rows.filter keep := rfl

@[simp] theorem rows_popFirst (table : Keyed key) : table.popFirst.rows = table.rows.tail := rfl

@[simp] theorem rows_makeRoom (limit : Nat) (table : Keyed key) :
    (table.makeRoom limit).rows = shrink limit table.rows := rfl

theorem shrink_eq_self {limit : Nat} {rows : List ν} (room : rows.length < limit) :
    shrink limit rows = rows := by
  cases rows with
  | nil => rfl
  | cons row rest => rw [shrink, if_neg (Nat.not_le.mpr room)]

/-- From a full table, one row is taken. -/
theorem shrink_full {limit : Nat} {row : ν} {rest : List ν} (full : (row :: rest).length = limit) :
    shrink limit (row :: rest) = rest := by
  rw [shrink, if_pos (Nat.le_of_eq full.symm)]
  apply shrink_eq_self
  rw [List.length_cons] at full
  omega

theorem length_shrink_lt {limit : Nat} (positive : 0 < limit) (rows : List ν) :
    (shrink limit rows).length < limit := by
  induction rows with
  | nil => exact positive
  | cons row rest ih =>
      rw [shrink]
      split
      · exact ih
      · rename_i room
        exact Nat.not_le.mp room

variable [DecidableEq κ]

theorem length_putRows_le (rows : List ν) (row : ν) :
    (putRows key rows row).length ≤ rows.length + 1 := by
  unfold putRows
  split
  · simp
  · simp

theorem find?_restrict (table : Keyed key) (keep : ν → Bool) (k : κ) :
    (table.restrict keep).find? k = (table.find? k).filter keep := by
  ext row
  rw [find?_eq_some_iff, rows_restrict, List.mem_filter, Option.filter_eq_some_iff,
    find?_eq_some_iff, and_right_comm]

/-- A key that the first row does not have is found as before. -/
theorem find?_popFirst (table : Keyed key) {k : κ} (apart : table.rows.head?.map key ≠ some k) :
    table.popFirst.find? k = table.find? k := by
  unfold find?
  rw [rows_popFirst]
  cases split : table.rows with
  | nil => rfl
  | cons row rest =>
      rw [split] at apart
      have other : key row ≠ k := fun same => apart (congrArg some same)
      rw [List.tail_cons, List.find?_cons_of_neg (by simpa using other)]

theorem rows_foldl_erase (rows : List ν) (table : Keyed key) :
    (rows.foldl (fun table row => table.erase (key row)) table).rows =
      table.rows.filter (fun row => key row ∉ rows.map key) := by
  induction rows generalizing table with
  | nil => exact (List.filter_eq_self.mpr (by simp)).symm
  | cons first rest ih =>
      rw [List.foldl_cons, ih]
      show (table.rows.filter _).filter _ = _
      rw [List.filter_filter]
      apply List.filter_congr
      intro row _
      rw [List.map_cons, Bool.and_comm]
      simp [List.mem_cons, not_or]

/-- Erasing the rows of a kind one after another leaves those of the other. -/
theorem foldl_erase_filter (table : Keyed key) (leaves : ν → Bool) :
    (table.rows.filter leaves).foldl (fun table row => table.erase (key row)) table =
      table.restrict (fun row => !leaves row) := by
  apply ext_rows
  rw [rows_foldl_erase, rows_restrict]
  apply List.filter_congr
  intro row inside
  have listed : key row ∈ (table.rows.filter leaves).map key ↔ leaves row = true := by
    constructor
    · intro member
      obtain ⟨other, chosen, same⟩ := List.mem_map.mp member
      obtain ⟨there, left⟩ := List.mem_filter.mp chosen
      rwa [table.eq_of_key_eq there inside same] at left
    · exact fun left => List.mem_map_of_mem (List.mem_filter.mpr ⟨inside, left⟩)
  cases left : leaves row with
  | true => simp [listed, left]
  | false => simp [listed, left]

theorem putRows_new {rows : List ν} {row : ν} (absent : key row ∉ rows.map key) :
    putRows key rows row = rows ++ [row] := if_neg absent

/-- A row that is there is overwritten where it stands. -/
theorem putRows_split {front back : List ν} {old row : ν} (same : key old = key row)
    (distinct : ((front ++ old :: back).map key).Nodup) :
    putRows key (front ++ old :: back) row = front ++ row :: back := by
  have inside : key row ∈ (front ++ old :: back).map key := by
    rw [← same]
    exact List.mem_map_of_mem (List.mem_append_right front List.mem_cons_self)
  rw [List.map_append, List.map_cons, List.nodup_append, List.nodup_cons] at distinct
  obtain ⟨_, ⟨after, _⟩, apart⟩ := distinct
  have before : ∀ other ∈ front, key other ≠ key row := fun other member equal =>
    apart _ (List.mem_map_of_mem member) _ List.mem_cons_self (equal.trans same.symm)
  have behind : ∀ other ∈ back, key other ≠ key row := fun other member equal =>
    after (same.trans equal.symm ▸ List.mem_map_of_mem member)
  have kept (rows : List ν) (others : ∀ other ∈ rows, key other ≠ key row) :
      rows.map (fun old => if key old = key row then row else old) = rows := by
    calc rows.map (fun old => if key old = key row then row else old)
        = rows.map id := List.map_congr_left (fun other member => if_neg (others other member))
      _ = rows := List.map_id rows
  rw [putRows, if_pos inside, List.map_append, List.map_cons, kept front before, kept back behind,
    if_pos same]

/-- A row that is put adds at most one to what is counted of the rows. -/
theorem count_putRows_le {ξ : Type} [DecidableEq ξ] (label : ν → ξ) {rows : List ν} {row : ν}
    (distinct : (rows.map key).Nodup) (x : ξ) :
    ((putRows key rows row).map label).count x ≤
      (rows.map label).count x + if label row = x then 1 else 0 := by
  by_cases inside : key row ∈ rows.map key
  · obtain ⟨old, member, same⟩ := List.mem_map.mp inside
    obtain ⟨front, back, rfl⟩ := List.append_of_mem member
    rw [putRows_split same distinct]
    simp only [List.map_append, List.map_cons, List.count_append, List.count_cons, beq_iff_eq]
    omega
  · rw [putRows_new inside]
    simp only [List.map_append, List.map_cons, List.map_nil, List.count_append, List.count_cons,
      List.count_nil, beq_iff_eq]
    omega

/-- A row that a filter shows is put among the rows it shows, where a hidden row of its key has
none of them behind it. -/
theorem filter_putRows {keep : ν → Bool} {rows : List ν} {row : ν} (shown : keep row = true)
    (distinct : (rows.map key).Nodup)
    (last : ∀ front old back, rows = front ++ old :: back → key old = key row →
      keep old = false → back.filter keep = []) :
    (putRows key rows row).filter keep = putRows key (rows.filter keep) row := by
  by_cases inside : key row ∈ rows.map key
  · obtain ⟨old, member, same⟩ := List.mem_map.mp inside
    obtain ⟨front, back, rfl⟩ := List.append_of_mem member
    rw [putRows_split same distinct]
    have fewer : (((front ++ old :: back).filter keep).map key).Nodup :=
      (List.filter_sublist.map key).nodup distinct
    cases visible : keep old with
    | true =>
        have split : (front ++ old :: back).filter keep =
            front.filter keep ++ old :: back.filter keep := by
          rw [List.filter_append, List.filter_cons_of_pos visible]
        rw [split] at fewer ⊢
        rw [putRows_split same fewer, List.filter_append, List.filter_cons_of_pos shown]
    | false =>
        have none := last front old back rfl same visible
        have hidden : (front ++ old :: back).filter keep = front.filter keep := by
          rw [List.filter_append, List.filter_cons_of_neg (by simp [visible]), none, List.append_nil]
        have absent : key row ∉ (front.filter keep).map key := by
          intro listed
          obtain ⟨other, kept, equal⟩ := List.mem_map.mp listed
          rw [List.map_append, List.nodup_append] at distinct
          exact distinct.2.2 _ (List.mem_map_of_mem (List.mem_of_mem_filter kept)) _
            (by rw [List.map_cons]; exact List.mem_cons_self) (equal.trans same.symm)
        rw [hidden, putRows_new absent, List.filter_append, List.filter_cons_of_pos shown, none]
  · have absent : key row ∉ (rows.filter keep).map key := by
      intro listed
      obtain ⟨other, kept, equal⟩ := List.mem_map.mp listed
      exact inside (equal ▸ List.mem_map_of_mem (List.mem_of_mem_filter kept))
    rw [putRows_new inside, putRows_new absent, List.filter_append, List.filter_cons_of_pos shown,
      List.filter_nil]

/-- Where a change of the rows changes no row's key into the new row's, it commutes with putting. -/
theorem putRows_map {μ ξ : Type} [DecidableEq μ] {label : ξ → μ} (change : ν → ξ) {rows : List ν}
    {row : ν} (same : ∀ old ∈ rows, label (change old) = label (change row) ↔ key old = key row) :
    putRows label (rows.map change) (change row) = (putRows key rows row).map change := by
  have listed : label (change row) ∈ (rows.map change).map label ↔ key row ∈ rows.map key := by
    rw [List.map_map, List.mem_map, List.mem_map]
    constructor
    · rintro ⟨old, member, equal⟩
      exact ⟨old, member, (same old member).mp equal⟩
    · rintro ⟨old, member, equal⟩
      exact ⟨old, member, (same old member).mpr equal⟩
  by_cases inside : key row ∈ rows.map key
  · rw [putRows, putRows, if_pos inside, if_pos (listed.mpr inside), List.map_map, List.map_map]
    apply List.map_congr_left
    intro old member
    by_cases equal : key old = key row
    · simp [equal, (same old member).mpr equal]
    · simp [equal, (same old member).not.mpr equal]
  · rw [putRows_new inside, putRows_new (listed.not.mpr inside), List.map_append, List.map_singleton]

/-- The keys that are left after a change of the rows and a filter on them. -/
theorem filter_map_ne {μ ξ : Type} [DecidableEq μ] {label : ξ → μ} (change : ν → ξ) {rows : List ν}
    {k : κ} {m : μ} (same : ∀ old ∈ rows, label (change old) = m ↔ key old = k) :
    (rows.map change).filter (fun row => label row ≠ m) =
      (rows.filter (fun row => key row ≠ k)).map change := by
  rw [List.filter_map]
  congr 1
  apply List.filter_congr
  intro old member
  simp [same old member]

end Keyed

end Lib
