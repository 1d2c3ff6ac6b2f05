import Mathlib.Data.List.Nodup
import Mathlib.Data.List.Induction
import Mathlib.Data.List.Basic

set_option autoImplicit false

namespace Lib

/-- Rows with pairwise distinct keys, in the order of their first insertion: a
table with a primary key, or an insertion-ordered dictionary. -/
structure Keyed {κ ν : Type} (key : ν → κ) where
  rows : List ν
  distinct : (rows.map key).Nodup

namespace Keyed

variable {κ ν : Type} {key : ν → κ}

theorem ext_rows {first second : Keyed key} (same : first.rows = second.rows) :
    first = second := by
  cases first
  cases second
  cases same
  rfl

def empty : Keyed key := ⟨[], List.nodup_nil⟩

@[simp] theorem rows_empty : (empty : Keyed key).rows = [] := rfl

theorem eq_of_key_eq (table : Keyed key) {first second : ν} (left : first ∈ table.rows)
    (right : second ∈ table.rows) (same : key first = key second) : first = second :=
  List.inj_on_of_nodup_map table.distinct left right same

variable [DecidableEq κ]

def find? (table : Keyed key) (k : κ) : Option ν :=
  table.rows.find? (fun row => key row = k)

def contains (table : Keyed key) (k : κ) : Bool := (table.find? k).isSome

/-- Overwrite the row with the same key where it stands, or append a new row. -/
def putRows (key : ν → κ) (rows : List ν) (row : ν) : List ν :=
  if key row ∈ rows.map key then
    rows.map (fun old => if key old = key row then row else old)
  else rows ++ [row]

theorem putRows_map_key (rows : List ν) (row : ν) :
    (putRows key rows row).map key =
      if key row ∈ rows.map key then rows.map key else rows.map key ++ [key row] := by
  unfold putRows
  split
  · rw [List.map_map]
    apply List.map_congr_left
    intro old _
    simp only [Function.comp_apply]
    split
    · rename_i same
      exact same.symm
    · rfl
  · simp

theorem putRows_distinct (rows : List ν) (row : ν) (distinct : (rows.map key).Nodup) :
    ((putRows key rows row).map key).Nodup := by
  rw [putRows_map_key]
  split
  · exact distinct
  · rename_i fresh
    exact List.nodup_append.mpr ⟨distinct, by simp, by
      intro k inside k' single
      rw [List.mem_singleton.mp single]
      exact fun same => fresh (same ▸ inside)⟩

def put (table : Keyed key) (row : ν) : Keyed key :=
  ⟨putRows key table.rows row, putRows_distinct table.rows row table.distinct⟩

def erase (table : Keyed key) (k : κ) : Keyed key :=
  ⟨table.rows.filter (fun row => key row ≠ k),
    (List.filter_sublist.map key).nodup table.distinct⟩

@[simp] theorem find?_empty (k : κ) : (empty : Keyed key).find? k = none := rfl

theorem find?_eq_some_iff (table : Keyed key) (k : κ) (row : ν) :
    table.find? k = some row ↔ row ∈ table.rows ∧ key row = k := by
  constructor
  · intro found
    exact ⟨List.mem_of_find?_eq_some found, by simpa using List.find?_some found⟩
  · rintro ⟨inside, rfl⟩
    cases found : table.find? (key row) with
    | none =>
        have absent := List.find?_eq_none.mp found row inside
        simp at absent
    | some other =>
        have matched : key other = key row := by simpa using List.find?_some found
        rw [table.eq_of_key_eq (List.mem_of_find?_eq_some found) inside matched]

theorem find?_eq_none_iff (table : Keyed key) (k : κ) :
    table.find? k = none ↔ ∀ row ∈ table.rows, key row ≠ k := by
  simp [find?, List.find?_eq_none]

theorem key_of_find? {table : Keyed key} {k : κ} {row : ν}
    (found : table.find? k = some row) : key row = k :=
  ((table.find?_eq_some_iff k row).mp found).2

theorem mem_of_find? {table : Keyed key} {k : κ} {row : ν}
    (found : table.find? k = some row) : row ∈ table.rows :=
  ((table.find?_eq_some_iff k row).mp found).1

theorem find?_of_mem (table : Keyed key) {row : ν} (inside : row ∈ table.rows) :
    table.find? (key row) = some row :=
  (table.find?_eq_some_iff _ row).mpr ⟨inside, rfl⟩

@[simp] theorem contains_eq_true_iff (table : Keyed key) (k : κ) :
    table.contains k = true ↔ ∃ row, table.find? k = some row := by
  simp [contains, Option.isSome_iff_exists]

theorem mem_put (table : Keyed key) (row other : ν) :
    other ∈ (table.put row).rows ↔
      other = row ∨ other ∈ table.rows ∧ key other ≠ key row := by
  change other ∈ putRows key table.rows row ↔ _
  unfold putRows
  split
  · rename_i present
    obtain ⟨old, inside, same⟩ := List.mem_map.mp present
    rw [List.mem_map]
    constructor
    · rintro ⟨source, member, rfl⟩
      split
      · exact .inl rfl
      · rename_i differs
        exact .inr ⟨member, differs⟩
    · rintro (rfl | ⟨member, differs⟩)
      · exact ⟨old, inside, by simp [same]⟩
      · exact ⟨other, member, by simp [differs]⟩
  · rename_i fresh
    simp only [List.mem_append, List.mem_singleton]
    constructor
    · rintro (member | rfl)
      · exact .inr ⟨member, fun same => fresh (same ▸ List.mem_map_of_mem member)⟩
      · exact .inl rfl
    · rintro (rfl | ⟨member, _⟩)
      · exact .inr rfl
      · exact .inl member

theorem find?_put (table : Keyed key) (row : ν) (k : κ) :
    (table.put row).find? k = if key row = k then some row else table.find? k := by
  split
  · rename_i same
    rw [find?_eq_some_iff, mem_put]
    exact ⟨.inl rfl, same⟩
  · rename_i differs
    ext other
    rw [find?_eq_some_iff, find?_eq_some_iff, mem_put]
    constructor
    · rintro ⟨rfl | ⟨member, _⟩, rfl⟩
      · exact absurd rfl differs
      · exact ⟨member, rfl⟩
    · rintro ⟨member, rfl⟩
      exact ⟨.inr ⟨member, Ne.symm differs⟩, rfl⟩

@[simp] theorem find?_put_self (table : Keyed key) (row : ν) :
    (table.put row).find? (key row) = some row := by
  simp [find?_put]

theorem find?_put_of_ne (table : Keyed key) (row : ν) {k : κ} (differs : key row ≠ k) :
    (table.put row).find? k = table.find? k := by
  simp [find?_put, differs]

/-- A row with a new key comes last. -/
theorem rows_put_fresh (table : Keyed key) (row : ν) (fresh : table.contains (key row) = false) :
    (table.put row).rows = table.rows ++ [row] := by
  have absent : table.find? (key row) = none := by
    simpa [contains] using fresh
  apply if_neg
  intro listed
  obtain ⟨old, inside, same⟩ := List.mem_map.mp listed
  exact (find?_eq_none_iff _ _).mp absent old inside same

theorem filter_overwrite (keep : ν → Bool) (row : ν) (hidden : keep row = false) (rows : List ν) :
    (rows.map (fun old => if key old = key row then row else old)).filter keep =
      (rows.filter keep).filter (fun old => key old ≠ key row) := by
  induction rows with
  | nil => rfl
  | cons old rest ih =>
      by_cases same : key old = key row
      · by_cases kept : keep old = true <;> simp_all
      · by_cases kept : keep old = true <;> simp_all

/-- A row that a filter hides takes the row it replaces out of the filtered ones. -/
theorem filter_put (table : Keyed key) (keep : ν → Bool) (row : ν) (hidden : keep row = false) :
    (table.put row).rows.filter keep =
      (table.rows.filter keep).filter (fun old => key old ≠ key row) := by
  change (putRows key table.rows row).filter keep = _
  unfold putRows
  split
  · exact filter_overwrite keep row hidden table.rows
  · rename_i fresh
    have apart : ∀ old ∈ table.rows.filter keep, key old ≠ key row := fun old inside same =>
      fresh (same ▸ List.mem_map_of_mem (List.mem_of_mem_filter inside))
    have unchanged := List.filter_eq_self.mpr
      (fun old inside => decide_eq_true (apart old inside))
    rw [List.filter_append, List.filter_cons_of_neg (by simp [hidden]), List.filter_nil,
      List.append_nil, unchanged]

@[simp] theorem mem_erase (table : Keyed key) (k : κ) (row : ν) :
    row ∈ (table.erase k).rows ↔ row ∈ table.rows ∧ key row ≠ k := by
  simp [erase]

theorem find?_erase (table : Keyed key) (k other : κ) :
    (table.erase k).find? other = if other = k then none else table.find? other := by
  split
  · rename_i same
    rw [find?_eq_none_iff]
    intro row member
    exact same ▸ ((mem_erase table k row).mp member).2
  · rename_i differs
    ext row
    rw [find?_eq_some_iff, find?_eq_some_iff, mem_erase]
    constructor
    · rintro ⟨⟨member, _⟩, rfl⟩
      exact ⟨member, rfl⟩
    · rintro ⟨member, rfl⟩
      exact ⟨⟨member, differs⟩, rfl⟩

/-- Writing back the row a key already has changes nothing. -/
theorem put_of_find? (table : Keyed key) {row : ν}
    (found : table.find? (key row) = some row) : table.put row = table := by
  apply ext_rows
  change putRows key table.rows row = table.rows
  have inside := mem_of_find? found
  rw [putRows, if_pos (List.mem_map_of_mem inside)]
  calc table.rows.map (fun old => if key old = key row then row else old)
      = table.rows.map id := by
        apply List.map_congr_left
        intro old member
        split
        · rename_i same
          exact (table.eq_of_key_eq member inside same).symm
        · rfl
    _ = table.rows := List.map_id _

/-- `dict.update`: the rows are put one after another. -/
def putAll (table : Keyed key) (rows : List ν) : Keyed key := rows.foldl put table

/-- Rows whose keys are new come after the rows that are there. -/
theorem rows_putAll (table : Keyed key) {rows : List ν}
    (distinct : ((table.rows ++ rows).map key).Nodup) :
    (table.putAll rows).rows = table.rows ++ rows := by
  induction rows generalizing table with
  | nil => exact (List.append_nil _).symm
  | cons row rest ih =>
      have fresh : key row ∉ table.rows.map key := by
        rw [List.map_append, List.nodup_append] at distinct
        intro inside
        exact distinct.2.2 _ inside _ List.mem_cons_self rfl
      have appended : (table.put row).rows = table.rows ++ [row] := if_neg fresh
      have later : ((table.put row).rows ++ rest).map key = (table.rows ++ row :: rest).map key := by
        rw [appended, List.append_assoc]
        rfl
      rw [putAll, List.foldl_cons]
      show ((table.put row).putAll rest).rows = _
      rw [ih (table.put row) (later ▸ distinct), appended, List.append_assoc]
      rfl

/-- Where rows with one key are the same, it plays no part in which order they are put. -/
theorem find?_putAll {rows : List ν}
    (functional : ∀ first ∈ rows, ∀ second ∈ rows, key first = key second → first = second)
    (k : κ) (row : ν) :
    (empty.putAll rows : Keyed key).find? k = some row ↔ row ∈ rows ∧ key row = k := by
  induction rows using List.reverseRecOn with
  | nil => exact iff_of_false nofun (fun holds => List.not_mem_nil holds.1)
  | append_singleton front last ih =>
      have before := ih (fun first early second early' => functional first
        (List.mem_append_left _ early) second (List.mem_append_left _ early'))
      have put : (empty.putAll (front ++ [last]) : Keyed key) = (empty.putAll front).put last :=
        List.foldl_append ..
      rw [put, find?_put, List.mem_append, List.mem_singleton]
      by_cases same : key last = k
      · rw [if_pos same, Option.some_inj]
        constructor
        · rintro rfl
          exact ⟨.inr rfl, same⟩
        · rintro ⟨early | rfl, found⟩
          · exact functional last (List.mem_append_right _ List.mem_cons_self) row
              (List.mem_append_left _ early) (same.trans found.symm)
          · rfl
      · rw [if_neg same, before]
        constructor
        · exact fun holds => ⟨.inl holds.1, holds.2⟩
        · rintro ⟨early | rfl, found⟩
          · exact ⟨early, found⟩
          · exact absurd found same

theorem putAll_empty (table : Keyed key) : empty.putAll table.rows = table := by
  apply ext_rows
  rw [rows_putAll empty (by simpa using table.distinct)]
  rfl

end Keyed

/-- An order of reading that the data does not fix: for any rows, one of their
permutations. -/
structure Arrangement (α : Type) where
  arrange : List α → List α
  perm : ∀ rows, (arrange rows).Perm rows

namespace Arrangement

variable {α : Type}

def asStored : Arrangement α := ⟨id, fun _ => .refl _⟩

@[simp] theorem mem_arrange (order : Arrangement α) (rows : List α) (row : α) :
    row ∈ order.arrange rows ↔ row ∈ rows :=
  (order.perm rows).mem_iff

end Arrangement

end Lib
