import LexMind.Lib.Call
import Mathlib.Algebra.Order.Floor.Div
import Mathlib.Data.List.Basic
import Mathlib.Data.List.Range

set_option autoImplicit false

/- Consecutive pages of a list, counted from 0, and how many there are. -/
namespace Lib

variable {α β ε : Type}

/-- What an offset of whole pages and a limit of one page select. -/
def pageSlice (size : Nat) (list : List α) (index : Nat) : List α :=
  (list.drop (index * size)).take size

/-- The number of pages is a quotient rounded up. -/
def pageCount (total size : Nat) : Nat := (total + size - 1) / size

/-- The first pages, one after another, are a front of the list. -/
theorem flatMap_pageSlice (size : Nat) (list : List α) (count : Nat) :
    (List.range count).flatMap (pageSlice size list) = list.take (count * size) := by
  induction count with
  | zero => simp
  | succ count ih =>
      rw [List.range_succ, List.flatMap_append, ih, List.flatMap_singleton, Nat.succ_mul,
        List.take_add]
      rfl

theorem length_pageSlice (size : Nat) (list : List α) (index : Nat) :
    (pageSlice size list index).length = min size (list.length - index * size) := by
  rw [pageSlice, List.length_take, List.length_drop]

section Count

variable {size : Nat} (positive : 0 < size) (total : Nat)

include positive

/-- A page is among those counted exactly where some element comes on it or after it. -/
theorem lt_pageCount_iff (index : Nat) : index < pageCount total size ↔ index * size < total := by
  have rounded : pageCount total size ≤ index ↔ total ≤ size * index :=
    ceilDiv_le_iff_le_mul positive
  rw [← Nat.not_le, rounded, Nat.not_le, Nat.mul_comm]

theorem le_pageCount_mul : total ≤ pageCount total size * size :=
  Nat.not_lt.mp (fun less => Nat.lt_irrefl _ ((lt_pageCount_iff positive total _).mpr less))

/-- All pages, one after another, are the list. -/
theorem flatMap_pages (list : List α) :
    (List.range (pageCount list.length size)).flatMap (pageSlice size list) = list := by
  rw [flatMap_pageSlice, List.take_of_length_le (le_pageCount_mul positive list.length)]

variable {list : List α} {index : Nat}

/-- A page that another one follows is full. -/
theorem length_full (more : index + 1 < pageCount list.length size) :
    (pageSlice size list index).length = size := by
  have later := (lt_pageCount_iff positive list.length (index + 1)).mp more
  rw [Nat.succ_mul] at later
  rw [length_pageSlice]
  omega

theorem pageSlice_beyond (beyond : pageCount list.length size ≤ index) :
    pageSlice size list index = [] := by
  have none : list.length ≤ index * size := Nat.not_lt.mp (fun less =>
    Nat.not_le.mpr ((lt_pageCount_iff positive list.length index).mpr less) beyond)
  rw [pageSlice, List.drop_of_length_le none, List.take_nil]

end Count

/-- A list is answered exactly by the answers of its elements, in their order. -/
theorem mapM_eq_ok_iff (body : α → Except ε β) (values : List α) (answers : List β) :
    values.mapM body = .ok answers ↔ values.map body = answers.map .ok := by
  induction values generalizing answers with
  | nil =>
      rw [List.mapM_nil, List.map_nil, eq_comm (a := []), List.map_eq_nil_iff]
      exact ⟨fun same => (Except.ok.inj same).symm, fun same => congrArg Except.ok same.symm⟩
  | cons value rest ih =>
      rw [List.mapM_cons]
      constructor
      · intro returned
        obtain ⟨answer, first, returned⟩ := returned_of_bind returned
        obtain ⟨others, later, same⟩ := returned_of_bind returned
        cases same
        rw [List.map_cons, first, (ih others).mp later, List.map_cons]
      · intro same
        cases answers with
        | nil => cases same
        | cons answer others =>
            obtain ⟨first, later⟩ := List.cons.inj same
            rw [first]
            show (rest.mapM body >>= fun others => pure (answer :: others)) = _
            rw [(ih others).mpr later]
            rfl

/-- A window of an answered list is answered by the window of its answers. -/
theorem mapM_pageSlice {body : α → Except ε β} {values : List α} {answers : List β}
    (returned : values.mapM body = .ok answers) (size index : Nat) :
    (pageSlice size values index).mapM body = .ok (pageSlice size answers index) := by
  rw [mapM_eq_ok_iff] at returned ⊢
  rw [pageSlice, pageSlice, List.map_take, List.map_drop, returned, List.map_take, List.map_drop]

end Lib
