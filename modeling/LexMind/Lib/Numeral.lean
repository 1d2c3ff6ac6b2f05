import Mathlib.Data.List.Basic
import Mathlib.Data.List.Induction
import Mathlib.Tactic.IntervalCases

set_option autoImplicit false

/- Decimal numerals over characters with digit values. -/
namespace Lib.Numeral

variable {α : Type} (digit : α → Option Nat)

/-- The number that a text of digits writes. -/
def number (text : List α) : Nat :=
  text.foldl (fun value char => 10 * value + (digit char).getD 0) 0

/-- Every character is a digit. -/
def Digits (text : List α) : Prop := ∀ char ∈ text, (digit char).isSome = true

variable {digit}

theorem number_concat (text : List α) (char : α) :
    number digit (text ++ [char]) = 10 * number digit text + (digit char).getD 0 := by
  rw [number, List.foldl_append]
  rfl

section Bounds

variable (small : ∀ char value, digit char = some value → value < 10)

include small

theorem getD_lt (char : α) : (digit char).getD 0 < 10 := by
  cases found : digit char with
  | none => exact Nat.zero_lt_succ _
  | some value => exact small char value found

theorem number_lt (text : List α) : number digit text < 10 ^ text.length := by
  induction text using List.reverseRecOn with
  | nil => exact Nat.one_pos
  | append_singleton text char ih =>
      have last := getD_lt small char
      rw [number_concat, List.length_append, List.length_singleton, Nat.pow_succ]
      omega

omit small in
/-- A text that starts with a nonzero digit writes a number of its length. -/
theorem pow_le_number {first : α} {leading : Nat} (found : digit first = some leading)
    (positive : 0 < leading) (rest : List α) :
    10 ^ rest.length ≤ number digit (first :: rest) := by
  induction rest using List.reverseRecOn with
  | nil =>
      rw [number, List.foldl_cons, List.foldl_nil, found, Option.getD_some, List.length_nil]
      omega
  | append_singleton rest char ih =>
      rw [← List.cons_append, number_concat, List.length_append, List.length_singleton,
        Nat.pow_succ]
      omega

/-- The number tells whether a text without leading zeros is within a length. -/
theorem number_lt_iff {first : α} {leading : Nat} (found : digit first = some leading)
    (positive : 0 < leading) (rest : List α) (limit : Nat) :
    number digit (first :: rest) < 10 ^ limit ↔ (first :: rest).length ≤ limit := by
  constructor
  · intro below
    have least := pow_le_number found positive rest
    have powers : 10 ^ rest.length < 10 ^ limit := by omega
    exact (Nat.pow_lt_pow_iff_right (by decide)).mp powers
  · intro short
    exact (number_lt small _).trans_le (Nat.pow_le_pow_right (by decide) short)

end Bounds

section Written

variable {digit : Char → Option Nat}
  (ascii : ∀ char : Char, char.isDigit = true → digit char = some (char.toNat - '0'.toNat))

include ascii

theorem digits_toDigits (value : Nat) : Digits digit (Nat.toDigits 10 value) := by
  intro char inside
  rw [ascii char (Nat.isDigit_of_mem_toDigits (by decide) (by decide) inside)]
  rfl

/-- Written in decimal, a number is read back. -/
theorem number_toDigits (value : Nat) : number digit (Nat.toDigits 10 value) = value := by
  have same : number digit (Nat.toDigits 10 value) =
      Nat.ofDigitChars 10 (Nat.toDigits 10 value) 0 := by
    apply List.foldl_ext
    intro total char inside
    rw [ascii char (Nat.isDigit_of_mem_toDigits (by decide) (by decide) inside)]
    rfl
  rw [same, Nat.ofDigitChars_ten_toDigits]

omit ascii in
/-- A positive number is written without a leading zero. -/
theorem head_toDigits {value : Nat} (positive : 0 < value) :
    ∃ first rest, Nat.toDigits 10 value = first :: rest ∧ first.isDigit = true ∧ first ≠ '0' := by
  induction value using Nat.strong_induction_on with
  | _ value ih =>
    by_cases single : value < 10
    · refine ⟨value.digitChar, [], Nat.toDigits_of_lt_base single, ?_⟩
      interval_cases value <;> decide
    · obtain ⟨first, rest, front, leading⟩ := ih (value / 10) (by omega) (by omega)
      refine ⟨first, rest ++ [(value % 10).digitChar], ?_, leading⟩
      rw [Nat.toDigits_of_base_le (by decide) (by omega), front]
      rfl

end Written

end Lib.Numeral
