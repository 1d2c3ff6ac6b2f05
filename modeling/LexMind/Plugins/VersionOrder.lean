import LexMind.Plugins.PluginVersion
import Mathlib.Order.Interval.Set.Basic

set_option autoImplicit false

namespace LexMind.Plugins

open Lib

/-- A dotted decimal version: digits between single dots. -/
structure DottedVersion where
  text : String
  decimal : ∀ token ∈ text.toList.splitOn '.', token ≠ [] ∧ ∀ ch ∈ token, ch.isDigit = true

/-- The number that decimal digits write. -/
def decimalValue (token : List Char) : Nat :=
  token.foldl (fun value ch => 10 * value + (ch.toNat - '0'.toNat)) 0

namespace DottedVersion

variable (version : DottedVersion)

def tokens : List (List Char) := version.text.toList.splitOn '.'

def components : List Nat := version.tokens.map decimalValue

/-- No component is longer than `int` converts. -/
def Convertible : Prop := ∀ token ∈ version.tokens, token.length ≤ maxStrDigits

/-- Versions in the lexicographic order of their components, a proper prefix first. -/
instance : Preorder DottedVersion := Preorder.lift components

theorem le_def {first second : DottedVersion} :
    first ≤ second ↔ first.components ≤ second.components := Iff.rfl

theorem lt_def {first second : DottedVersion} :
    first < second ↔ first.components < second.components := by
  rw [lt_iff_le_not_ge, le_def, le_def, ← lt_iff_le_not_ge]

theorem equivalent_iff {first second : DottedVersion} :
    first ≤ second ∧ second ≤ first ↔ first.components = second.components :=
  (le_antisymm_iff (a := first.components)).symm

/-- The versions within bounds that may be left out. -/
def accepted (minimum maximum : Option DottedVersion) : Set DottedVersion :=
  { version | (∀ lo ∈ minimum, lo ≤ version) ∧ ∀ hi ∈ maximum, version ≤ hi }

theorem accepted_some (lo hi : DottedVersion) : accepted (some lo) (some hi) = Set.Icc lo hi := by
  ext version
  simp only [accepted, Option.mem_some_iff, forall_eq', Set.mem_ofPred_eq, Set.mem_Icc]

end DottedVersion

namespace UnicodeDigits

variable (unicode : UnicodeDigits)

theorem isdigit_of_isDigit {ch : Char} (digit : ch.isDigit = true) :
    unicode.isdigit ch = true ∧ unicode.decimal ch = some (ch.toNat - '0'.toNat) := by
  have small : ch.toNat < 128 := by
    simp only [Char.isDigit, Bool.and_eq_true, decide_eq_true_eq, ge_iff_le] at digit
    have upper := digit.2
    rw [UInt32.le_iff_toNat_le] at upper
    have nine : ('9'.val).toNat = 57 := rfl
    have same : ch.toNat = ch.val.toNat := rfl
    omega
  obtain ⟨isdigit, decimal⟩ := unicode.ascii ch small
  exact ⟨isdigit.trans digit, decimal.trans (if_pos digit)⟩

/-- A token of digits is read as the number it writes, if it is not too long. -/
theorem parseToken_digits {token : List Char} (some : token ≠ [])
    (digits : ∀ ch ∈ token, ch.isDigit = true) :
    if token.length ≤ maxStrDigits then unicode.parseToken token = .ok (decimalValue token)
    else ∃ message, unicode.parseToken token = .error (.valueError message) := by
  have whole : token.takeWhile unicode.isdigit = token :=
    List.takeWhile_eq_self_iff.mpr (fun ch inside => (isdigit_of_isDigit unicode (digits ch inside)).1)
  have values : token.map unicode.decimal = token.map (fun ch => .some (ch.toNat - '0'.toNat)) :=
    List.map_congr_left (fun ch inside => (isdigit_of_isDigit unicode (digits ch inside)).2)
  have all : (token.map unicode.decimal).takeWhile Option.isSome = token.map unicode.decimal := by
    refine List.takeWhile_eq_self_iff.mpr (fun value inside => ?_)
    rw [values] at inside
    obtain ⟨ch, _, rfl⟩ := List.mem_map.mp inside
    rfl
  have reduced : (token.map unicode.decimal).reduceOption =
      token.map (fun ch => ch.toNat - '0'.toNat) := by
    rw [values]
    change (token.map (fun ch => Option.some (ch.toNat - '0'.toNat))).filterMap id = _
    rw [List.filterMap_map]
    exact congrFun List.filterMap_eq_map token
  rw [parseToken, whole, if_neg some, int, all, List.length_map]
  split
  · rename_i short
    rw [if_neg (by omega), if_pos rfl, reduced, List.foldl_map]
    rfl
  · rename_i long
    rw [if_pos (by omega)]
    exact ⟨_, rfl⟩

theorem parseVersion_convertible {version : DottedVersion} (convertible : version.Convertible) :
    unicode.parseVersion version.text = .ok version.components := by
  have each : ∀ token ∈ version.tokens,
      ∃ value, unicode.parseToken token = .ok value ∧ id value = decimalValue token := by
    intro token inside
    obtain ⟨some, digits⟩ := version.decimal token inside
    have read := parseToken_digits unicode some digits
    rw [if_pos (convertible token inside)] at read
    exact ⟨_, read, rfl⟩
  obtain ⟨values, returned, same⟩ := mapM_returns each
  rw [List.map_id] at same
  exact returned.trans (congrArg Except.ok same)

/-- A version with a component that is too long is refused. -/
theorem parseVersion_refused {version : DottedVersion} (long : ¬ version.Convertible) :
    ∃ message, unicode.parseVersion version.text = .error (.valueError message) := by
  have read (token : List Char) (inside : token ∈ version.tokens) :=
    parseToken_digits unicode (version.decimal token inside).1
      (version.decimal token inside).2
  cases parsed : unicode.parseVersion version.text with
  | ok values =>
      refine absurd (fun token inside => ?_) long
      obtain ⟨value, returned⟩ := mapM_returned parsed token inside
      by_contra longer
      have refused := read token inside
      rw [if_neg longer, returned] at refused
      obtain ⟨message, raised⟩ := refused
      cases raised
  | error exc =>
      obtain ⟨token, inside, raised⟩ := mapM_raised parsed
      have stopped := read token inside
      rw [raised] at stopped
      split at stopped
      · cases stopped
      · obtain ⟨message, same⟩ := stopped
        cases same
        exact ⟨message, rfl⟩

theorem violated_convertible {bound : Option DottedVersion} (beyond : List Nat → Bool)
    (convertible : ∀ given ∈ bound, given.Convertible) :
    unicode.violated beyond (bound.map DottedVersion.text) =
      .ok (bound.any (fun given => beyond given.components)) := by
  cases bound with
  | none => rfl
  | some given =>
      rw [Option.map_some, violated, parseVersion_convertible unicode (convertible given rfl)]
      rfl

theorem violated_refused {bound : Option DottedVersion} (beyond : List Nat → Bool)
    (long : ¬ ∀ given ∈ bound, given.Convertible) :
    ∃ message, unicode.violated beyond (bound.map DottedVersion.text) =
      .error (.valueError message) := by
  cases bound with
  | none => exact absurd (fun given inside => by cases inside) long
  | some given =>
      have refused : ¬ given.Convertible := by simpa using long
      obtain ⟨message, raised⟩ := parseVersion_refused unicode refused
      rw [Option.map_some, violated, raised]
      exact ⟨message, rfl⟩

/-- Where all components can be read, a range says whether it holds the version. -/
theorem versionInRange_convertible {version : DottedVersion} (minimum maximum : Option DottedVersion)
    (convertible : version.Convertible) (low : ∀ lo ∈ minimum, lo.Convertible)
    (high : ∀ hi ∈ maximum, hi.Convertible) :
    ∃ answer, unicode.versionInRange version.text (minimum.map DottedVersion.text)
        (maximum.map DottedVersion.text) = .ok answer ∧
      (answer = true ↔ version ∈ DottedVersion.accepted minimum maximum) := by
  rw [versionInRange, parseVersion_convertible unicode convertible]
  simp only [violated_convertible unicode _ low, violated_convertible unicode _ high]
  refine ⟨_, rfl, ?_⟩
  simp only [DottedVersion.accepted, DottedVersion.le_def, Set.mem_ofPred_eq, Bool.not_or,
    Bool.and_eq_true, Bool.not_eq_true', Option.any_eq_false, decide_eq_false_iff_not, not_lt,
    Option.mem_def]

/-- A version or a bound that cannot be read is refused. -/
theorem versionInRange_refused {version : DottedVersion} (minimum maximum : Option DottedVersion)
    (long : ¬ (version.Convertible ∧ (∀ lo ∈ minimum, lo.Convertible) ∧
      ∀ hi ∈ maximum, hi.Convertible)) :
    ∃ message, unicode.versionInRange version.text (minimum.map DottedVersion.text)
        (maximum.map DottedVersion.text) = .error (.valueError message) := by
  rw [versionInRange]
  by_cases read : version.Convertible
  · rw [parseVersion_convertible unicode read]
    by_cases low : ∀ lo ∈ minimum, lo.Convertible
    · simp only [violated_convertible unicode _ low]
      have high : ¬ ∀ hi ∈ maximum, hi.Convertible := fun high => long ⟨read, low, high⟩
      obtain ⟨message, raised⟩ := violated_refused unicode
        (fun parsed => parsed < version.components) high
      refine ⟨message, ?_⟩
      show (unicode.violated _ (maximum.map DottedVersion.text) >>= _) = _
      rw [raised]
      rfl
    · obtain ⟨message, raised⟩ := violated_refused unicode
        (fun parsed => version.components < parsed) low
      refine ⟨message, ?_⟩
      show (unicode.violated _ (minimum.map DottedVersion.text) >>= _) = _
      rw [raised]
      rfl
  · obtain ⟨message, raised⟩ := parseVersion_refused unicode read
    rw [raised]
    exact ⟨message, rfl⟩

end UnicodeDigits

/-- The ranges of versions are the closed intervals of one total preorder, in which versions are
equivalent where their components have the same values; a version comes strictly before itself
with further zero components. Only a component too long for `int` is refused. -/
theorem version_range_interval (unicode : UnicodeDigits) :
    (∀ first second : DottedVersion, first ≤ second ∨ second ≤ first) ∧
    (∀ first second : DottedVersion,
      first ≤ second ∧ second ≤ first ↔ first.components = second.components) ∧
    (∀ (shorter longer : DottedVersion) (zeros : Nat),
      longer.components = shorter.components ++ List.replicate (zeros + 1) 0 → shorter < longer) ∧
    (∀ version lo hi : DottedVersion,
      version.Convertible ∧ lo.Convertible ∧ hi.Convertible →
      ∃ answer, unicode.versionInRange version.text (some lo.text) (some hi.text) = .ok answer ∧
        (answer = true ↔ version ∈ Set.Icc lo hi)) ∧
    (∀ version lo hi : DottedVersion,
      ¬ (version.Convertible ∧ lo.Convertible ∧ hi.Convertible) →
      ∃ message, unicode.versionInRange version.text (some lo.text) (some hi.text) =
        .error (.valueError message)) ∧
    (∀ first second lo hi : DottedVersion, first.Convertible ∧ second.Convertible →
      first.components = second.components →
      unicode.versionInRange first.text (some lo.text) (some hi.text) =
        unicode.versionInRange second.text (some lo.text) (some hi.text)) ∧
    (∀ version lo hi : DottedVersion,
      version.Convertible ∧ lo.Convertible ∧ hi.Convertible →
      lo.components = version.components → hi.components = version.components →
      unicode.versionInRange version.text (some lo.text) (some hi.text) = .ok true) ∧
    ∀ (version : DottedVersion) (minimum maximum : Option DottedVersion),
      version.Convertible ∧ (∀ lo ∈ minimum, lo.Convertible) ∧ (∀ hi ∈ maximum, hi.Convertible) →
      ∃ answer, PluginMetadata.isCompatibleKernel unicode
          ⟨minimum.map DottedVersion.text, maximum.map DottedVersion.text⟩ version.text =
            .ok answer ∧
        (answer = true ↔ version ∈ DottedVersion.accepted minimum maximum) := by
  have interval (version lo hi : DottedVersion)
      (convertible : version.Convertible ∧ lo.Convertible ∧ hi.Convertible) :
      ∃ answer, unicode.versionInRange version.text (some lo.text) (some hi.text) = .ok answer ∧
        (answer = true ↔ version ∈ Set.Icc lo hi) := by
    have answered := UnicodeDigits.versionInRange_convertible unicode (some lo) (some hi)
      convertible.1 (by simpa using convertible.2.1) (by simpa using convertible.2.2)
    rwa [DottedVersion.accepted_some] at answered
  refine ⟨fun first second => le_total first.components second.components,
    fun first second => DottedVersion.equivalent_iff, ?_, interval, ?_, ?_, ?_, ?_⟩
  · intro shorter longer zeros extended
    rw [DottedVersion.lt_def, extended]
    have further : ([] : List Nat) < List.replicate (zeros + 1) 0 := List.nil_lt_cons 0 _
    have longer : shorter.components ++ [] < shorter.components ++ List.replicate (zeros + 1) 0 :=
      List.append_left_lt further
    simpa using longer
  · intro version lo hi long
    refine UnicodeDigits.versionInRange_refused unicode (some lo) (some hi) ?_
    simpa using long
  · intro first second lo hi read same
    rw [UnicodeDigits.versionInRange, UnicodeDigits.versionInRange,
      UnicodeDigits.parseVersion_convertible unicode read.1,
      UnicodeDigits.parseVersion_convertible unicode read.2, same]
  · intro version lo hi convertible below above
    obtain ⟨answer, returned, holds⟩ := interval version lo hi convertible
    have inside : version ∈ Set.Icc lo hi :=
      ⟨DottedVersion.le_def.mpr below.le, DottedVersion.le_def.mpr above.ge⟩
    rw [returned, holds.mpr inside]
  · intro version minimum maximum convertible
    exact UnicodeDigits.versionInRange_convertible unicode minimum maximum convertible.1
      convertible.2.1 convertible.2.2

/-- Only the ten digits of ASCII. -/
def UnicodeDigits.asciiOnly : UnicodeDigits where
  isdigit := Char.isDigit
  decimal ch := if ch.isDigit then some (ch.toNat - '0'.toNat) else none
  ascii _ _ := ⟨rfl, rfl⟩

namespace DottedVersion

def one : DottedVersion where
  text := "1"
  decimal := by
    have tokens : "1".toList.splitOn '.' = [['1']] := rfl
    rw [tokens]
    exact List.forall_mem_singleton.mpr
      ⟨List.cons_ne_nil _ _, List.forall_mem_singleton.mpr rfl⟩

def oneZero : DottedVersion where
  text := "1.0"
  decimal := by
    have tokens : "1.0".toList.splitOn '.' = [['1'], ['0']] := rfl
    rw [tokens, List.forall_mem_cons]
    exact ⟨⟨List.cons_ne_nil _ _, List.forall_mem_singleton.mpr rfl⟩,
      List.forall_mem_singleton.mpr ⟨List.cons_ne_nil _ _, List.forall_mem_singleton.mpr rfl⟩⟩

theorem splitOn_ones (extra : Nat) :
    (String.ofList (List.replicate (extra + 1) '1')).toList.splitOn '.' =
      [List.replicate (extra + 1) '1'] := by
  rw [String.toList_ofList]
  refine List.splitOn_eq_singleton (fun inside => ?_)
  cases List.eq_of_mem_replicate inside

/-- One component, of so many digits and one more. -/
def ones (extra : Nat) : DottedVersion where
  text := String.ofList (List.replicate (extra + 1) '1')
  decimal := by
    intro token inside
    rw [splitOn_ones, List.mem_singleton] at inside
    subst inside
    refine ⟨List.cons_ne_nil _ _, fun ch held => ?_⟩
    rw [List.eq_of_mem_replicate held]
    rfl

theorem ones_long : ¬ (ones maxStrDigits).Convertible := by
  intro convertible
  have short := convertible (List.replicate (maxStrDigits + 1) '1')
    (by rw [tokens, ones, splitOn_ones]; exact List.mem_cons_self)
  rw [List.length_replicate] at short
  omega

end DottedVersion

/-- No total preorder has `1` and `1.0` equivalent and the ranges as its intervals, since `1` is
outside the range from `1.0` to `1.0`; and no range at all holds a component of 4301 digits. -/
theorem trailing_zero_outside :
    (¬ ∃ below : DottedVersion → DottedVersion → Prop,
      (∀ first second third, below first second → below second third → below first third) ∧
      (∀ first second, below first second ∨ below second first) ∧
      below DottedVersion.one DottedVersion.oneZero ∧
      below DottedVersion.oneZero DottedVersion.one ∧
      ∀ version lo hi : DottedVersion,
        UnicodeDigits.asciiOnly.versionInRange version.text (some lo.text) (some hi.text) =
          .ok true ↔ below lo version ∧ below version hi) ∧
    UnicodeDigits.asciiOnly.versionInRange "1" (some "1.0") (some "1.0") = .ok false ∧
    ∃ message, UnicodeDigits.asciiOnly.versionInRange (DottedVersion.ones 4300).text
      (some (DottedVersion.ones 4300).text) (some (DottedVersion.ones 4300).text) =
        .error (.valueError message) := by
  have outside :
      UnicodeDigits.asciiOnly.versionInRange "1" (some "1.0") (some "1.0") = .ok false := by
    rfl
  refine ⟨?_, outside, ?_⟩
  · rintro ⟨below, _, _, upward, downward, interval⟩
    have inside : UnicodeDigits.asciiOnly.versionInRange "1" (some "1.0") (some "1.0") = .ok true :=
      (interval .one .oneZero .oneZero).mpr ⟨downward, upward⟩
    rw [outside] at inside
    cases inside
  · exact UnicodeDigits.versionInRange_refused _ (some (.ones 4300)) (some (.ones 4300))
      (fun holds => DottedVersion.ones_long holds.1)

end LexMind.Plugins
