import LexMind.Domain.Version
import LexMind.Lib.Delimited
import LexMind.Plugins.VersionOrder

set_option autoImplicit false

namespace LexMind.Domain

open Lib Plugins

namespace DecimalDigits

variable (unicode : DecimalDigits)

theorem decimal_of_isDigit (ch : Char) (digit : ch.isDigit = true) :
    unicode.decimal ch = some (ch.toNat - '0'.toNat) :=
  (UnicodeDigits.isdigit_of_isDigit unicode.toUnicodeDigits digit).2

theorem decimal_of_ascii {ch : Char} (small : ch.toNat < 128) (other : ch.isDigit = false) :
    unicode.decimal ch = none :=
  (unicode.ascii ch small).2.trans (if_neg (Bool.eq_false_iff.mp other))

/-- The number that digits write. -/
abbrev number : List Char → Nat := Numeral.number unicode.decimal

/-- Digits only. -/
abbrev Digits : List Char → Prop := Numeral.Digits unicode.decimal

variable {unicode}

theorem not_mem_digits {num : List Char} (digits : unicode.Digits num) {ch : Char}
    (other : unicode.decimal ch = none) : ch ∉ num := by
  intro inside
  have some := digits ch inside
  rw [other] at some
  cases some

theorem not_space {ch : Char} (digit : (unicode.decimal ch).isSome = true) : isSpace ch = false := by
  obtain ⟨value, found⟩ := Option.isSome_iff_exists.mp digit
  exact unicode.decimal_not_space ch value found

end DecimalDigits

namespace Semver

open Regex

variable {unicode : DecimalDigits}

theorem matches_char_iff {ch : Char} {text : List Char} :
    Matches (char ch) text ↔ text = [ch] := by
  rw [char, matches_one_iff]
  constructor
  · rintro ⟨other, rfl, same⟩
    rw [of_decide_eq_true same]
  · rintro rfl
    exact ⟨ch, rfl, decide_eq_true rfl⟩

theorem matches_char_seq_iff {ch : Char} {inner : Regex Char} {text : List Char} :
    Matches (.seq (char ch) inner) text ↔ ∃ rest, text = ch :: rest ∧ Matches inner rest := by
  rw [matches_seq_iff]
  constructor
  · rintro ⟨front, back, rfl, first, later⟩
    rw [matches_char_iff.mp first]
    exact ⟨back, rfl, later⟩
  · rintro ⟨rest, rfl, later⟩
    exact ⟨[ch], rest, rfl, matches_char_iff.mpr rfl, later⟩

theorem matches_numeral_iff {num : List Char} :
    Matches (numeral unicode) num ↔
      num = ['0'] ∨ ∃ first rest, num = first :: rest ∧ first.isDigit = true ∧ first ≠ '0' ∧
        unicode.Digits rest := by
  rw [numeral, matches_alt_iff, matches_char_iff, matches_seq_iff]
  refine or_congr_right ⟨?_, ?_⟩
  · rintro ⟨front, back, rfl, first, later⟩
    obtain ⟨ch, rfl, leading⟩ := matches_one_iff.mp first
    rw [Bool.and_eq_true, decide_eq_true_iff] at leading
    exact ⟨ch, back, rfl, leading.1, leading.2, matches_many_iff.mp later⟩
  · rintro ⟨first, rest, rfl, digit, nonzero, digits⟩
    refine ⟨[first], rest, rfl, .one ?_, matches_many_iff.mpr digits⟩
    rw [Bool.and_eq_true, decide_eq_true_iff]
    exact ⟨digit, nonzero⟩

/-- Something that a version may have after its core. -/
theorem matches_suffix {rest : List Char}
    (matched : Matches (.seq (.opt (preRelease unicode)) (.opt build)) rest) :
    rest = [] ∨ ∃ sign tail, rest = sign :: tail ∧ (sign = '-' ∨ sign = '+') := by
  obtain ⟨front, back, rfl, pre, post⟩ := matches_seq_iff.mp matched
  rcases matches_opt_iff.mp pre with rfl | pre
  · rcases matches_opt_iff.mp post with rfl | post
    · exact .inl rfl
    · obtain ⟨tail, rfl, _⟩ := matches_char_seq_iff.mp post
      exact .inr ⟨'+', tail, rfl, .inr rfl⟩
  · obtain ⟨tail, rfl, _⟩ := matches_char_seq_iff.mp pre
    exact .inr ⟨'-', tail ++ back, rfl, .inl rfl⟩

section Numerals

variable {num : List Char} (numeral : Matches (numeral unicode) num)

include numeral

theorem numeral_digits : unicode.Digits num := by
  rcases matches_numeral_iff.mp numeral with rfl | ⟨first, rest, rfl, digit, _, digits⟩
  · intro ch inside
    rw [List.mem_singleton.mp inside, unicode.decimal_of_isDigit '0' rfl]
    rfl
  · intro ch inside
    rcases List.mem_cons.mp inside with rfl | later
    · rw [unicode.decimal_of_isDigit ch digit]
      rfl
    · exact digits ch later

theorem numeral_nonempty : num ≠ [] := by
  rcases matches_numeral_iff.mp numeral with rfl | ⟨first, rest, rfl, _⟩
  · exact List.cons_ne_nil _ _
  · exact List.cons_ne_nil _ _

theorem numeral_number_lt_iff {limit : Nat} (positive : 0 < limit) :
    unicode.number num < 10 ^ limit ↔ num.length ≤ limit := by
  rcases matches_numeral_iff.mp numeral with rfl | ⟨first, rest, rfl, digit, nonzero, _⟩
  · have zero : unicode.number ['0'] = 0 := by
      rw [DecimalDigits.number, Numeral.number, List.foldl_cons, List.foldl_nil,
        unicode.decimal_of_isDigit '0' rfl]
      rfl
    rw [zero]
    exact iff_of_true (Nat.pow_pos (by decide)) positive
  · refine Numeral.number_lt_iff unicode.decimal_lt (unicode.decimal_of_isDigit first digit) ?_
      rest limit
    have least : 48 ≤ first.toNat := by
      simp only [Char.isDigit, Bool.and_eq_true, decide_eq_true_eq, ge_iff_le] at digit
      exact UInt32.le_iff_toNat_le.mp digit.1
    have differs : first.toNat ≠ 48 := fun same => nonzero (Char.toNat_inj.mp same)
    show 0 < first.toNat - 48
    omega

end Numerals

theorem numeral_zero : Matches (numeral unicode) ['0'] := matches_numeral_iff.mpr (.inl rfl)

theorem numeral_toDigits (value : Nat) : Matches (numeral unicode) (Nat.toDigits 10 value) := by
  apply matches_numeral_iff.mpr
  rcases Nat.eq_zero_or_pos value with rfl | positive
  · exact .inl rfl
  · right
    obtain ⟨first, rest, written, digit, nonzero⟩ := Numeral.head_toDigits positive
    have digits := Numeral.digits_toDigits unicode.decimal_of_isDigit value
    rw [written] at digits
    exact ⟨first, rest, written, digit, nonzero, fun ch inside =>
      digits ch (List.mem_cons_of_mem first inside)⟩

/-- Three numerals between dots are matched. -/
theorem matches_core {major minor patch : List Char} (first : Matches (numeral unicode) major)
    (second : Matches (numeral unicode) minor) (third : Matches (numeral unicode) patch) :
    Matches (semver unicode) (major ++ '.' :: (minor ++ '.' :: patch)) := by
  have suffix : Matches (.seq (.opt (preRelease unicode)) (.opt build)) [] :=
    matches_seq_iff.mpr ⟨[], [], rfl, matches_opt_iff.mpr (.inl rfl), matches_opt_iff.mpr (.inl rfl)⟩
  have last : Matches (.seq (numeral unicode) (.seq (.opt (preRelease unicode)) (.opt build))) patch :=
    matches_seq_iff.mpr ⟨patch, [], (List.append_nil patch).symm, third, suffix⟩
  apply matches_seq_iff.mpr
  refine ⟨major, _, rfl, first, matches_char_seq_iff.mpr ⟨_, rfl, matches_seq_iff.mpr ?_⟩⟩
  exact ⟨minor, _, rfl, second, matches_char_seq_iff.mpr ⟨patch, rfl, last⟩⟩

end Semver

open Semver

/-- The text starts with MAJOR.MINOR.PATCH, where the third numeral has all the digits there
are. -/
structure Core (unicode : DecimalDigits) (text major minor patch rest : List Char) : Prop where
  whole : text = major ++ '.' :: (minor ++ '.' :: (patch ++ rest))
  first : Regex.Matches (numeral unicode) major
  second : Regex.Matches (numeral unicode) minor
  third : Regex.Matches (numeral unicode) patch
  ends : ∀ ch ∈ rest.head?, unicode.decimal ch = none

namespace Core

variable {unicode : DecimalDigits} {text major minor patch rest : List Char}

theorem decimal_dot : unicode.decimal '.' = none := unicode.decimal_of_ascii (by decide) rfl

theorem digits_then {digits others front back : List Char} (same : digits ++ front = others ++ back)
    (first : unicode.Digits digits) (second : unicode.Digits others)
    (ends : ∀ ch ∈ front.head?, unicode.decimal ch = none)
    (stops : ∀ ch ∈ back.head?, unicode.decimal ch = none) : digits = others ∧ front = back := by
  have run {digits rest : List Char} (all : unicode.Digits digits)
      (ends : ∀ ch ∈ rest.head?, unicode.decimal ch = none) :
      (digits ++ rest).takeWhile (fun ch => (unicode.decimal ch).isSome) = digits := by
    have stop : rest.takeWhile (fun ch => (unicode.decimal ch).isSome) = [] := by
      cases rest with
      | nil => rfl
      | cons ch rest =>
          apply List.takeWhile_cons_of_neg
          rw [ends ch rfl]
          exact Bool.false_ne_true
    rw [List.takeWhile_append_of_pos all, stop, List.append_nil]
  have prefixes : digits = others := by
    rw [← run first ends, same, run second stops]
  subst prefixes
  exact ⟨rfl, List.append_cancel_left same⟩

/-- A text has one core at most. -/
theorem unique {major' minor' patch' rest' : List Char}
    (core : Core unicode text major minor patch rest)
    (other : Core unicode text major' minor' patch' rest') :
    major = major' ∧ minor = minor' ∧ patch = patch' ∧ rest = rest' := by
  have dot : ∀ (back : List Char), ∀ ch ∈ ('.' :: back).head?, unicode.decimal ch = none := by
    intro back ch found
    cases found
    exact decimal_dot
  obtain ⟨sameMajor, dotted⟩ := digits_then (core.whole.symm.trans other.whole)
    (numeral_digits core.first) (numeral_digits other.first) (dot _) (dot _)
  obtain ⟨sameMinor, tail⟩ := digits_then (List.cons.inj dotted).2
    (numeral_digits core.second) (numeral_digits other.second) (dot _) (dot _)
  obtain ⟨samePatch, sameRest⟩ := digits_then (List.cons.inj tail).2
    (numeral_digits core.third) (numeral_digits other.third) core.ends other.ends
  exact ⟨sameMajor, sameMinor, samePatch, sameRest⟩

/-- What is matched has a core, and a sign stands behind it or nothing. -/
theorem of_matches (matched : Regex.Matches (semver unicode) text) :
    ∃ major minor patch rest, Core unicode text major minor patch rest ∧
      (rest = [] ∨ ∃ sign tail, rest = sign :: tail ∧ (sign = '-' ∨ sign = '+')) := by
  obtain ⟨major, _, rfl, first, afterMajor⟩ := Regex.matches_seq_iff.mp matched
  obtain ⟨_, rfl, dotted⟩ := matches_char_seq_iff.mp afterMajor
  obtain ⟨minor, _, rfl, second, afterMinor⟩ := Regex.matches_seq_iff.mp dotted
  obtain ⟨_, rfl, tail⟩ := matches_char_seq_iff.mp afterMinor
  obtain ⟨patch, rest, rfl, third, afterPatch⟩ := Regex.matches_seq_iff.mp tail
  have suffix := matches_suffix afterPatch
  refine ⟨major, minor, patch, rest, ⟨rfl, first, second, third, ?_⟩, suffix⟩
  intro ch found
  rcases suffix with rfl | ⟨sign, tail, rfl, rfl | rfl⟩
  · cases found
  · cases found
    exact unicode.decimal_of_ascii (by decide) rfl
  · cases found
    exact unicode.decimal_of_ascii (by decide) rfl

theorem matches_of_nil (core : Core unicode text major minor patch []) :
    Regex.Matches (semver unicode) text := by
  rw [core.whole, List.append_nil]
  exact matches_core core.first core.second core.third

theorem append_newline (core : Core unicode text major minor patch rest) :
    Core unicode (text ++ ['\n']) major minor patch (rest ++ ['\n']) where
  whole := by simp [core.whole]
  first := core.first
  second := core.second
  third := core.third
  ends := by
    cases rest with
    | nil =>
        intro ch found
        cases found
        exact unicode.decimal_of_ascii (by decide) rfl
    | cons ch rest => exact core.ends

theorem splitOn_dot (core : Core unicode text major minor patch rest) :
    text.splitOn '.' = major :: minor :: (rest.splitOn '.').modifyHead (patch ++ ·) := by
  have free {num : List Char} (numeral : Regex.Matches (numeral unicode) num) : '.' ∉ num :=
    DecimalDigits.not_mem_digits (numeral_digits numeral) decimal_dot
  rw [core.whole, List.splitOn_append_cons_self_of_not_mem (free core.first),
    List.splitOn_append_cons_self_of_not_mem (free core.second),
    Delimited.splitOn_append_of_not_mem (free core.third)]

end Core

section Strip

variable {text : List Char}

theorem strip_solid (solid : ∀ ch ∈ text, isSpace ch = false) : strip text = text := by
  have kept {chars : List Char} (solid : ∀ ch ∈ chars, isSpace ch = false) :
      chars.dropWhile isSpace = chars := by
    cases chars with
    | nil => rfl
    | cons ch chars =>
        apply List.dropWhile_cons_of_neg
        rw [solid ch List.mem_cons_self]
        exact Bool.false_ne_true
  rw [strip, kept solid, kept (fun ch inside => solid ch (List.mem_reverse.mp inside)),
    List.reverse_reverse]

theorem mem_strip {ch : Char} (inside : ch ∈ text) (solid : isSpace ch = false) :
    ch ∈ strip text := by
  have kept {chars : List Char} (inside : ch ∈ chars) : ch ∈ chars.dropWhile isSpace := by
    rw [← List.takeWhile_append_dropWhile (p := isSpace) (l := chars), List.mem_append] at inside
    refine inside.resolve_left fun front => ?_
    rw [List.mem_takeWhile_imp front] at solid
    cases solid
  exact List.mem_reverse.mpr (kept (List.mem_reverse.mpr (kept inside)))

end Strip

section Numbers

variable {unicode : DecimalDigits}

/-- `int` returns where digits alone are left, not too many of them. -/
theorem readInt_eq_ok_iff {text : List Char} {value : Nat} :
    readInt unicode text = .ok value ↔
      unicode.Digits (strip text) ∧ strip text ≠ [] ∧ (strip text).length ≤ maxStrDigits ∧
        unicode.number (strip text) = value := by
  have all := List.takeWhile_eq_self_iff (p := fun ch => (unicode.decimal ch).isSome) (l := strip text)
  unfold readInt
  simp only []
  split
  · rename_i long
    refine iff_of_false (fun same => by cases same) fun holds => ?_
    rw [all.mpr holds.1] at long
    omega
  · rename_i short
    split
    · rename_i whole
      rw [whole.1] at short
      rw [Except.ok.injEq]
      exact ⟨fun same => ⟨all.mp whole.1, whole.2, by omega, same⟩, fun holds => holds.2.2.2⟩
    · rename_i other
      exact iff_of_false (fun same => by cases same) fun holds => other ⟨all.mpr holds.1, holds.2.1⟩

theorem readInt_numeral {num : List Char} (numeral : Regex.Matches (numeral unicode) num)
    (short : num.length ≤ maxStrDigits) : readInt unicode num = .ok (unicode.number num) := by
  have digits := numeral_digits numeral
  rw [readInt_eq_ok_iff, strip_solid fun ch inside => DecimalDigits.not_space (digits ch inside)]
  exact ⟨digits, numeral_nonempty numeral, short, rfl⟩

/-- A text with something else than blanks and digits is no number. -/
theorem readInt_stopped {text : List Char} {ch : Char} (inside : ch ∈ text)
    (solid : isSpace ch = false) (other : unicode.decimal ch = none) (value : Nat) :
    readInt unicode text ≠ .ok value := by
  intro read
  have digits := (readInt_eq_ok_iff.mp read).1
  exact DecimalDigits.not_mem_digits digits other (mem_strip inside solid)

theorem writeInt_eq_ok_iff {number : Nat} {text : List Char} :
    writeInt number = .ok text ↔ text = Nat.toDigits 10 number ∧ number < 10 ^ maxStrDigits := by
  have bound := Nat.length_toDigits_le_iff (b := 10) (n := number) (k := maxStrDigits) (by decide)
    (by decide)
  unfold writeInt
  simp only
  split
  · rename_i long
    exact iff_of_false (fun same => by cases same) fun holds => absurd (bound.mpr holds.2) (by omega)
  · rename_i short
    rw [Except.ok.injEq]
    exact ⟨fun same => ⟨same.symm, bound.mp (by omega)⟩, fun holds => holds.1.symm⟩

theorem written {β : Type} {number : Nat} {next : List Char → Except PyExc β} {value : β}
    (returned : (writeInt number >>= next) = .ok value) :
    number < 10 ^ maxStrDigits ∧ next (Nat.toDigits 10 number) = .ok value := by
  cases wrote : writeInt number with
  | error exc =>
      rw [wrote] at returned
      cases returned
  | ok text =>
      obtain ⟨rfl, small⟩ := writeInt_eq_ok_iff.mp wrote
      rw [wrote] at returned
      exact ⟨small, returned⟩

theorem writeInt_bind {β : Type} {number : Nat} (small : number < 10 ^ maxStrDigits)
    (next : List Char → Except PyExc β) :
    (writeInt number >>= next) = next (Nat.toDigits 10 number) := by
  rw [writeInt_eq_ok_iff.mpr ⟨rfl, small⟩]
  rfl

end Numbers

namespace Version

variable {unicode : DecimalDigits}

/-- Every accepted version has a core; behind it stand nothing, a line break or a sign. -/
theorem core_exists (version : Version unicode) :
    ∃ major minor patch rest, Core unicode version.value.toList major minor patch rest ∧
      (rest = [] ∨ rest = ['\n'] ∨ ∃ sign tail, rest = sign :: tail ∧ (sign = '-' ∨ sign = '+')) := by
  rcases (Regex.acceptsLine_iff _ _ _).mp version.accepted with matched | ⟨line, whole, matched⟩
  · obtain ⟨major, minor, patch, rest, core, suffix⟩ := Core.of_matches matched
    exact ⟨major, minor, patch, rest, core, suffix.imp_right .inr⟩
  · obtain ⟨major, minor, patch, rest, core, suffix⟩ := Core.of_matches matched
    rw [whole]
    refine ⟨major, minor, patch, rest ++ ['\n'], core.append_newline, .inr ?_⟩
    rcases suffix with rfl | ⟨sign, tail, rfl, either⟩
    · exact .inl rfl
    · exact .inr ⟨sign, tail ++ ['\n'], rfl, either⟩

section Read

variable {version : Version unicode} {major minor patch rest : List Char}
  (core : Core unicode version.value.toList major minor patch rest)

include core

theorem major_eq : version.major = readInt unicode major := by
  rw [Version.major, component, core.splitOn_dot]
  rfl

theorem minor_eq : version.minor = readInt unicode minor := by
  rw [Version.minor, component, core.splitOn_dot]
  rfl

/-- With nothing behind the core, its third numeral is the third piece. -/
theorem patch_eq (nothing : rest = []) : version.patch = readInt unicode patch := by
  rw [Version.patch, component, core.splitOn_dot, nothing, List.splitOn_nil]
  show readInt unicode (patch ++ []) = _
  rw [List.append_nil]

/-- A sign stays in the third piece, which is then no number. -/
theorem patch_stopped {sign : Char} {tail : List Char} (signed : rest = sign :: tail)
    (either : sign = '-' ∨ sign = '+') (value : Nat) : version.patch ≠ .ok value := by
  have small : sign.toNat < 128 ∧ sign.isDigit = false ∧ isSpace sign = false ∧
      ¬ (sign == '.') = true := by
    rcases either with rfl | rfl <;> decide
  obtain ⟨piece, others, pieces⟩ := List.exists_cons_of_ne_nil (List.splitOn_ne_nil '.' tail)
  rw [Version.patch, component, core.splitOn_dot, signed, List.splitOn_cons_eq_if_modifyHead,
    if_neg small.2.2.2, pieces]
  exact readInt_stopped (List.mem_append_right _ List.mem_cons_self) small.2.2.1
    (unicode.decimal_of_ascii small.1 small.2.1) value

end Read

theorem construct_core {major minor patch : List Char}
    (first : Regex.Matches (numeral unicode) major) (second : Regex.Matches (numeral unicode) minor)
    (third : Regex.Matches (numeral unicode) patch) :
    ∃ next, construct unicode (String.ofList (major ++ '.' :: (minor ++ '.' :: patch))) = .ok next ∧
      Core unicode next.value.toList major minor patch [] := by
  have text := String.toList_ofList (l := major ++ '.' :: (minor ++ '.' :: patch))
  have accepted : (semver unicode).acceptsLine '\n'
      (String.ofList (major ++ '.' :: (minor ++ '.' :: patch))).toList = true := by
    rw [text]
    exact (Regex.acceptsLine_iff _ _ _).mpr (.inl (matches_core first second third))
  refine ⟨⟨_, accepted⟩, dif_pos accepted, ?_⟩
  exact ⟨text.trans (by rw [List.append_nil]), first, second, third, fun ch found => by cases found⟩

section Next

variable {version : Version unicode} {major minor patch : Nat}
  (readMajor : version.major = .ok major) (readMinor : version.minor = .ok minor)
  (readPatch : version.patch = .ok patch)

include readMajor

theorem nextMajor_eq : version.nextMajor = (do
    construct unicode (String.ofList ((← writeInt (major + 1)) ++ '.' :: (['0'] ++ '.' :: ['0'])))) := by
  rw [nextMajor, readMajor]
  rfl

theorem nextMajor_spec (small : major + 1 < 10 ^ maxStrDigits) :
    ∃ next, version.nextMajor = .ok next ∧
      Core unicode next.value.toList (Nat.toDigits 10 (major + 1)) ['0'] ['0'] [] := by
  rw [nextMajor_eq readMajor, writeInt_bind small]
  exact construct_core (numeral_toDigits _) numeral_zero numeral_zero

theorem lt_of_nextMajor {next : Version unicode} (returned : version.nextMajor = .ok next) :
    major + 1 < 10 ^ maxStrDigits := by
  rw [nextMajor_eq readMajor] at returned
  exact (written returned).1

include readMinor

theorem nextMinor_eq : version.nextMinor = (do
    let major ← writeInt major
    let minor ← writeInt (minor + 1)
    construct unicode (String.ofList (major ++ '.' :: (minor ++ '.' :: ['0'])))) := by
  have dotted (major minor : List Char) :
      major ++ '.' :: minor ++ ".0".toList = major ++ '.' :: (minor ++ '.' :: ['0']) :=
    List.append_assoc _ _ _
  rw [nextMinor, readMajor, readMinor]
  simp only [dotted]
  rfl

theorem nextMinor_spec (fits : major < 10 ^ maxStrDigits) (small : minor + 1 < 10 ^ maxStrDigits) :
    ∃ next, version.nextMinor = .ok next ∧
      Core unicode next.value.toList (Nat.toDigits 10 major) (Nat.toDigits 10 (minor + 1)) ['0'] [] := by
  rw [nextMinor_eq readMajor readMinor, writeInt_bind fits, writeInt_bind small]
  exact construct_core (numeral_toDigits _) (numeral_toDigits _) numeral_zero

theorem lt_of_nextMinor {next : Version unicode} (returned : version.nextMinor = .ok next) :
    minor + 1 < 10 ^ maxStrDigits := by
  rw [nextMinor_eq readMajor readMinor] at returned
  exact (written (written returned).2).1

include readPatch

theorem nextPatch_eq : version.nextPatch = (do
    let major ← writeInt major
    let minor ← writeInt minor
    let patch ← writeInt (patch + 1)
    construct unicode (String.ofList (major ++ '.' :: (minor ++ '.' :: patch)))) := by
  have dotted (major minor patch : List Char) :
      major ++ '.' :: minor ++ '.' :: patch = major ++ '.' :: (minor ++ '.' :: patch) :=
    List.append_assoc _ _ _
  rw [nextPatch, readMajor, readMinor, readPatch]
  simp only [dotted]
  rfl

theorem nextPatch_spec (fits : major < 10 ^ maxStrDigits) (fitting : minor < 10 ^ maxStrDigits)
    (small : patch + 1 < 10 ^ maxStrDigits) :
    ∃ next, version.nextPatch = .ok next ∧
      Core unicode next.value.toList (Nat.toDigits 10 major) (Nat.toDigits 10 minor)
        (Nat.toDigits 10 (patch + 1)) [] := by
  rw [nextPatch_eq readMajor readMinor readPatch, writeInt_bind fits, writeInt_bind fitting,
    writeInt_bind small]
  exact construct_core (numeral_toDigits _) (numeral_toDigits _) (numeral_toDigits _)

theorem lt_of_nextPatch {next : Version unicode} (returned : version.nextPatch = .ok next) :
    patch + 1 < 10 ^ maxStrDigits := by
  rw [nextPatch_eq readMajor readMinor readPatch] at returned
  exact (written (written (written returned).2).2).1

end Next

/-- The version is MAJOR.MINOR.PATCH with its optional parts and nothing behind them; its numbers
can be read, and each successor is a version with a greater core. -/
def Lawful (version : Version unicode) : Prop :=
  Regex.Matches (semver unicode) version.value.toList ∧
  ∃ major minor patch rest, Core unicode version.value.toList major minor patch rest ∧
    version.major = .ok (unicode.number major) ∧ version.minor = .ok (unicode.number minor) ∧
    version.patch = .ok (unicode.number patch) ∧
    ∀ step ∈ [nextMajor, nextMinor, nextPatch], ∃ next, step version = .ok next ∧
      ∃ major' minor' patch' rest', Core unicode next.value.toList major' minor' patch' rest' ∧
        [unicode.number major, unicode.number minor, unicode.number patch] <
          [unicode.number major', unicode.number minor', unicode.number patch']

/-- No number of the core, and none that follows it, is too long for a conversion. -/
def Convertible (version : Version unicode) : Prop :=
  ∀ major minor patch rest, Core unicode version.value.toList major minor patch rest →
    ∀ num ∈ [major, minor, patch], unicode.number num + 1 < 10 ^ maxStrDigits

theorem not_mem_numeral {num : List Char} (numeral : Regex.Matches (numeral unicode) num) {ch : Char}
    (small : ch.toNat < 128) (other : ch.isDigit = false) : ch ∉ num :=
  DecimalDigits.not_mem_digits (numeral_digits numeral) (unicode.decimal_of_ascii small other)

/-- A core with nothing behind it has digits and dots only. -/
theorem not_mem_core {text major minor patch : List Char}
    (core : Core unicode text major minor patch []) {ch : Char} (small : ch.toNat < 128)
    (other : ch.isDigit = false) (dotless : ch ≠ '.') : ch ∉ text := by
  rw [core.whole]
  simp only [List.mem_append, List.mem_cons, List.not_mem_nil, or_false, not_or]
  exact ⟨not_mem_numeral core.first small other, dotless, not_mem_numeral core.second small other,
    dotless, not_mem_numeral core.third small other⟩

/-- Nothing stands behind the core of a version that keeps its promises. -/
theorem rest_of_lawful {version : Version unicode} (lawful : version.Lawful)
    {major minor patch rest : List Char}
    (core : Core unicode version.value.toList major minor patch rest) : rest = [] := by
  obtain ⟨matched, _, _, _, _, _, _, _, read, _⟩ := lawful
  obtain ⟨_, _, _, _, other, suffix⟩ := Core.of_matches matched
  obtain ⟨_, _, _, rfl⟩ := core.unique other
  rcases suffix with nothing | ⟨sign, tail, signed, either⟩
  · exact nothing
  · exact absurd read (patch_stopped core signed either _)

theorem convertible_of_lawful {version : Version unicode} (lawful : version.Lawful) :
    version.Convertible := by
  obtain ⟨_, major, minor, patch, rest, core, readMajor, readMinor, readPatch, next⟩ := lawful
  intro major' minor' patch' rest' other
  obtain ⟨rfl, rfl, rfl, rfl⟩ := core.unique other
  simp only [List.forall_mem_cons] at next ⊢
  obtain ⟨⟨_, first, _⟩, ⟨_, second, _⟩, ⟨_, third, _⟩, _⟩ := next
  exact ⟨lt_of_nextMajor readMajor first, lt_of_nextMinor readMajor readMinor second,
    lt_of_nextPatch readMajor readMinor readPatch third, List.forall_mem_nil _⟩

/-- A convertible version that is its core keeps its promises. -/
theorem lawful_of_core {version : Version unicode} {major minor patch : List Char}
    (core : Core unicode version.value.toList major minor patch [])
    (convertible : version.Convertible) : version.Lawful := by
  have bounds := convertible _ _ _ _ core
  simp only [List.forall_mem_cons] at bounds
  obtain ⟨first, second, third, _⟩ := bounds
  have fits {num : List Char} (numeral : Regex.Matches (numeral unicode) num)
      (bound : unicode.number num + 1 < 10 ^ maxStrDigits) : num.length ≤ maxStrDigits :=
    (numeral_number_lt_iff numeral (by decide)).mp (Nat.lt_of_succ_lt bound)
  have readMajor : version.major = .ok (unicode.number major) :=
    (major_eq core).trans (readInt_numeral core.first (fits core.first first))
  have readMinor : version.minor = .ok (unicode.number minor) :=
    (minor_eq core).trans (readInt_numeral core.second (fits core.second second))
  have readPatch : version.patch = .ok (unicode.number patch) :=
    (patch_eq core rfl).trans (readInt_numeral core.third (fits core.third third))
  have written (value : Nat) : unicode.number (Nat.toDigits 10 value) = value :=
    Numeral.number_toDigits unicode.decimal_of_isDigit value
  refine ⟨core.matches_of_nil, major, minor, patch, [], core, readMajor, readMinor, readPatch, ?_⟩
  simp only [List.forall_mem_cons]
  refine ⟨?_, ?_, ?_, List.forall_mem_nil _⟩
  · obtain ⟨next, returned, later⟩ := nextMajor_spec readMajor first
    refine ⟨next, returned, _, _, _, _, later, ?_⟩
    rw [written]
    exact List.cons_lt_cons_iff.mpr (.inl (Nat.lt_succ_self _))
  · obtain ⟨next, returned, later⟩ := nextMinor_spec readMajor readMinor (Nat.lt_of_succ_lt first) second
    refine ⟨next, returned, _, _, _, _, later, ?_⟩
    rw [written, written]
    exact List.cons_lt_cons_iff.mpr (.inr ⟨rfl, List.cons_lt_cons_iff.mpr
      (.inl (Nat.lt_succ_self _))⟩)
  · obtain ⟨next, returned, later⟩ := nextPatch_spec readMajor readMinor readPatch
      (Nat.lt_of_succ_lt first) (Nat.lt_of_succ_lt second) third
    refine ⟨next, returned, _, _, _, _, later, ?_⟩
    rw [written, written, written]
    exact List.cons_lt_cons_iff.mpr (.inr ⟨rfl, List.cons_lt_cons_iff.mpr
      (.inr ⟨rfl, List.cons_lt_cons_iff.mpr (.inl (Nat.lt_succ_self _))⟩)⟩)

/-- A version keeps its promises where it is a core and no more, with numbers that can be read
and written: a pre-release or a build part ends up in the third piece. -/
theorem version_lawful_iff (version : Version unicode) :
    version.Lawful ↔
      '-' ∉ version.value.toList ∧ '+' ∉ version.value.toList ∧
        version.value.toList.getLast? ≠ some '\n' ∧ version.Convertible := by
  obtain ⟨major, minor, patch, rest, core, suffix⟩ := version.core_exists
  constructor
  · intro lawful
    have nothing := rest_of_lawful lawful core
    subst nothing
    refine ⟨not_mem_core core (by decide) rfl (by decide),
      not_mem_core core (by decide) rfl (by decide), fun last => ?_, convertible_of_lawful lawful⟩
    exact not_mem_core core (by decide) rfl (by decide) (List.mem_of_getLast? last)
  · rintro ⟨noMinus, noPlus, noBreak, convertible⟩
    have held {ch : Char} (inside : ch ∈ rest) : ch ∈ version.value.toList := by
      rw [core.whole]
      simp [inside]
    rcases suffix with rfl | rfl | ⟨sign, tail, rfl, rfl | rfl⟩
    · exact lawful_of_core core convertible
    · have ended : version.value.toList = (major ++ '.' :: (minor ++ '.' :: patch)) ++ ['\n'] := by
        rw [core.whole]
        simp
      rw [ended] at noBreak
      exact absurd List.getLast?_concat noBreak
    · exact absurd (held List.mem_cons_self) noMinus
    · exact absurd (held List.mem_cons_self) noPlus

end Version

/-- The ten digits of ASCII. -/
def asciiDigits : DecimalDigits where
  toUnicodeDigits := UnicodeDigits.asciiOnly
  decimal_lt ch value found := by
    have digit : ch.isDigit = true ∧ ch.toNat - '0'.toNat = value := by
      simpa [UnicodeDigits.asciiOnly, Option.ite_none_right_eq_some] using found
    simp only [Char.isDigit, Bool.and_eq_true, decide_eq_true_eq, ge_iff_le] at digit
    have high : ch.toNat ≤ 57 := UInt32.le_iff_toNat_le.mp digit.1.2
    have zero : '0'.toNat = 48 := rfl
    omega
  decimal_not_space ch value found := by
    have digit : ch.isDigit = true ∧ ch.toNat - '0'.toNat = value := by
      simpa [UnicodeDigits.asciiOnly, Option.ite_none_right_eq_some] using found
    simp only [Char.isDigit, Bool.and_eq_true, decide_eq_true_eq, ge_iff_le] at digit
    have low : 48 ≤ ch.toNat := UInt32.le_iff_toNat_le.mp digit.1.1
    have high : ch.toNat ≤ 57 := UInt32.le_iff_toNat_le.mp digit.1.2
    unfold isSpace
    rw [decide_eq_false_iff_not]
    omega

/-- A pre-release stops the third accessor, and a line break at the end is accepted. -/
theorem prerelease_unread :
    (∃ version : Version asciiDigits, Version.construct asciiDigits "1.2.3-alpha" = .ok version ∧
      version.patch =
        .error (.valueError "invalid literal for int() with base 10: '3-alpha'")) ∧
    ∃ version : Version asciiDigits, Version.construct asciiDigits "1.2.3\n" = .ok version := by
  refine ⟨⟨⟨"1.2.3-alpha", by decide⟩, dif_pos _, ?_⟩, ⟨"1.2.3\n", by decide⟩, dif_pos _⟩
  rfl

end LexMind.Domain
