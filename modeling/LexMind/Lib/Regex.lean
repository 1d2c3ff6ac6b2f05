import Mathlib.Data.List.Basic

set_option autoImplicit false

/- Regular expressions over classes of characters, with the texts they match and a
matcher by derivatives. -/
namespace Lib

/-- An expression; `one` matches one character of a class. -/
inductive Regex (α : Type) where
  | none
  | blank
  | one (test : α → Bool)
  | seq (first second : Regex α)
  | alt (first second : Regex α)
  | star (inner : Regex α)

namespace Regex

variable {α : Type}

def opt (inner : Regex α) : Regex α := .alt inner .blank

def plus (inner : Regex α) : Regex α := .seq inner (.star inner)

/-- The whole text matches the expression. -/
inductive Matches : Regex α → List α → Prop
  | blank : Matches .blank []
  | one {test : α → Bool} {char : α} (passes : test char = true) : Matches (.one test) [char]
  | seq {first second : Regex α} {front back : List α} (left : Matches first front)
      (right : Matches second back) : Matches (.seq first second) (front ++ back)
  | left {first second : Regex α} {text : List α} (left : Matches first text) :
      Matches (.alt first second) text
  | right {first second : Regex α} {text : List α} (right : Matches second text) :
      Matches (.alt first second) text
  | done {inner : Regex α} : Matches (.star inner) []
  | again {inner : Regex α} {front back : List α} (first : Matches inner front)
      (rest : Matches (.star inner) back) : Matches (.star inner) (front ++ back)

def nullable : Regex α → Bool
  | none => false
  | blank => true
  | one _ => false
  | seq first second => first.nullable && second.nullable
  | alt first second => first.nullable || second.nullable
  | star _ => true

/-- What is left to match after a character. -/
def derivative (char : α) : Regex α → Regex α
  | none => none
  | blank => none
  | one test => if test char then blank else none
  | seq first second =>
      if first.nullable then alt (seq (first.derivative char) second) (second.derivative char)
      else seq (first.derivative char) second
  | alt first second => alt (first.derivative char) (second.derivative char)
  | star inner => seq (inner.derivative char) (star inner)

def accepts (regex : Regex α) : List α → Bool
  | [] => regex.nullable
  | char :: rest => (regex.derivative char).accepts rest

/-- The text matches, or all of it but a line break at its end. -/
def acceptsLine [DecidableEq α] (newline : α) (regex : Regex α) (text : List α) : Bool :=
  regex.accepts text || (text.getLast? = some newline && regex.accepts text.dropLast)

section Inversion

variable {first second inner : Regex α} {text : List α}

theorem not_matches_none : ¬ Matches none text := by
  intro matched
  cases matched

theorem matches_blank_iff : Matches blank text ↔ text = [] := by
  constructor
  · intro matched
    cases matched
    rfl
  · rintro rfl
    exact .blank

theorem matches_one_iff {test : α → Bool} :
    Matches (one test) text ↔ ∃ char, text = [char] ∧ test char = true := by
  constructor
  · intro matched
    cases matched with
    | one passes => exact ⟨_, rfl, passes⟩
  · rintro ⟨char, rfl, passes⟩
    exact .one passes

theorem matches_seq_iff : Matches (seq first second) text ↔
    ∃ front back, text = front ++ back ∧ Matches first front ∧ Matches second back := by
  constructor
  · intro matched
    cases matched with
    | seq left right => exact ⟨_, _, rfl, left, right⟩
  · rintro ⟨front, back, rfl, left, right⟩
    exact .seq left right

theorem matches_alt_iff :
    Matches (alt first second) text ↔ Matches first text ∨ Matches second text := by
  constructor
  · intro matched
    cases matched with
    | left left => exact .inl left
    | right right => exact .inr right
  · rintro (left | right)
    · exact .left left
    · exact .right right

theorem matches_opt_iff : Matches (opt inner) text ↔ text = [] ∨ Matches inner text := by
  rw [opt, matches_alt_iff, matches_blank_iff, or_comm]

/-- Whatever a repetition matches, it matches by parts that are not empty. -/
theorem matches_star_cons_iff {char : α} : Matches (star inner) (char :: text) ↔
    ∃ front back, text = front ++ back ∧ Matches inner (char :: front) ∧
      Matches (star inner) back := by
  constructor
  · intro matched
    generalize whole : char :: text = word at matched
    generalize repeated : star inner = regex at matched
    induction matched with
    | blank => cases repeated
    | one => cases repeated
    | seq => cases repeated
    | left => cases repeated
    | right => cases repeated
    | done => cases whole
    | @again other front back first rest _ ih =>
        cases repeated
        cases front with
        | nil => exact ih whole rfl
        | cons head tail =>
            cases whole
            exact ⟨tail, back, rfl, first, rest⟩
  · rintro ⟨front, back, rfl, first, rest⟩
    exact .again first rest

/-- A repeated class matches the texts of its characters. -/
theorem matches_many_iff {test : α → Bool} :
    Matches (star (one test)) text ↔ ∀ char ∈ text, test char = true := by
  induction text with
  | nil => exact iff_of_true .done (fun char inside => absurd inside List.not_mem_nil)
  | cons char rest ih =>
      rw [matches_star_cons_iff, List.forall_mem_cons, ← ih]
      constructor
      · rintro ⟨front, back, rfl, first, later⟩
        obtain ⟨same, single, passes⟩ := matches_one_iff.mp first
        cases single
        exact ⟨passes, later⟩
      · rintro ⟨passes, later⟩
        exact ⟨[], rest, rfl, .one passes, later⟩

end Inversion

section Matcher

theorem nullable_iff (regex : Regex α) : regex.nullable = true ↔ Matches regex [] := by
  induction regex with
  | none => exact iff_of_false Bool.false_ne_true not_matches_none
  | blank => exact iff_of_true rfl .blank
  | one test =>
      refine iff_of_false Bool.false_ne_true (fun matched => ?_)
      obtain ⟨char, single, _⟩ := matches_one_iff.mp matched
      cases single
  | seq first second ihFirst ihSecond =>
      rw [nullable, Bool.and_eq_true, ihFirst, ihSecond, matches_seq_iff]
      constructor
      · rintro ⟨left, right⟩
        exact ⟨[], [], rfl, left, right⟩
      · rintro ⟨front, back, empty, left, right⟩
        obtain ⟨rfl, rfl⟩ := List.append_eq_nil_iff.mp empty.symm
        exact ⟨left, right⟩
  | alt first second ihFirst ihSecond =>
      rw [nullable, Bool.or_eq_true, ihFirst, ihSecond, matches_alt_iff]
  | star inner => exact iff_of_true rfl .done

theorem matches_cons_iff (regex : Regex α) (char : α) (text : List α) :
    Matches regex (char :: text) ↔ Matches (regex.derivative char) text := by
  induction regex generalizing text with
  | none => exact iff_of_false not_matches_none not_matches_none
  | blank =>
      refine iff_of_false (fun matched => ?_) not_matches_none
      cases matches_blank_iff.mp matched
  | one test =>
      rw [matches_one_iff, derivative]
      split
      · rename_i passes
        rw [matches_blank_iff]
        constructor
        · rintro ⟨other, same, _⟩
          cases same
          rfl
        · rintro rfl
          exact ⟨char, rfl, passes⟩
      · rename_i fails
        refine iff_of_false (fun matched => ?_) not_matches_none
        obtain ⟨other, same, passes⟩ := matched
        cases same
        exact fails passes
  | seq first second ihFirst ihSecond =>
      -- the first character belongs to the first part, unless that is empty
      have inside : (∃ front back, text = front ++ back ∧ Matches first (char :: front) ∧
          Matches second back) ↔ Matches (seq (first.derivative char) second) text := by
        rw [matches_seq_iff]
        simp only [ihFirst]
      have cut : Matches (seq first second) (char :: text) ↔
          Matches (seq (first.derivative char) second) text ∨
            first.nullable = true ∧ Matches (second.derivative char) text := by
        rw [matches_seq_iff, ← inside, nullable_iff, ← ihSecond]
        constructor
        · rintro ⟨front, back, whole, left, right⟩
          cases front with
          | nil => exact .inr ⟨left, by rwa [whole]⟩
          | cons head tail =>
              cases whole
              exact .inl ⟨tail, back, rfl, left, right⟩
        · rintro (⟨front, back, rfl, left, right⟩ | ⟨left, right⟩)
          · exact ⟨char :: front, back, rfl, left, right⟩
          · exact ⟨[], char :: text, rfl, left, right⟩
      rw [cut, derivative]
      split
      · rename_i skips
        rw [matches_alt_iff]
        simp only [skips, true_and]
      · rename_i needed
        simp only [needed, Bool.false_eq_true, false_and, or_false]
  | alt first second ihFirst ihSecond =>
      rw [matches_alt_iff, derivative, matches_alt_iff, ihFirst, ihSecond]
  | star inner ih =>
      rw [matches_star_cons_iff, derivative, matches_seq_iff]
      simp only [ih]

theorem accepts_iff (regex : Regex α) (text : List α) :
    regex.accepts text = true ↔ Matches regex text := by
  induction text generalizing regex with
  | nil => exact nullable_iff regex
  | cons char rest ih => rw [accepts, ih, matches_cons_iff]

theorem acceptsLine_iff [DecidableEq α] (newline : α) (regex : Regex α) (text : List α) :
    regex.acceptsLine newline text = true ↔
      Matches regex text ∨ ∃ line, text = line ++ [newline] ∧ Matches regex line := by
  rw [acceptsLine, Bool.or_eq_true, accepts_iff, Bool.and_eq_true, decide_eq_true_eq, accepts_iff]
  refine or_congr_right ⟨?_, ?_⟩
  · rintro ⟨last, matched⟩
    obtain ⟨line, rfl⟩ := List.getLast?_eq_some_iff.mp last
    rw [List.dropLast_concat] at matched
    exact ⟨line, rfl, matched⟩
  · rintro ⟨line, rfl, matched⟩
    rw [List.dropLast_concat]
    exact ⟨List.getLast?_concat, matched⟩

end Matcher

end Regex

end Lib
