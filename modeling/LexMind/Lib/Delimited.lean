import Mathlib.Data.List.Infix
import Mathlib.Data.List.TakeWhile

set_option autoImplicit false

/- Lists written as one list, with a delimiter before or between the pieces. -/
namespace Lib.Delimited

variable {α : Type} {sep : α} {pieces others : List (List α)}

/-- No piece holds the delimiter. -/
def Clean (sep : α) (pieces : List (List α)) : Prop := ∀ piece ∈ pieces, sep ∉ piece

theorem Clean.head {piece : List α} (clean : Clean sep (piece :: pieces)) : sep ∉ piece :=
  clean piece List.mem_cons_self

theorem Clean.tail {piece : List α} (clean : Clean sep (piece :: pieces)) : Clean sep pieces :=
  fun other inside => clean other (List.mem_cons_of_mem piece inside)

/-- The pieces between the delimiters of a list do not hold it. -/
theorem clean_splitOn [DecidableEq α] (sep : α) (text : List α) :
    Clean sep (text.splitOn sep) := by
  induction text with
  | nil =>
      intro piece inside
      rw [List.splitOn_nil] at inside
      rw [List.mem_singleton.mp inside]
      exact List.not_mem_nil
  | cons char text ih =>
      rw [List.splitOn_cons_eq_if_modifyHead]
      split
      · intro piece inside
        rcases List.mem_cons.mp inside with rfl | later
        · exact List.not_mem_nil
        · exact ih piece later
      · rename_i differs
        cases found : text.splitOn sep with
        | nil => exact absurd found (List.splitOn_ne_nil sep text)
        | cons first rest =>
            rw [found] at ih
            intro piece inside
            rcases List.mem_cons.mp inside with rfl | later
            · intro member
              rcases List.mem_cons.mp member with same | within
              · exact differs (beq_iff_eq.mpr same.symm)
              · exact ih.head within
            · exact ih.tail piece later

/-- What stands before the first delimiter belongs to the first piece. -/
theorem splitOn_append_of_not_mem [DecidableEq α] {front back : List α} (free : sep ∉ front) :
    (front ++ back).splitOn sep = (back.splitOn sep).modifyHead (front ++ ·) := by
  induction front with
  | nil =>
      rw [List.nil_append]
      cases back.splitOn sep with
      | nil => rfl
      | cons piece rest => rfl
  | cons char front ih =>
      have other : ¬ (char == sep) = true := by
        intro same
        rw [beq_iff_eq.mp same] at free
        exact free List.mem_cons_self
      rw [List.cons_append, List.splitOn_cons_eq_if_modifyHead, if_neg other,
        ih (fun inside => free (List.mem_cons_of_mem char inside))]
      cases back.splitOn sep with
      | nil => rfl
      | cons piece rest => rfl

section Leading

/-- Each piece with the delimiter before it. -/
def led (sep : α) (pieces : List (List α)) : List α := pieces.flatMap (fun piece => sep :: piece)

theorem led_cons (sep : α) (piece : List α) (pieces : List (List α)) :
    led sep (piece :: pieces) = sep :: (piece ++ led sep pieces) := by
  rw [led, List.flatMap_cons]
  rfl

theorem led_append (sep : α) (front back : List (List α)) :
    led sep (front ++ back) = led sep front ++ led sep back :=
  List.flatMap_append

theorem led_cases (sep : α) (pieces : List (List α)) :
    led sep pieces = [] ∧ pieces = [] ∨ ∃ rest, led sep pieces = sep :: rest := by
  cases pieces with
  | nil => exact .inl ⟨rfl, rfl⟩
  | cons piece rest => exact .inr ⟨_, led_cons sep piece rest⟩

/-- The last of the pieces goes on in the others at its place. -/
def Overrun (pieces others : List (List α)) : Prop :=
  ∃ front last more rest, pieces = front ++ [last] ∧ more ≠ [] ∧
    others = front ++ (last ++ more) :: rest

theorem Overrun.cons {piece : List α} (overrun : Overrun pieces others) :
    Overrun (piece :: pieces) (piece :: others) := by
  obtain ⟨front, last, more, rest, rfl, strict, rfl⟩ := overrun
  exact ⟨piece :: front, last, more, rest, rfl, strict, rfl⟩

theorem Overrun.not_prefix (overrun : Overrun pieces others) : ¬ pieces <+: others := by
  obtain ⟨front, last, more, rest, rfl, strict, rfl⟩ := overrun
  intro within
  have next := (List.prefix_append_right_inj front).mp within
  have same := (List.cons_prefix_cons.mp next).1
  exact strict (List.self_eq_append_right.mp same)

theorem led_prefix (longer : pieces <+: others) : led sep pieces <+: led sep others := by
  obtain ⟨rest, rfl⟩ := longer
  rw [led_append]
  exact List.prefix_append _ _

theorem led_overrun (overrun : Overrun pieces others) : led sep pieces <+: led sep others := by
  obtain ⟨front, last, more, rest, rfl, -, rfl⟩ := overrun
  have single : led sep [last] = sep :: last := List.append_nil _
  rw [led_append, single, led_append, led_cons, List.append_assoc]
  apply (List.prefix_append_right_inj (led sep front)).mpr
  exact List.cons_prefix_cons.mpr ⟨rfl, List.prefix_append last _⟩

/-- A text without the delimiter that begins a text of pieces begins the first of them. -/
theorem prefix_first {piece first rest : List α} (clean : sep ∉ piece)
    (later : rest = [] ∨ ∃ more, rest = sep :: more) (within : piece <+: first ++ rest) :
    piece <+: first := by
  rcases List.prefix_or_prefix_of_prefix within (List.prefix_append first rest) with short | long
  · exact short
  · obtain ⟨more, rfl⟩ := long
    have left := (List.prefix_append_right_inj first).mp within
    rcases later with rfl | ⟨rest, rfl⟩
    · rw [List.prefix_nil.mp left, List.append_nil]
    · cases more with
      | nil => rw [List.append_nil]
      | cons char more =>
          have same := (List.cons_prefix_cons.mp left).1
          subst same
          exact absurd (by simp) clean

/-- Where one text of pieces begins another, its pieces do, or the last of them is overrun. -/
theorem prefix_or_overrun (clean : Clean sep pieces) (apart : Clean sep others)
    (within : led sep pieces <+: led sep others) : pieces <+: others ∨ Overrun pieces others := by
  induction pieces generalizing others with
  | nil => exact .inl List.nil_prefix
  | cons piece pieces ih =>
      cases others with
      | nil =>
          rw [led_cons] at within
          cases List.prefix_nil.mp within
      | cons first others =>
          rw [led_cons, led_cons, List.cons_prefix_cons] at within
          have follows : led sep others = [] ∨ ∃ more, led sep others = sep :: more :=
            (led_cases sep others).imp_left And.left
          have inside := prefix_first clean.head follows
            ((List.prefix_append piece (led sep pieces)).trans within.2)
          obtain ⟨more, rfl⟩ := inside
          have rest := within.2
          rw [List.append_assoc, List.prefix_append_right_inj] at rest
          cases more with
          | nil =>
              rw [List.append_nil]
              rcases ih clean.tail apart.tail rest with longer | overrun
              · exact .inl (List.cons_prefix_cons.mpr ⟨rfl, longer⟩)
              · exact .inr overrun.cons
          | cons char more =>
              rcases led_cases sep pieces with ⟨-, last⟩ | ⟨next, found⟩
              · subst last
                exact .inr ⟨[], piece, char :: more, others, rfl, List.cons_ne_nil _ _, rfl⟩
              · rw [found] at rest
                have same := (List.cons_prefix_cons.mp rest).1
                subst same
                exact absurd (by simp) apart.head

theorem led_prefix_iff (clean : Clean sep pieces) (apart : Clean sep others) :
    led sep pieces <+: led sep others ↔ pieces <+: others ∨ Overrun pieces others :=
  ⟨prefix_or_overrun clean apart, fun either => either.elim led_prefix led_overrun⟩

end Leading

/-- A text without the delimiter is found on one side of it. -/
theorem infix_append_delimiter {text front back : List α} (free : sep ∉ text) :
    text <:+: front ++ sep :: back ↔ text <:+: front ∨ text <:+: back := by
  have clean : ∀ part, part <+: sep :: back →
      (∀ element ∈ part, element ∈ text) → part = [] := by
    intro part begins within
    cases part with
    | nil => rfl
    | cons head tail =>
        rw [(List.cons_prefix_cons.mp begins).1] at within
        exact absurd (within sep List.mem_cons_self) free
  constructor
  · intro found
    rcases List.infix_append_iff.mp found with before | behind | ⟨left, right, rfl, ends, begins⟩
    · exact .inl before
    · rcases List.infix_cons_iff.mp behind with begins | inside
      · rw [clean text begins (fun _ inside => inside)]
        exact .inl List.nil_infix
      · exact .inr inside
    · rw [clean right begins (fun _ inside => List.mem_append_right left inside), List.append_nil]
      exact .inl ends.isInfix
  · rintro (before | behind)
    · exact List.infix_append_of_infix_left before
    · exact List.infix_append_of_infix_right (List.infix_cons behind)

end Lib.Delimited
