import LexMind.Documents.DocumentRepository
import LexMind.Lib.Delimited

set_option autoImplicit false

/- What the comma-separated columns give back, through each of the two readers. -/
namespace LexMind.Documents

open Lib Lib.Delimited

section Packing

theorem mem_pySplit {sep : Char} {column piece : String} (inside : piece ∈ pySplit sep column) :
    sep ∉ piece.toList := by
  obtain ⟨chars, found, rfl⟩ := List.mem_map.mp inside
  rw [String.toList_ofList]
  exact clean_splitOn sep column.toList chars found

theorem pySplit_pyJoin {sep : Char} {texts : List String} (some : texts ≠ [])
    (clean : ∀ piece ∈ texts, sep ∉ piece.toList) : pySplit sep (pyJoin sep texts) = texts := by
  have apart : ∀ chars ∈ texts.map String.toList, sep ∉ chars := by
    intro chars inside
    obtain ⟨piece, found, rfl⟩ := List.mem_map.mp inside
    exact clean piece found
  rw [pySplit, pyJoin, String.toList_ofList,
    List.splitOn_intercalate sep apart (by simpa using some), List.map_map]
  simp

theorem mem_pyJoin (sep : Char) {char : Char} {texts : List String} {piece : String}
    (inside : piece ∈ texts) (held : char ∈ piece.toList) : char ∈ (pyJoin sep texts).toList := by
  rw [pyJoin, String.toList_ofList]
  induction texts with
  | nil => cases inside
  | cons first rest ih =>
      cases rest with
      | nil =>
          rw [List.mem_singleton.mp inside] at held
          simpa using held
      | cons second rest =>
          rw [List.map_cons, List.map_cons, List.intercalate_cons_cons]
          rcases List.mem_cons.mp inside with rfl | later
          · simp [held]
          · exact List.mem_append_right _ (ih later)

theorem pyJoin_ne {sep : Char} {texts : List String} (some : texts ≠ [])
    (named : ∀ piece ∈ texts, piece ≠ "") : pyJoin sep texts ≠ "" := by
  intro empty
  obtain ⟨first, inside⟩ := List.exists_mem_of_ne_nil texts some
  have chars : first.toList ≠ [] := fun none =>
    named first inside (String.toList_eq_nil_iff.mp none)
  obtain ⟨char, held⟩ := List.exists_mem_of_ne_nil first.toList chars
  have joined := mem_pyJoin sep inside held
  rw [empty] at joined
  cases joined

/-- Stripping takes characters away. -/
theorem mem_pyStrip {char : Char} {piece : String} (inside : char ∈ (pyStrip piece).toList) :
    char ∈ piece.toList := by
  rw [pyStrip, String.toList_ofList, strip, List.mem_reverse] at inside
  have within := List.mem_reverse.mp ((List.dropWhile_sublist isSpace).mem inside)
  exact (List.dropWhile_sublist isSpace).mem within

end Packing

namespace SqliteDocumentRepositoryImpl

/-- Texts come back from a column exactly where none of them has a comma. -/
theorem unpack_pyJoin_iff {texts : List String} (named : ∀ piece ∈ texts, piece ≠ "") :
    unpack (pyJoin ',' texts) = texts ↔ ∀ piece ∈ texts, ',' ∉ piece.toList := by
  constructor
  · intro back piece inside
    rw [← back, unpack] at inside
    split at inside
    · cases inside
    · exact mem_pySplit (List.mem_of_mem_filter inside)
  · intro clean
    by_cases some : texts = []
    · rw [some]
      rfl
    · rw [unpack, if_neg (pyJoin_ne some named), pySplit_pyJoin some clean, List.filter_eq_self]
      intro piece inside
      exact decide_eq_true (named piece inside)

end SqliteDocumentRepositoryImpl

namespace SqliteDocumentRepository

theorem mem_parseIds {raw piece : String} (inside : piece ∈ parseIds raw) :
    ',' ∉ piece.toList ∧ pyStrip piece = piece ∧ piece ≠ "" := by
  unfold parseIds at inside
  split at inside
  · cases inside
  · obtain ⟨whole, kept, rfl⟩ := List.mem_map.mp inside
    have clean := mem_pySplit (List.mem_of_mem_filter kept)
    have named := of_decide_eq_true (List.mem_filter.mp kept).2
    exact ⟨fun comma => clean (mem_pyStrip comma), pyStrip_pyStrip whole, named⟩

/-- Texts that the reader neither splits nor strips come back. -/
theorem parseIds_pyJoin {texts : List String}
    (clean : ∀ piece ∈ texts, ',' ∉ piece.toList ∧ pyStrip piece = piece ∧ piece ≠ "") :
    parseIds (pyJoin ',' texts) = texts := by
  by_cases some : texts = []
  · rw [some]
    rfl
  · have named : ∀ piece ∈ texts, piece ≠ "" := fun piece inside => (clean piece inside).2.2
    have apart : ∀ piece ∈ texts, ',' ∉ piece.toList := fun piece inside => (clean piece inside).1
    have shown : pyStrip (pyJoin ',' texts) ≠ "" := by
      intro blank
      have blanks := (pyStrip_eq_empty_iff _).mp blank
      obtain ⟨first, inside⟩ := List.exists_mem_of_ne_nil texts some
      have stripped : pyStrip first = "" := (pyStrip_eq_empty_iff first).mpr
        (fun char held => blanks char (mem_pyJoin ',' inside held))
      rw [(clean first inside).2.1] at stripped
      exact named first inside stripped
    have kept : texts.filter (fun piece => pyStrip piece ≠ "") = texts := by
      rw [List.filter_eq_self]
      intro piece inside
      rw [(clean piece inside).2.1]
      exact decide_eq_true (named piece inside)
    rw [parseIds, if_neg (not_or.mpr ⟨pyJoin_ne some named, shown⟩), pySplit_pyJoin some apart,
      kept]
    calc texts.map pyStrip = texts.map id :=
          List.map_congr_left (fun piece inside => (clean piece inside).2.1)
      _ = texts := List.map_id texts

end SqliteDocumentRepository

end LexMind.Documents
