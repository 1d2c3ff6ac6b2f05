import LexMind.Domain.TagSet

set_option autoImplicit false

namespace LexMind.Domain

open Lib

variable {text : CasedText}

theorem lower_of_stored {tag : String} (stored : (tagForm text).Stored tag) :
    text.lower tag = tag := by
  obtain ⟨_, normal⟩ := stored
  change text.lower (pyStrip tag) = tag at normal
  rw [← normal, text.lower_lower]

theorem strip_of_stored {tag : String} (stored : (tagForm text).Stored tag) :
    pyStrip tag = tag := by
  obtain ⟨_, normal⟩ := stored
  change text.lower (pyStrip tag) = tag at normal
  calc pyStrip tag
      = pyStrip (text.lower (pyStrip tag)) := by rw [normal]
    _ = text.lower (pyStrip tag) := by rw [text.lower_strip, pyStrip_pyStrip]
    _ = tag := normal

theorem nonempty_of_stored {tag : String} (stored : (tagForm text).Stored tag) : tag ≠ "" := by
  rintro rfl
  have keep := stored.1
  change decide (pyStrip "" ≠ "") = true at keep
  rw [decide_eq_true_iff] at keep
  exact keep rfl

namespace TagSet

theorem ext_tags {first second : TagSet text} (same : first.tags = second.tags) :
    first = second := by
  cases first
  cases second
  cases same
  rfl

/-- A set is constructed with the normalised texts, or there are too many of them. -/
theorem construct_eq_ok_iff {tags : List String} {self : TagSet text} :
    construct text tags = .ok self ↔ (tagForm text).clean tags = self.tags := by
  constructor
  · intro made
    by_cases few : ((tagForm text).clean tags).length ≤ 50
    · rw [construct, dif_pos few] at made
      cases made
      rfl
    · rw [construct, dif_neg few] at made
      cases made
  · intro same
    have few : ((tagForm text).clean tags).length ≤ 50 := by
      rw [same]
      exact self.few
    rw [construct, dif_pos few]
    exact congrArg Except.ok (ext_tags same)

theorem construct_congr {first second : List String}
    (same : (tagForm text).clean first = (tagForm text).clean second) :
    construct text first = construct text second := by
  unfold construct
  simp only [same]

/-- Every set is the construction of its own tags. -/
theorem construct_tags (self : TagSet text) : construct text self.tags = .ok self :=
  construct_eq_ok_iff.mpr ((tagForm text).clean_stored self.sorted self.stored)

/-- Texts can be added to a set before or after it is constructed. -/
theorem construct_bind (front back : List String) :
    (do construct text ((← construct text front).tags ++ back)) =
      construct text (front ++ back) := by
  by_cases few : ((tagForm text).clean front).length ≤ 50
  · have made : construct text front = .ok ⟨(tagForm text).clean front, _, _, few⟩ := dif_pos few
    rw [made]
    simp only [bind, Except.bind]
    exact construct_congr ((tagForm text).clean_append_clean front back)
  · have many : ¬ ((tagForm text).clean (front ++ back)).length ≤ 50 := by
      have longer := (tagForm text).length_clean_le_append front back
      omega
    rw [construct, dif_neg few, construct, dif_neg many]
    rfl

theorem union_comm (first second : TagSet text) : first.union second = second.union first :=
  construct_congr ((tagForm text).clean_append_comm _ _)

/-- Both groupings give one set, or both find too many tags. -/
theorem union_assoc (first second third : TagSet text) :
    (do (← first.union second).union third) = (do first.union (← second.union third)) := by
  have swapped : (do first.union (← second.union third)) =
      (do (← second.union third).union first) := by
    simp only [union_comm first]
  rw [swapped]
  unfold union
  rw [construct_bind, construct_bind]
  apply construct_congr
  rw [(tagForm text).clean_append_comm (second.tags ++ third.tags), List.append_assoc]

theorem union_self (self : TagSet text) : self.union self = .ok self := by
  calc self.union self
      = construct text self.tags :=
        construct_congr ((tagForm text).clean_append_of_subset fun _ inside => inside)
    _ = .ok self := self.construct_tags

theorem contains_stored (self : TagSet text) {tag : String} (stored : (tagForm text).Stored tag) :
    self.contains tag = true ↔ tag ∈ self.tags := by
  rw [contains, lower_of_stored stored, decide_eq_true_iff]

theorem isSubset_iff (first second : TagSet text) :
    first.isSubset second = true ↔ first.union second = .ok second := by
  have stored : ∀ tag ∈ first.tags ++ second.tags, (tagForm text).Stored tag := by
    intro tag inside
    exact (List.mem_append.mp inside).elim (first.stored tag) (second.stored tag)
  rw [union, construct_eq_ok_iff, (tagForm text).clean_append_eq_iff second.sorted stored,
    isSubset, List.all_eq_true]
  exact forall₂_congr fun tag inside => second.contains_stored (first.stored tag inside)

theorem add_add {self after : TagSet text} {tag : String} (added : self.add tag = .ok after) :
    after.add tag = .ok after := by
  rw [add, construct_eq_ok_iff] at added ⊢
  rw [← added, NormalForm.clean_append_clean]
  apply NormalForm.clean_append_of_subset
  intro element inside
  exact (tagForm text).mem_clean_append.mpr (.inr inside)

theorem keep_tagForm {tag : String} : (tagForm text).keep tag = true ↔ pyStrip tag ≠ "" := by
  simp [tagForm]

/-- The tag that is added is found again just where it has no blanks at its ends. -/
theorem contains_added_iff {self after : TagSet text} {tag : String}
    (added : self.add tag = .ok after) (nonblank : pyStrip tag ≠ "") :
    after.contains tag = true ↔ pyStrip tag = tag := by
  have tags := construct_eq_ok_iff.mp added
  rw [contains, decide_eq_true_iff]
  constructor
  · intro inside
    exact text.strip_of_lower tag (strip_of_stored (after.stored _ inside))
  · intro bare
    rw [← tags]
    apply (tagForm text).mem_clean.mpr
    refine ⟨tag, List.mem_append_right _ List.mem_cons_self, keep_tagForm.mpr nonblank, ?_⟩
    exact congrArg text.lower bare

/-- A removal never raises, and the tag is gone. -/
theorem remove_spec (self : TagSet text) (tag : String) :
    ∃ after, self.remove tag = .ok after ∧ after.contains tag = false := by
  let left := self.tags.filter (fun kept => kept ≠ text.lower tag)
  have sorted : left.SortedLT := (self.sorted.pairwise.filter _).sortedLT
  have stored : ∀ kept ∈ left, (tagForm text).Stored kept :=
    fun kept inside => self.stored kept (List.mem_of_mem_filter inside)
  have few : left.length ≤ 50 := (List.length_filter_le _ _).trans self.few
  refine ⟨⟨left, sorted, stored, few⟩, ?_, ?_⟩
  · exact construct_eq_ok_iff.mpr ((tagForm text).clean_stored sorted stored)
  · rw [contains, decide_eq_false_iff_not]
    intro inside
    exact of_decide_eq_true (List.mem_filter.mp inside).2 rfl

/-- What a tag set promises, with two others and a text. -/
structure Laws (first second third : TagSet text) (tag : String) : Prop where
  sorted : first.tags.SortedLT
  canonical : ∀ kept ∈ first.tags, pyStrip kept = kept ∧ text.lower kept = kept ∧ kept ≠ ""
  added : pyStrip tag ≠ "" → ∀ after, first.add tag = .ok after → after.contains tag = true
  removed : pyStrip tag ≠ "" → ∃ after, first.remove tag = .ok after ∧ after.contains tag = false
  add_again : ∀ after, first.add tag = .ok after → after.add tag = .ok after
  comm : first.union second = second.union first
  assoc : (do (← first.union second).union third) = (do first.union (← second.union third))
  idem : first.union first = .ok first
  subset : first.isSubset second = true ↔ first.union second = .ok second

/-- All of it holds but for texts that stand with blanks: they are added without them and
looked up with them. -/
theorem tag_laws_iff (first second third : TagSet text) (tag : String)
    (fits : ∃ after, first.add tag = .ok after) :
    Laws first second third tag ↔ (pyStrip tag = "" ∨ pyStrip tag = tag) := by
  constructor
  · intro laws
    obtain ⟨after, added⟩ := fits
    by_cases blank : pyStrip tag = ""
    · exact .inl blank
    · exact .inr ((contains_added_iff added blank).mp (laws.added blank after added))
  · intro condition
    refine
      { sorted := first.sorted
        canonical := fun kept inside => ⟨strip_of_stored (first.stored kept inside),
          lower_of_stored (first.stored kept inside), nonempty_of_stored (first.stored kept inside)⟩
        added := ?_
        removed := fun _ => first.remove_spec tag
        add_again := fun _ added => add_add added
        comm := first.union_comm second
        assoc := first.union_assoc second third
        idem := first.union_self
        subset := first.isSubset_iff second }
    intro nonblank after added
    rcases condition with blank | bare
    · exact absurd blank nonblank
    · exact (contains_added_iff added nonblank).mpr bare

end TagSet

section Ascii

theorem toLower_toLower (char : Char) : char.toLower.toLower = char.toLower := by
  have low : ¬ (char.toLower.val ≥ 'A'.val ∧ char.toLower.val ≤ 'Z'.val) := by
    unfold Char.toLower
    split
    · rename_i upper
      have least : 65 ≤ char.val.toNat := UInt32.le_iff_toNat_le.mp upper.1
      have most : char.val.toNat ≤ 90 := UInt32.le_iff_toNat_le.mp upper.2
      have moved : (char.val + ('a'.val - 'A'.val)).toNat = char.val.toNat + 32 := by
        rw [UInt32.toNat_add]
        show (char.val.toNat + 32) % 2 ^ 32 = _
        omega
      rintro ⟨_, small⟩
      have bound : _ ≤ 90 := UInt32.le_iff_toNat_le.mp small
      rw [moved] at bound
      omega
    · assumption
  generalize char.toLower = lowered at low
  unfold Char.toLower
  exact dif_neg low

theorem toList_lowerAscii (chars : String) :
    (lowerAscii chars).toList = chars.toList.map Char.toLower :=
  String.toList_ofList

theorem strip_sublist (chars : List Char) : (strip chars).Sublist chars := by
  have behind : (strip chars).Sublist (chars.dropWhile isSpace) := by
    rw [strip, ← List.reverse_sublist, List.reverse_reverse]
    exact List.dropWhile_sublist _
  exact behind.trans (List.dropWhile_sublist _)

/-- The text methods on ASCII text, with the laws of lowering. -/
def asciiCased : CasedText where
  toTextMethods := asciiText
  lower_lower chars := by
    show lowerAscii (lowerAscii chars) = lowerAscii chars
    rw [← String.toList_inj, toList_lowerAscii, toList_lowerAscii, List.map_map]
    exact List.map_congr_left fun char _ => toLower_toLower char
  lower_nonempty chars nonempty lowered := by
    have none : (lowerAscii chars).toList = [] := String.toList_eq_nil_iff.mpr lowered
    rw [toList_lowerAscii, List.map_eq_nil_iff] at none
    exact nonempty (String.toList_eq_nil_iff.mp none)
  strip_of_lower chars bare := by
    have lowered : lowerAscii (pyStrip chars) = lowerAscii chars :=
      (asciiText.lower_strip chars).symm.trans bare
    have lengths := congrArg (fun lower => lower.toList.length) lowered
    simp only [toList_lowerAscii, List.length_map] at lengths
    rw [pyStrip, String.toList_ofList] at lengths
    rw [pyStrip, (strip_sublist chars.toList).eq_of_length lengths, String.ofList_toList]

/-- `TagSet()`. -/
def noTags : TagSet asciiCased := ⟨[], by decide, by simp, by decide⟩

theorem tag_laws_urgent :
    TagSet.Laws noTags noTags noTags "urgent" ↔
      (pyStrip "urgent" = "" ∨ pyStrip "urgent" = "urgent") :=
  TagSet.tag_laws_iff noTags noTags noTags "urgent" ⟨_, rfl⟩

/-- A text with a blank is added and not found. -/
theorem spaced_tag_unfound :
    ∃ after : TagSet asciiCased, TagSet.construct asciiCased [] = .ok noTags ∧
      pyStrip " urgent" ≠ "" ∧ noTags.add " urgent" = .ok after ∧ after.tags = ["urgent"] ∧
      after.contains " urgent" = false :=
  ⟨_, rfl, by decide, rfl, by decide, by decide⟩

end Ascii

end LexMind.Domain
