import LexMind.Lib.NormalSet
import LexMind.Python
import Mathlib.Data.String.Basic

set_option autoImplicit false

namespace LexMind.Domain

open Lib

/-- Lowered text stays as it is when lowered again; lowering makes no text empty and takes no
blank away. -/
structure CasedText extends TextMethods where
  lower_lower : ∀ text, lower (lower text) = lower text
  lower_nonempty : ∀ text, text ≠ "" → lower text ≠ ""
  strip_of_lower : ∀ text, pyStrip (lower text) = lower text → pyStrip text = text

/-- `t.strip().lower()` of the texts that are not blank. -/
def tagForm (text : CasedText) : NormalForm String where
  keep tag := pyStrip tag ≠ ""
  normal tag := text.lower (pyStrip tag)
  keep_normal tag keep := by
    rw [decide_eq_true_iff] at keep ⊢
    rw [text.lower_strip, pyStrip_pyStrip]
    exact text.lower_nonempty _ keep
  normal_normal tag _ := by
    rw [text.lower_strip, pyStrip_pyStrip, text.lower_lower]

/-- A tag set as `__post_init__` leaves it. -/
structure TagSet (text : CasedText) where
  tags : List String
  sorted : tags.SortedLT
  stored : ∀ tag ∈ tags, (tagForm text).Stored tag
  few : tags.length ≤ 50

namespace TagSet

variable {text : CasedText}

/-- `TagSet(tags)`; no tags at all is an empty sequence. -/
def construct (text : CasedText) (tags : List String) : Except PyExc (TagSet text) :=
  let cleaned := (tagForm text).clean tags
  if few : cleaned.length ≤ 50 then
    .ok { tags := cleaned
          sorted := (tagForm text).sortedLT_clean tags
          stored := fun _ inside => (tagForm text).stored_of_mem_clean inside
          few := few }
  else .error (.invariantViolation "TagSet must contain at most 50 tags")

/-- `item in self`. -/
def contains (self : TagSet text) (item : String) : Bool := text.lower item ∈ self.tags

def add (self : TagSet text) (tag : String) : Except PyExc (TagSet text) :=
  construct text (self.tags ++ [tag])

def remove (self : TagSet text) (tag : String) : Except PyExc (TagSet text) :=
  construct text (self.tags.filter (fun kept => kept ≠ text.lower tag))

def union (self other : TagSet text) : Except PyExc (TagSet text) :=
  construct text (self.tags ++ other.tags)

def isSubset (self other : TagSet text) : Bool := self.tags.all other.contains

end TagSet

end LexMind.Domain
