import LexMind.Ocr.Providers.ResultMapper
import Mathlib.Algebra.BigOperators.Ring.List
import Mathlib.Algebra.Field.Rat
import Mathlib.Algebra.Order.BigOperators.Group.List
import Mathlib.Algebra.Order.Field.Basic
import Mathlib.Algebra.Order.Ring.Unbundled.Rat
import Mathlib.Tactic.FieldSimp
import Mathlib.Tactic.Linarith

set_option autoImplicit false

/- The pages of a result partition the words that are kept. -/
namespace LexMind.Ocr.Providers

open Lib

/-- The words of a page, in their order. -/
def wordsOn (words : List RecognisedWord) (pageNumber : Int) : List RecognisedWord :=
  words.filter (fun word => word.pageNumber = pageNumber)

/-- The confidences are in the engine's range, and the pages are counted from 1. -/
def RawOutput.Within (raw : RawOutput) (limit : Rat) : Prop :=
  ∀ word ∈ raw.words, (0 ≤ word.confidence ∧ word.confidence ≤ limit) ∧ 1 ≤ word.pageNumber

/-- Each kept word is on one page of the result, and the confidences agree. -/
structure Partitions (kept : List RecognisedWord) (result : OCRResult) : Prop where
  increasing : (result.pages.map OCRPageResult.pageNumber).Pairwise
    (fun first second => first < second)
  numbers : ∀ pageNumber, pageNumber ∈ result.pages.map OCRPageResult.pageNumber ↔
    pageNumber ∈ kept.map RecognisedWord.pageNumber
  texts : ∀ page ∈ result.pages, page.text = joined (wordsOn kept page.pageNumber)
  counted : (result.pages.map (fun page => (wordsOn kept page.pageNumber).length)).sum = kept.length
  nothing : kept = [] → result.confidence = 0
  weighted : result.confidence = (result.pages.map (fun page =>
    ((wordsOn kept page.pageNumber).length : Rat) * page.confidence)).sum / kept.length
  overall : Confident result.confidence
  confident : ∀ page ∈ result.pages, Confident page.confidence

/-- The mapper keeps what reaches the threshold and takes means relative to a limit. -/
structure ResultMapper.Scaled (mapper : ResultMapper) (limit : Rat) : Prop where
  positive : 0 < limit
  keeps : ∀ minConfidence word, 0 ≤ word.confidence →
    (mapper.keeps minConfidence word = true ↔ minConfidence ≤ word.confidence)
  mean : ∀ words, mapper.meanConfidence words = wordMean words / limit

theorem tesseract_scaled : ocrResultMapper.Scaled 100 where
  positive := by norm_num
  keeps minConfidence word natural := by simp [ocrResultMapper, natural]
  mean _ := rfl

theorem easyOCR_scaled : easyOCRResultMapper.Scaled 1 where
  positive := one_pos
  keeps minConfidence word _ := by simp [easyOCRResultMapper]
  mean words := (div_one _).symm

theorem paddleOCR_scaled : paddleOCRResultMapper.Scaled 1 where
  positive := one_pos
  keeps minConfidence word _ := by simp [paddleOCRResultMapper]
  mean words := (div_one _).symm

section Means

/-- A mean times the count is the sum. -/
theorem length_mul_wordMean (words : List RecognisedWord) :
    (words.length : Rat) * wordMean words = (words.map RecognisedWord.confidence).sum := by
  unfold wordMean
  split
  · rename_i nothing
    rw [nothing]
    simp
  · rename_i some
    have counted : (words.length : Rat) ≠ 0 := by simpa using some
    field_simp

theorem wordMean_between {limit : Rat} (positive : 0 < limit) {words : List RecognisedWord}
    (range : ∀ word ∈ words, 0 ≤ word.confidence ∧ word.confidence ≤ limit) :
    Confident (wordMean words / limit) := by
  by_cases nothing : words = []
  · rw [wordMean, if_pos nothing, zero_div]
    exact ⟨le_refl 0, zero_le_one⟩
  · have counted : (0 : Rat) < words.length := by
      exact_mod_cast List.length_pos_iff.mpr nothing
    have low : 0 ≤ (words.map RecognisedWord.confidence).sum := by
      apply List.sum_nonneg
      intro confidence listed
      obtain ⟨word, inside, rfl⟩ := List.mem_map.mp listed
      exact (range word inside).1
    have high : (words.map RecognisedWord.confidence).sum ≤ words.length * limit := by
      have bound := List.sum_le_card_nsmul (words.map RecognisedWord.confidence) limit (by
        intro confidence listed
        obtain ⟨word, inside, rfl⟩ := List.mem_map.mp listed
        exact (range word inside).2)
      rwa [List.length_map, nsmul_eq_mul] at bound
    rw [wordMean, if_neg nothing]
    refine ⟨div_nonneg (div_nonneg low counted.le) positive.le, ?_⟩
    rw [div_le_one positive, div_le_iff₀ counted, mul_comm]
    exact high

end Means

theorem page_create {pageNumber : Int} {confidence : Rat} (counted : 0 ≤ pageNumber)
    (confident : Confident confidence) (text : String) :
    OCRPageResult.create pageNumber text confidence =
      .ok ⟨pageNumber, text, confidence, counted, confident⟩ := by
  rw [OCRPageResult.create, dif_pos counted, dif_pos confident]

theorem result_create {confidence : Rat} (confident : Confident confidence)
    (text language provider : String) (pages : List OCRPageResult) :
    OCRResult.create text confidence language provider pages =
      .ok ⟨text, confidence, language, provider, pages, [], confident⟩ := by
  rw [OCRResult.create, dif_pos confident]

/-- What is compared of a page. -/
def shown (page : OCRPageResult) : Int × String × Rat :=
  (page.pageNumber, page.text, page.confidence)

theorem shown_of_create {pageNumber : Int} {text : String} {confidence : Rat} {page : OCRPageResult}
    (created : OCRPageResult.create pageNumber text confidence = .ok page) :
    shown page = (pageNumber, text, confidence) := by
  unfold OCRPageResult.create at created
  split at created
  · split at created
    · cases created
      rfl
    · cases created
  · cases created

/-- The numbers of the pages that have words, in increasing order. -/
def pageNumbers (words : List RecognisedWord) : List Int :=
  ((group RecognisedWord.pageNumber words).rows.map Prod.fst).insertionSort
    (fun first second => first ≤ second)

theorem mem_pageNumbers (words : List RecognisedWord) (pageNumber : Int) :
    pageNumber ∈ pageNumbers words ↔ pageNumber ∈ words.map RecognisedWord.pageNumber := by
  rw [pageNumbers, List.mem_insertionSort, mem_keys_group]

theorem nodup_pageNumbers (words : List RecognisedWord) : (pageNumbers words).Nodup :=
  (List.perm_insertionSort _ _).nodup_iff.mpr (group RecognisedWord.pageNumber words).distinct

theorem pageNumbers_increasing (words : List RecognisedWord) :
    (pageNumbers words).Pairwise (fun first second => first < second) := by
  have sorted : (pageNumbers words).Pairwise (fun first second => first ≤ second) :=
    List.pairwise_insertionSort _ _
  exact (sorted.and (nodup_pageNumbers words)).imp
    (fun both => lt_of_le_of_ne both.1 both.2)

/-- The page of some words. -/
def pageOf (mapper : ResultMapper) (words : List RecognisedWord) (pageNumber : Int) :
    Int × String × Rat :=
  (pageNumber, joined (wordsOn words pageNumber), mapper.meanConfidence (wordsOn words pageNumber))

theorem numbers_of_shown {mapper : ResultMapper} {words : List RecognisedWord}
    {pages : List OCRPageResult}
    (same : pages.map shown = (pageNumbers words).map (pageOf mapper words)) :
    pages.map OCRPageResult.pageNumber = pageNumbers words := by
  have numbers := congrArg (List.map Prod.fst) same
  rw [List.map_map, List.map_map] at numbers
  exact numbers.trans (List.map_id _)

theorem texts_of_shown {mapper : ResultMapper} {words : List RecognisedWord}
    {pages : List OCRPageResult}
    (same : pages.map shown = (pageNumbers words).map (pageOf mapper words)) :
    ∀ page ∈ pages, page.text = joined (wordsOn words page.pageNumber) := by
  intro page inside
  have listed : shown page ∈ pages.map shown := List.mem_map_of_mem inside
  rw [same] at listed
  obtain ⟨pageNumber, _, equal⟩ := List.mem_map.mp listed
  have number : pageNumber = page.pageNumber := congrArg Prod.fst equal
  have text : joined (wordsOn words pageNumber) = page.text :=
    congrArg (fun page => page.2.1) equal
  rw [← text, number]

/-- What is built are the pages of the words. -/
theorem ResultMapper.buildPages_shown {mapper : ResultMapper} {words : List RecognisedWord}
    {pages : List OCRPageResult} (built : mapper.buildPages words = .ok pages) :
    pages.map shown = (pageNumbers words).map (pageOf mapper words) := by
  obtain ⟨answers, answered, same⟩ := mapM_returns (fun pageNumber listed => by
    obtain ⟨page, created⟩ := mapM_returned built pageNumber listed
    refine ⟨page, created, (shown_of_create created).trans ?_⟩
    rw [members_group])
  rw [ResultMapper.buildPages, answered] at built
  cases built
  exact same

namespace ResultMapper.Scaled

variable {mapper : ResultMapper} {limit : Rat} (scaled : mapper.Scaled limit)

include scaled

/-- The sums of the pages' words are the sum of all. -/
theorem sum_pages (words : List RecognisedWord) :
    ((pageNumbers words).map (fun pageNumber => ((wordsOn words pageNumber).length : Rat) *
      mapper.meanConfidence (wordsOn words pageNumber))).sum =
        words.length * mapper.meanConfidence words := by
  have each (group : List RecognisedWord) : (group.length : Rat) * mapper.meanConfidence group =
      (group.map (fun word => word.confidence / limit)).sum := by
    rw [scaled.mean, ← mul_div_assoc, length_mul_wordMean]
    simp only [div_eq_mul_inv, List.sum_map_mul_right]
  rw [each, List.map_congr_left (fun pageNumber _ => each (wordsOn words pageNumber))]
  exact sum_groups _ (nodup_pageNumbers words) (fun word inside =>
    (mem_pageNumbers words _).mpr (List.mem_map_of_mem inside))

variable {words : List RecognisedWord}

/-- A result of such pages, with the mean of all the words, partitions the words. -/
theorem partitions_of {result : OCRResult}
    (pages : result.pages.map shown = (pageNumbers words).map (pageOf mapper words))
    (overall : result.confidence = mapper.meanConfidence words) : Partitions words result where
  increasing := by
    rw [numbers_of_shown pages]
    exact pageNumbers_increasing words
  numbers pageNumber := by
    rw [numbers_of_shown pages]
    exact mem_pageNumbers words pageNumber
  texts := texts_of_shown pages
  counted := by
    have each : result.pages.map (fun page => (wordsOn words page.pageNumber).length) =
        (pageNumbers words).map (fun pageNumber =>
          ((wordsOn words pageNumber).map (fun _ => 1)).sum) := by
      rw [← numbers_of_shown pages, List.map_map]
      apply List.map_congr_left
      intro page _
      simp
    rw [each]
    refine (sum_groups (fun _ => 1) (nodup_pageNumbers words) (fun word inside =>
      (mem_pageNumbers words _).mpr (List.mem_map_of_mem inside))).trans ?_
    simp
  nothing empty := by
    rw [overall, scaled.mean, empty]
    exact zero_div limit
  weighted := by
    have each : result.pages.map (fun page =>
        ((wordsOn words page.pageNumber).length : Rat) * page.confidence) =
          (pageNumbers words).map (fun pageNumber => ((wordsOn words pageNumber).length : Rat) *
            mapper.meanConfidence (wordsOn words pageNumber)) := by
      have both := congrArg (List.map (fun page : Int × String × Rat =>
        ((wordsOn words page.1).length : Rat) * page.2.2)) pages
      rwa [List.map_map, List.map_map] at both
    rw [each, scaled.sum_pages, overall]
    by_cases empty : words = []
    · rw [scaled.mean, empty]
      simp [wordMean]
    · have counted : (words.length : Rat) ≠ 0 := by simpa using empty
      rw [mul_div_cancel_left₀ _ counted]
  overall := result.confident
  confident page _ := page.confident

variable (range : ∀ word ∈ words,
  (0 ≤ word.confidence ∧ word.confidence ≤ limit) ∧ 1 ≤ word.pageNumber)

include range

theorem confident_mean : Confident (mapper.meanConfidence words) := by
  rw [scaled.mean]
  exact wordMean_between scaled.positive (fun word inside => (range word inside).1)

theorem buildPages_returns : ∃ pages, mapper.buildPages words = .ok pages := by
  have each : ∀ pageNumber ∈ pageNumbers words, ∃ page, OCRPageResult.create pageNumber
      (joined (members (group RecognisedWord.pageNumber words) pageNumber))
      (mapper.meanConfidence (members (group RecognisedWord.pageNumber words) pageNumber)) =
        .ok page ∧ page.pageNumber = id pageNumber := by
    intro pageNumber listed
    rw [members_group]
    obtain ⟨word, inside, rfl⟩ := List.mem_map.mp ((mem_pageNumbers words pageNumber).mp listed)
    have counted : 0 ≤ word.pageNumber := le_trans zero_le_one (range word inside).2
    have ranged : ∀ other ∈ wordsOn words word.pageNumber,
        (0 ≤ other.confidence ∧ other.confidence ≤ limit) ∧ 1 ≤ other.pageNumber :=
      fun other held => range other (List.mem_of_mem_filter held)
    have confident := scaled.confident_mean ranged
    exact ⟨_, page_create counted confident _, rfl⟩
  obtain ⟨pages, built, _⟩ := mapM_returns each
  exact ⟨pages, built⟩

end ResultMapper.Scaled

/-- A result is returned, whose pages partition the words that reach the threshold. -/
theorem ResultMapper.Scaled.partitions {mapper : ResultMapper} {limit : Rat}
    (scaled : mapper.Scaled limit) {raw : RawOutput} (within : raw.Within limit) (language : String)
    (minConfidence : Rat) : ∃ result, mapper.toResult raw language minConfidence = .ok result ∧
      Partitions (raw.words.filter (fun word => minConfidence ≤ word.confidence)) result := by
  have kept : raw.words.filter (mapper.keeps minConfidence) =
      raw.words.filter (fun word => minConfidence ≤ word.confidence) := by
    apply List.filter_congr
    intro word inside
    have keeps := scaled.keeps minConfidence word (within word inside).1.1
    rw [Bool.eq_iff_iff, keeps, decide_eq_true_iff]
  have range : ∀ word ∈ raw.words.filter (fun word => minConfidence ≤ word.confidence),
      (0 ≤ word.confidence ∧ word.confidence ≤ limit) ∧ 1 ≤ word.pageNumber :=
    fun word inside => within word (List.mem_of_mem_filter inside)
  obtain ⟨pages, built⟩ := scaled.buildPages_returns range
  let result : OCRResult :=
    ⟨raw.text, _, language, mapper.providerName, pages, [], scaled.confident_mean range⟩
  refine ⟨result, ?_, scaled.partitions_of (ResultMapper.buildPages_shown built) rfl⟩
  rw [ResultMapper.toResult, kept, built]
  exact result_create (scaled.confident_mean range) _ _ _ _

/-- Each of the mappers partitions the words it keeps. -/
theorem mappers_partition :
    (∀ raw : TesseractRawOutput, raw.Within 100 → ∀ language minConfidence,
      ∃ result, tesseractResult raw language minConfidence = .ok result ∧
        Partitions (raw.words.filter (fun word => minConfidence ≤ word.confidence)) result) ∧
    (∀ raw : EasyOCRRawOutput, raw.Within 1 → ∀ languages minConfidence,
      ∃ result, easyOCRResult raw languages minConfidence = .ok result ∧
        Partitions (raw.words.filter (fun word => minConfidence ≤ word.confidence)) result) ∧
    (∀ raw : PaddleOCRRawOutput, raw.Within 1 → ∀ language minConfidence,
      ∃ result, paddleOCRResult raw language minConfidence = .ok result ∧
        Partitions (raw.words.filter (fun word => minConfidence ≤ word.confidence)) result) :=
  ⟨fun _ within language => tesseract_scaled.partitions within language,
    fun _ within languages => easyOCR_scaled.partitions within (languages.headD ""),
    fun _ within language => paddleOCR_scaled.partitions within language⟩

/-- Three words on two pages, one of them below the threshold. -/
def scanned (scale : Rat) : RawOutput where
  text := "Contract nr. 12"
  words := [⟨"Contract", 9 / 10 * scale, 2⟩, ⟨"nr.", 3 / 10 * scale, 1⟩, ⟨"12", 8 / 10 * scale, 1⟩]

theorem scanned_within {scale : Rat} (positive : 0 < scale) : (scanned scale).Within scale := by
  intro word inside
  simp only [scanned, List.mem_cons, List.not_mem_nil, or_false] at inside
  rcases inside with rfl | rfl | rfl
  · exact ⟨⟨by linarith, by linarith⟩, by norm_num⟩
  · exact ⟨⟨by linarith, by linarith⟩, by norm_num⟩
  · exact ⟨⟨by linarith, by linarith⟩, by norm_num⟩

theorem scanned_partition :
    (∃ result, tesseractResult (scanned 100) "ron" 50 = .ok result ∧ Partitions
      ((scanned 100).words.filter (fun word => (50 : Rat) ≤ word.confidence)) result) ∧
    (∃ result, easyOCRResult (scanned 1) ["ro", "en"] (1 / 2) = .ok result ∧ Partitions
      ((scanned 1).words.filter (fun word => (1 / 2 : Rat) ≤ word.confidence)) result) ∧
    (∃ result, paddleOCRResult (scanned 1) "ro" (1 / 2) = .ok result ∧ Partitions
      ((scanned 1).words.filter (fun word => (1 / 2 : Rat) ≤ word.confidence)) result) :=
  ⟨mappers_partition.1 _ (scanned_within (by norm_num)) _ _,
    mappers_partition.2.1 _ (scanned_within one_pos) _ _,
    mappers_partition.2.2 _ (scanned_within one_pos) _ _⟩

end LexMind.Ocr.Providers
