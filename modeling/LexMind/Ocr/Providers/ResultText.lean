import LexMind.Ocr.Providers.WordPartition

set_option autoImplicit false

/- The text of a result against the words its pages are made of. -/
namespace LexMind.Ocr.Providers

open Lib

/-- The raw text is the words in their order, with single spaces between them. -/
def RawOutput.Spaced (raw : RawOutput) : Prop := raw.text = joined raw.words

/-- The words of the text, and those of each page, are the kept ones. -/
structure TextAgrees (kept : List RecognisedWord) (result : OCRResult) : Prop where
  text : result.text = joined kept
  pages : ∀ page ∈ result.pages, page.text = joined (wordsOn kept page.pageNumber)

/-- No word is discarded, or the only word is empty. -/
def LosesNothing (mapper : ResultMapper) (minConfidence : Rat) (words : List RecognisedWord) :
    Prop :=
  (∀ word ∈ words, mapper.keeps minConfidence word = true) ∨
    ∃ word, words = [word] ∧ word.text = ""

/-- The characters of a word and the space after it. -/
def spaced (word : RecognisedWord) : Nat := word.text.length + 1

theorem length_joined {words : List RecognisedWord} (some : words ≠ []) :
    (joined words).length + 1 = (words.map spaced).sum := by
  induction words with
  | nil => exact absurd rfl some
  | cons word rest ih =>
      by_cases last : rest = []
      · rw [last]
        simp [joined, spaced]
      · have later := ih last
        have texts : rest.map RecognisedWord.text ≠ [] := by simpa using last
        rw [joined, List.map_cons, String.intercalate_cons_of_ne_nil texts, String.length_append,
          String.length_append, List.map_cons, List.sum_cons, ← later, spaced]
        show word.text.length + 1 + (joined rest).length + 1 = _
        omega

/-- A discarded word is missing in the sum. -/
theorem sum_filter_lt {keep : RecognisedWord → Bool} {words : List RecognisedWord}
    {word : RecognisedWord} (inside : word ∈ words) (lost : keep word = false) :
    ((words.filter keep).map spaced).sum + spaced word ≤ (words.map spaced).sum := by
  induction words with
  | nil => cases inside
  | cons head rest ih =>
      have least : ((rest.filter keep).map spaced).sum ≤ (rest.map spaced).sum :=
        (List.filter_sublist.map spaced).sum_le_sum (fun _ _ => Nat.zero_le _)
      rw [List.map_cons, List.sum_cons]
      rcases List.mem_cons.mp inside with rfl | later
      · rw [List.filter_cons_of_neg (by simp [lost])]
        omega
      · have rest := ih later
        cases kept : keep head with
        | true =>
            rw [List.filter_cons_of_pos kept, List.map_cons, List.sum_cons]
            omega
        | false =>
            rw [List.filter_cons_of_neg (by simp [kept])]
            omega

/-- The joined text is empty only of one empty word. -/
theorem joined_eq_empty_iff {words : List RecognisedWord} (some : words ≠ []) :
    joined words = "" ↔ ∃ word, words = [word] ∧ word.text = "" := by
  constructor
  · intro empty
    have short : (words.map spaced).sum = 1 := by
      rw [← length_joined some, empty]
      rfl
    obtain ⟨head, tail, rfl⟩ := List.exists_cons_of_ne_nil some
    cases tail with
    | nil =>
        rw [List.map_singleton, List.sum_singleton, spaced] at short
        exact ⟨head, rfl, String.length_eq_zero_iff.mp (by omega)⟩
    | cons next rest =>
        simp only [List.map_cons, List.sum_cons, spaced] at short
        omega
  · rintro ⟨word, rfl, empty⟩
    simp [joined, empty]

/-- The joined text shows a discarded word by its length, unless it is the empty text's only
word. -/
theorem joined_filter_iff (keep : RecognisedWord → Bool) (words : List RecognisedWord) :
    joined words = joined (words.filter keep) ↔
      (∀ word ∈ words, keep word = true) ∨ ∃ word, words = [word] ∧ word.text = "" := by
  by_cases all : ∀ word ∈ words, keep word = true
  · rw [List.filter_eq_self.mpr all]
    exact iff_of_true rfl (.inl all)
  · obtain ⟨word, inside, lost⟩ : ∃ word ∈ words, keep word ≠ true := by simpa using all
    have shorter := sum_filter_lt inside (eq_false_of_ne_true lost)
    have whole := length_joined (List.ne_nil_of_mem inside)
    have positive : 0 < spaced word := Nat.succ_pos _
    rw [or_iff_right all]
    by_cases nothing : words.filter keep = []
    · rw [nothing]
      exact joined_eq_empty_iff (List.ne_nil_of_mem inside)
    · have kept := length_joined nothing
      have differs : joined words ≠ joined (words.filter keep) := by
        intro same
        rw [same] at whole
        omega
      refine iff_of_false differs ?_
      rintro ⟨only, rfl, _⟩
      rw [List.mem_singleton.mp inside] at lost
      exact nothing (by simp [lost])

section Returned

variable {mapper : ResultMapper} {raw : RawOutput} {language : String} {minConfidence : Rat}
  {result : OCRResult} (returned : mapper.toResult raw language minConfidence = .ok result)

include returned

/-- The text of a result is the raw text, its pages are those of the kept words. -/
theorem parts_of_result :
    result.text = raw.text ∧
      mapper.buildPages (raw.words.filter (mapper.keeps minConfidence)) = .ok result.pages := by
  obtain ⟨pages, built, created⟩ := returned_of_bind returned
  unfold OCRResult.create at created
  split at created
  · cases created
    exact ⟨rfl, built⟩
  · cases created

/-- The pages have kept words only. -/
theorem pages_of_result : ∀ page ∈ result.pages,
    page.text = joined (wordsOn (raw.words.filter (mapper.keeps minConfidence)) page.pageNumber) :=
  texts_of_shown (ResultMapper.buildPages_shown (parts_of_result returned).2)

theorem text_agrees_iff (joint : raw.Spaced) :
    TextAgrees (raw.words.filter (mapper.keeps minConfidence)) result ↔
      LosesNothing mapper minConfidence raw.words := by
  have text : result.text = joined raw.words := (parts_of_result returned).1.trans joint
  refine Iff.trans ?_ (joined_filter_iff (mapper.keeps minConfidence) raw.words)
  exact ⟨fun agrees => text.symm.trans agrees.text,
    fun same => ⟨text.trans same, pages_of_result returned⟩⟩

end Returned

/-- For each of the mappers, the text is the kept words' exactly where no word is lost. -/
theorem mappers_text_iff (raw : RawOutput) (minConfidence : Rat) (joint : raw.Spaced) :
    (∀ language result, tesseractResult raw language minConfidence = .ok result →
      (TextAgrees (raw.words.filter (ocrResultMapper.keeps minConfidence)) result ↔
        LosesNothing ocrResultMapper minConfidence raw.words)) ∧
    (∀ languages result, easyOCRResult raw languages minConfidence = .ok result →
      (TextAgrees (raw.words.filter (easyOCRResultMapper.keeps minConfidence)) result ↔
        LosesNothing easyOCRResultMapper minConfidence raw.words)) ∧
    (∀ language result, paddleOCRResult raw language minConfidence = .ok result →
      (TextAgrees (raw.words.filter (paddleOCRResultMapper.keeps minConfidence)) result ↔
        LosesNothing paddleOCRResultMapper minConfidence raw.words)) :=
  ⟨fun _ _ returned => text_agrees_iff returned joint,
    fun _ _ returned => text_agrees_iff returned joint,
    fun _ _ returned => text_agrees_iff returned joint⟩

theorem scanned_spaced (scale : Rat) : (scanned scale).Spaced := rfl

/-- At a threshold of nothing no word of the scan is lost, and its text is its words'. -/
theorem scanned_text :
    (∃ result, tesseractResult (scanned 100) "ron" 0 = .ok result ∧
      LosesNothing ocrResultMapper 0 (scanned 100).words ∧
      TextAgrees ((scanned 100).words.filter (ocrResultMapper.keeps 0)) result) ∧
    (∃ result, easyOCRResult (scanned 1) ["ro"] 0 = .ok result ∧
      LosesNothing easyOCRResultMapper 0 (scanned 1).words ∧
      TextAgrees ((scanned 1).words.filter (easyOCRResultMapper.keeps 0)) result) ∧
    (∃ result, paddleOCRResult (scanned 1) "ro" 0 = .ok result ∧
      LosesNothing paddleOCRResultMapper 0 (scanned 1).words ∧
      TextAgrees ((scanned 1).words.filter (paddleOCRResultMapper.keeps 0)) result) := by
  obtain ⟨tesseract, first, _⟩ :=
    tesseract_scaled.partitions (@scanned_within 100 (by norm_num)) "ron" 0
  obtain ⟨easyOCR, second, _⟩ :=
    easyOCR_scaled.partitions (@scanned_within 1 one_pos) "ro" 0
  obtain ⟨paddleOCR, third, _⟩ :=
    paddleOCR_scaled.partitions (@scanned_within 1 one_pos) "ro" 0
  have whole : LosesNothing ocrResultMapper 0 (scanned 100).words := .inl (by decide +kernel)
  have whole' : LosesNothing easyOCRResultMapper 0 (scanned 1).words := .inl (by decide +kernel)
  have whole'' : LosesNothing paddleOCRResultMapper 0 (scanned 1).words := .inl (by decide +kernel)
  exact ⟨⟨_, first, whole,
      ((mappers_text_iff (scanned 100) 0 (scanned_spaced 100)).1 "ron" _ first).mpr whole⟩,
    ⟨_, second, whole',
      ((mappers_text_iff (scanned 1) 0 (scanned_spaced 1)).2.1 ["ro"] _ second).mpr whole'⟩,
    ⟨_, third, whole'',
      ((mappers_text_iff (scanned 1) 0 (scanned_spaced 1)).2.2 "ro" _ third).mpr whole''⟩⟩

/-- At a threshold of one half, the text still has the word that no page has. -/
theorem discarded_word_in_text :
    (scanned 100).Spaced ∧ ∃ result, tesseractResult (scanned 100) "ron" 50 = .ok result ∧
      ¬ TextAgrees ((scanned 100).words.filter (ocrResultMapper.keeps 50)) result := by
  obtain ⟨result, returned, _⟩ :=
    tesseract_scaled.partitions (@scanned_within 100 (by norm_num)) "ron" 50
  refine ⟨scanned_spaced 100, result, returned, fun agrees => ?_⟩
  have text : result.text = "Contract nr. 12" := (parts_of_result returned).1
  have kept : joined ((scanned 100).words.filter (ocrResultMapper.keeps 50)) = "Contract 12" := by
    decide +kernel
  rw [agrees.text, kept] at text
  exact absurd text (by decide)

end LexMind.Ocr.Providers
