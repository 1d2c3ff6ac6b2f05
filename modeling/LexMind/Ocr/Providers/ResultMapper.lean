import LexMind.Lib.Grouping
import LexMind.Python
import Mathlib.Algebra.Order.Ring.Rat
import Mathlib.Data.List.Sort

set_option autoImplicit false

/- From an engine's raw output to a normalized result, with the values of floats. -/
namespace LexMind.Ocr.Providers

open Lib

/-- Between 0 and 1. -/
def Confident (confidence : Rat) : Prop := 0 ≤ confidence ∧ confidence ≤ 1

instance (confidence : Rat) : Decidable (Confident confidence) :=
  inferInstanceAs (Decidable (0 ≤ confidence ∧ confidence ≤ 1))

/-- Recognition result for a single page. -/
structure OCRPageResult where
  pageNumber : Int
  text : String
  confidence : Rat
  counted : 0 ≤ pageNumber
  confident : Confident confidence

structure OCRResult where
  text : String
  confidence : Rat
  language : String
  provider : String
  pages : List OCRPageResult
  metadata : List (String × String)
  confident : Confident confidence

def OCRPageResult.create (pageNumber : Int) (text : String) (confidence : Rat) :
    Except PyExc OCRPageResult :=
  if counted : 0 ≤ pageNumber then
    if confident : Confident confidence then .ok ⟨pageNumber, text, confidence, counted, confident⟩
    else .error (.valueError "confidence must be between 0.0 and 1.0")
  else .error (.valueError "page_number must be non-negative")

def OCRResult.create (text : String) (confidence : Rat) (language provider : String)
    (pages : List OCRPageResult) : Except PyExc OCRResult :=
  if confident : Confident confidence then
    .ok ⟨text, confidence, language, provider, pages, [], confident⟩
  else .error (.valueError "confidence must be between 0.0 and 1.0")

/-- A recognised word, of whichever engine. -/
structure RecognisedWord where
  text : String
  confidence : Rat
  pageNumber : Int
deriving DecidableEq

structure RawOutput where
  text : String
  words : List RecognisedWord

abbrev TesseractWord := RecognisedWord

abbrev EasyOCRWord := RecognisedWord

abbrev PaddleOCRWord := RecognisedWord

abbrev TesseractRawOutput := RawOutput

abbrev EasyOCRRawOutput := RawOutput

abbrev PaddleOCRRawOutput := RawOutput

/-- `" ".join(w.text for w in words)`. -/
def joined (words : List RecognisedWord) : String :=
  " ".intercalate (words.map RecognisedWord.text)

/-- What the mappers differ in: their provider, the words they keep at a threshold, and the mean of
the words' confidences. -/
structure ResultMapper where
  providerName : String
  keeps : Rat → RecognisedWord → Bool
  meanConfidence : List RecognisedWord → Rat

namespace ResultMapper

variable (mapper : ResultMapper)

/-- The words grouped by page, one result for each page in the order of their numbers. -/
def buildPages (words : List RecognisedWord) : Except PyExc (List OCRPageResult) :=
  let byPage := group RecognisedWord.pageNumber words
  let sorted := (byPage.rows.map Prod.fst).insertionSort (fun first second => first ≤ second)
  sorted.mapM (fun pageNumber =>
    let pageWords := members byPage pageNumber
    OCRPageResult.create pageNumber (joined pageWords) (mapper.meanConfidence pageWords))

def toResult (raw : RawOutput) (language : String) (minConfidence : Rat) :
    Except PyExc OCRResult := do
  let valid := raw.words.filter (mapper.keeps minConfidence)
  let overall := mapper.meanConfidence valid
  let pages ← mapper.buildPages valid
  OCRResult.create raw.text overall language mapper.providerName pages

end ResultMapper

/-- The mean of the words' confidences, 0 where there are none. -/
def wordMean (words : List RecognisedWord) : Rat :=
  if words = [] then 0 else (words.map RecognisedWord.confidence).sum / words.length

/-- Negative confidences mark what is not text. -/
def ocrResultMapper : ResultMapper where
  providerName := "tesseract"
  keeps minConfidence word := word.confidence ≥ 0 ∧ word.confidence ≥ minConfidence
  meanConfidence words := wordMean words / 100

def easyOCRResultMapper : ResultMapper where
  providerName := "easyocr"
  keeps minConfidence word := word.confidence ≥ minConfidence
  meanConfidence := wordMean

def paddleOCRResultMapper : ResultMapper where
  providerName := "paddleocr"
  keeps minConfidence word := word.confidence ≥ minConfidence
  meanConfidence := wordMean

def tesseractResult (raw : TesseractRawOutput) (language : String) (minConfidence : Rat) :
    Except PyExc OCRResult := ocrResultMapper.toResult raw language minConfidence

/-- The first of the languages is the result's. -/
def easyOCRResult (raw : EasyOCRRawOutput) (languages : List String) (minConfidence : Rat) :
    Except PyExc OCRResult := easyOCRResultMapper.toResult raw (languages.headD "") minConfidence

def paddleOCRResult (raw : PaddleOCRRawOutput) (language : String) (minConfidence : Rat) :
    Except PyExc OCRResult := paddleOCRResultMapper.toResult raw language minConfidence

end LexMind.Ocr.Providers
