import Mathlib.Data.List.Sort
import LexMind.Config.Validator

set_option autoImplicit false

namespace LexMind.Config

open Lib Lib.Nested

/-- How reading or parsing a file fails: with what the loader expects, or with another
exception. -/
inductive Failure
  | expected (message : String)
  | unexpected (exc : PyExc)
deriving DecidableEq, Repr

/-- What is used of the text methods, of the YAML parser and of the schema models, and the
order in which the set of deprecated keys is iterated. `int` raises a `ValueError`, given by its
text. -/
structure Libraries (γ : Type) where
  lower : String → String
  lower_ascii : ∀ text, (∀ char ∈ text.toList, char.toNat < 128) → lower text = lowerAscii text
  isDigit : String → Bool
  int : String → Except String Int
  safeLoad : String → Except Failure { value : Value Key Scalar // value.WellFormed }
  modelValidate : Dict Key Scalar → Except String γ
  deprecatedKeys : List String

/-- A directory: the text of the path of a file in it, and what reading the file gives where it
exists. -/
structure ConfigDir where
  str : String → String
  file : String → Option (Except Failure String)

variable {γ : Type} (libraries : Libraries γ)

section Yaml

def secretKeyHints : List String :=
  ["password", "secret", "api_key", "token", "private_key", "credential"]

/-- `hint in text`. -/
def contains (text hint : List Char) : Bool := text.tails.any (fun tail => hint.isPrefixOf tail)

/-- What `key.lower()` and the test for a hint raise at a key that is no text: bytes have a `lower`,
but hold no text. -/
def unscannable (typeName : String) : PyExc :=
  if typeName = "bytes" then .typeError "a bytes-like object is required, not 'str'"
  else .attributeError typeName "lower"

def scanSecrets (flat : Entries Key Scalar) (sourceName : String) : Except PyExc Unit :=
  flat.keys.forM (fun key =>
    match key with
    | .other typeName _ _ => .error (unscannable typeName)
    | .text content =>
        if secretKeyHints.any (fun hint =>
            contains (libraries.lower content).toList hint.toList) then
          .error (.secretInConfig ("Secret-like key '" ++ content ++ "' found in YAML source '" ++
            sourceName ++ "'. Secrets must come from environment variables or a secret provider."))
        else .ok ())

/-- A failure of an expected kind is raised as a `ConfigLoadError`. -/
def wrapFailure {α : Type} (front : String) : Except Failure α → Except PyExc α
  | .ok value => .ok value
  | .error (.expected message) => .error (.configLoad (front ++ ": " ++ message))
  | .error (.unexpected exc) => .error exc

/-- What the parsed document holds, where it is a mapping; nothing false counts. -/
def mappingOf (path : String) (parsed : { value : Value Key Scalar // value.WellFormed }) :
    Except PyExc (Dict Key Scalar) :=
  if truthy parsed.val then
    match parsed with
    | ⟨.map entries, formed⟩ => .ok ⟨entries, formed⟩
    | _ => .error (.configLoad ("Configuration in '" ++ path ++ "' must be a mapping."))
  else .ok .empty

def loadYamlSource (path : String) (content : Except Failure String) (sourceType : SourceType)
    (name : String) : Except PyExc (ConfigSource Key) := do
  let text ← wrapFailure ("Cannot read '" ++ path ++ "'") content
  let parsed ← wrapFailure ("Invalid YAML in '" ++ path ++ "'") (libraries.safeLoad text)
  let data ← mappingOf path parsed
  scanSecrets libraries (flatten (.text "") data.entries) name
  return ⟨name, sourceType, data, some path⟩

end Yaml

section Variables

def coerce (value : String) : Except PyExc Scalar :=
  if libraries.lower value = "true" ∨ libraries.lower value = "false" then
    .ok (.bool (libraries.lower value = "true"))
  else if libraries.isDigit value then
    match libraries.int value with
    | .ok number => .ok (.int number)
    | .error message => .error (.valueError message)
  else .ok (.str value)

/-- `text.split("__")`. -/
def splitParts : List Char → List (List Char)
  | '_' :: '_' :: rest => [] :: splitParts rest
  | char :: rest => (splitParts rest).modifyHead (char :: ·)
  | [] => [[]]

/-- The value is assigned at the end of the path of keys, with the maps it needs on the way.
It is evaluated after the walk and before the assignment; a walk that meets a value that is no
map fails. -/
def assign (target : Entries Key Scalar) (part : String) :
    List String → Except PyExc Scalar → Except PyExc (Entries Key Scalar)
  | [], value => do
      let content ← value
      return target.put (.text part) (.scalar content)
  | next :: rest, value =>
      match target.find? (.text part) with
      | none => do
          let inner ← assign .nil next rest value
          return target.put (.text part) (.map inner)
      | some (.map inner) => do
          let inner ← assign inner next rest value
          return target.put (.text part) (.map inner)
      | some leaf =>
          if rest = [] then do
            let _ ← value
            .error (.typeError ("'" ++ typeName leaf ++ "' object does not support item assignment"))
          else .error (.attributeError (typeName leaf) "setdefault")

/-- An assignment changes the entry of the first part. -/
theorem assign_put {target result : Entries Key Scalar} {part : String} {rest : List String}
    {value : Except PyExc Scalar} (assigned : assign target part rest value = .ok result) :
    ∃ inner, result = target.put (.text part) inner ∧
      (target.WellFormed → inner.WellFormed) := by
  induction rest generalizing target part result with
  | nil =>
      cases value with
      | error exc => cases assigned
      | ok content =>
          cases assigned
          exact ⟨_, rfl, fun _ => trivial⟩
  | cons next rest ih =>
      rw [assign] at assigned
      split at assigned
      · obtain ⟨entries, walked, same⟩ := returned_of_bind assigned
        cases same
        obtain ⟨inner, rfl, formed⟩ := ih walked
        exact ⟨_, rfl, fun _ => Entries.wellFormed_put Entries.wellFormed_nil
          (formed Entries.wellFormed_nil)⟩
      · rename_i known found
        obtain ⟨entries, walked, same⟩ := returned_of_bind assigned
        cases same
        obtain ⟨inner, rfl, formed⟩ := ih walked
        refine ⟨_, rfl, fun whole => ?_⟩
        have before : known.WellFormed := Entries.wellFormed_of_find? whole found
        exact Entries.wellFormed_put before (formed before)
      · split at assigned
        · cases value <;> cases assigned
        · cases assigned

def prefixLexmind : String := "LEXMIND_"

/-- The parts of a variable's name, where the loader takes the variable. -/
def partsOf (rawKey : String) : Option (List String) :=
  if prefixLexmind.toList.isPrefixOf rawKey.toList then
    let relative := libraries.lower (String.ofList (rawKey.toList.drop prefixLexmind.length))
    if relative = "" then none else some ((splitParts relative.toList).map String.ofList)
  else none

/-- One turn of the loop over the environment. -/
def collect (overrides : Entries Key Scalar) (entry : String × String) :
    Except PyExc (Entries Key Scalar) :=
  match partsOf libraries entry.1 with
  | some (part :: rest) => assign overrides part rest (coerce libraries entry.2)
  | _ => .ok overrides

theorem wellFormed_collect {overrides result : Entries Key Scalar} {entry : String × String}
    (formed : overrides.WellFormed) (collected : collect libraries overrides entry = .ok result) :
    result.WellFormed := by
  unfold collect at collected
  split at collected
  · obtain ⟨inner, rfl, kept⟩ := assign_put collected
    exact Entries.wellFormed_put formed (kept formed)
  · cases collected
    exact formed

theorem wellFormed_collected {overrides : Entries Key Scalar} {environ : List (String × String)}
    (collected : environ.foldlM (collect libraries) .nil = .ok overrides) :
    overrides.WellFormed :=
  foldlM_invariant (fun _ _ _ formed => wellFormed_collect libraries formed)
    Entries.wellFormed_nil collected

def loadEnvOverrides (environ : List (String × String)) : Except PyExc (ConfigSource Key) :=
  match collected : environ.foldlM (collect libraries) .nil with
  | .ok overrides =>
      .ok ⟨"env_vars", .runtime, ⟨overrides, wellFormed_collected libraries collected⟩, none⟩
  | .error exc => .error exc

end Variables

/-- `sorted` by priority, then merged from the lowest on. -/
def mergeSources {κ : Type} [DecidableEq κ] (sources : List (ConfigSource κ)) : Dict κ Scalar :=
  (sources.insertionSort (fun first second => first.priority ≤ second.priority)).foldl
    (fun merged source => deepMerge merged source.data) .empty

/-- Text methods on ASCII text, and a parser and models that accept nothing and everything. -/
def asciiLibraries : Libraries (Dict Key Scalar) where
  lower := lowerAscii
  lower_ascii _ _ := rfl
  isDigit text := text ≠ "" ∧ text.toList.all Char.isDigit
  int text := .ok (text.toList.foldl (fun value digit => 10 * value + (digit.toNat - 48)) 0)
  safeLoad _ := .error (.expected "no document")
  modelValidate := .ok
  deprecatedKeys := ["system.use_legacy_ocr", "logging.colors", "ocr.use_gpu_old"]

end LexMind.Config
