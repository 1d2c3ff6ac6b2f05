import LexMind.Lib.Call
import LexMind.Lib.Keyed
import Mathlib.Data.List.DropRight

set_option autoImplicit false

namespace LexMind

/-- Microseconds of a UTC `datetime`. -/
abbrev Timestamp := Nat

/-- The causes of an `OSError` the modelled code meets. -/
inductive Errno
  | notFound
  | permissionDenied
  | busy
  | fileExists
  | notADirectory
  | isADirectory
  | nameTooLong
  | tooManyLinks
deriving DecidableEq, Repr

/-- The exceptions the modelled code raises, with what their constructors keep. -/
inductive PyExc
  | valueError (message : String)
  | keyError (key : String)
  | typeError (message : String)
  | attributeError (className attrName : String)
  /-- A primary key is already taken. -/
  | integrityError (table key : String)
  | entityNotFound (entityType entityId : String)
  | duplicateHandler (handler event : String)
  | stageDependency (message : String)
  | stageNotFound (message : String)
  | duplicateStage (message : String)
  | pipelineCancelled (message : String)
  | storageNotFound (uri : String)
  | storagePermissionDenied (uri operation : String)
  | invalidStorageURI (uri reason : String)
  | osError (errno : Errno) (path : String)
  | shutilError (message : String)
  | configLoad (message : String)
  | secretInConfig (message : String)
  | unknownConfigKey (message : String)
  | deprecatedConfigKey (message : String)
  | configValidation (message : String)
  | invariantViolation (invariant : String)
  | artifactValidation (artifactId reason : String)
  | artifactState (artifactId currentState operation : String)
  | artifactNotFound (artifactId : String)
  | artifactAlreadyExists (artifactId : String)
  | artifactChecksum (artifactId expected actual : String)
  | invalidTaskState (message : String)
  | taskHandlerNotFound (message : String)
  | invalidRequestState (message : String)
  | duplicateRequest (message : String)
  | runtimeError (message : String)
  | workspaceNotFound (workspaceId : String)
  | workspaceAlreadyOpen (workspaceId : String)
  | workspaceLock (workspaceId reason : String)
  | workspaceValidation (workspaceId : String) (details : List String)
  | ingestion (message : String)
  | invalidPath (message : String)
  | migration (message : String)
  | migrationVersion (expected actual : String)
  | indexError (message : String)
  | layoutAnalyzerNotFound (message : String)
  | benchmarkRunnerNotFound (message : String)
  | ocrPipelineStepNotFound (message : String)
  | ocrProviderNotFound (detail : String)
  | jobNotFound (message : String)
  | invalidJobState (message : String)
  | missingDependency (message : String)
  | circularDependency (message : String)
  | overflowError (message : String)
  /-- Whatever a registered callable raises, by its text. -/
  | callable (message : String)
deriving DecidableEq, Repr

/-- Characters `repr` escapes inside a single-quoted string. -/
def reprChar : Char → List Char
  | '\\' => ['\\', '\\']
  | '\n' => ['\\', 'n']
  | '\r' => ['\\', 'r']
  | '\t' => ['\\', 't']
  | c => [c]

/-- `repr` of a string of printable text: double quotes are used only where the
text has a single quote and no double quote. -/
def pyRepr (text : String) : String :=
  let chars := text.toList
  if '\'' ∈ chars ∧ '"' ∉ chars then
    String.ofList (['"'] ++ chars.flatMap reprChar ++ ['"'])
  else
    let quoted := chars.flatMap (fun c => if c = '\'' then ['\\', '\''] else reprChar c)
    String.ofList (['\''] ++ quoted ++ ['\''])

/-- What `str` of an `OSError` says before the path. -/
def Errno.text : Errno → String
  | notFound => "[Errno 2] No such file or directory"
  | permissionDenied => "[Errno 13] Permission denied"
  | busy => "[Errno 16] Device or resource busy"
  | fileExists => "[Errno 17] File exists"
  | notADirectory => "[Errno 20] Not a directory"
  | isADirectory => "[Errno 21] Is a directory"
  | nameTooLong => "[Errno 36] File name too long"
  | tooManyLinks => "[Errno 40] Too many levels of symbolic links"

/-- What `str(exc)` gives. -/
def PyExc.text : PyExc → String
  | valueError message => message
  | keyError key => pyRepr key
  | typeError message => message
  | attributeError className attrName =>
      "'" ++ className ++ "' object has no attribute '" ++ attrName ++ "'"
  | integrityError table key => "UNIQUE constraint failed: " ++ table ++ "." ++ key
  | entityNotFound entityType entityId => entityType ++ " '" ++ entityId ++ "' not found"
  | duplicateHandler handler event =>
      "Handler '" ++ handler ++ "' already subscribed to '" ++ event ++ "'."
  | stageDependency message => message
  | stageNotFound message => message
  | duplicateStage message => message
  | pipelineCancelled message => message
  | storageNotFound uri => "Storage object not found: " ++ uri
  | storagePermissionDenied uri operation =>
      "Permission denied for '" ++ operation ++ "' on: " ++ uri
  | invalidStorageURI uri reason =>
      "Invalid storage URI: " ++ uri ++ if reason = "" then "" else " (" ++ reason ++ ")"
  | osError errno path => errno.text ++ ": " ++ pyRepr path
  | shutilError message => message
  | configLoad message => message
  | secretInConfig message => message
  | unknownConfigKey message => message
  | deprecatedConfigKey message => message
  | configValidation message => message
  | invariantViolation invariant => "Invariant violated: " ++ invariant
  | artifactValidation artifactId reason =>
      "Artifact '" ++ artifactId ++ "' validation failed" ++ if reason = "" then "" else ": " ++ reason
  | artifactState artifactId currentState operation =>
      "Cannot " ++ operation ++ " artifact '" ++ artifactId ++ "' in state '" ++ currentState ++ "'"
  | artifactNotFound artifactId => "Artifact '" ++ artifactId ++ "' not found"
  | artifactAlreadyExists artifactId => "Artifact '" ++ artifactId ++ "' already exists"
  | artifactChecksum artifactId expected actual =>
      "Artifact '" ++ artifactId ++ "' checksum mismatch: expected " ++ expected ++ ", got " ++ actual
  | invalidTaskState message => message
  | taskHandlerNotFound message => message
  | invalidRequestState message => message
  | duplicateRequest message => message
  | runtimeError message => message
  | workspaceNotFound workspaceId => "Workspace '" ++ workspaceId ++ "' not found"
  | workspaceAlreadyOpen workspaceId => "Workspace '" ++ workspaceId ++ "' is already open"
  | workspaceLock workspaceId reason =>
      "Cannot lock workspace '" ++ workspaceId ++ "'" ++ if reason = "" then "" else ": " ++ reason
  | workspaceValidation workspaceId details =>
      "Workspace '" ++ workspaceId ++ "' validation failed" ++
        if details = [] then "" else ": " ++ "; ".intercalate details
  | ingestion message => message
  | invalidPath message => message
  | migration message => message
  | migrationVersion expected actual =>
      "Migration version mismatch: expected " ++ expected ++ ", got " ++ actual
  | indexError message => message
  | layoutAnalyzerNotFound message => message
  | benchmarkRunnerNotFound message => message
  | ocrPipelineStepNotFound message => message
  | ocrProviderNotFound detail => detail
  | jobNotFound message => message
  | invalidJobState message => message
  | missingDependency message => message
  | circularDependency message => message
  | overflowError message => message
  | callable message => message

/-- `str.isspace` of a single character. -/
def isSpace (char : Char) : Bool :=
  let code := char.toNat
  (9 ≤ code ∧ code ≤ 13) ∨ (28 ≤ code ∧ code ≤ 32) ∨ code = 0x85 ∨ code = 0xA0 ∨ code = 0x1680 ∨
    (0x2000 ≤ code ∧ code ≤ 0x200A) ∨ code = 0x2028 ∨ code = 0x2029 ∨ code = 0x202F ∨
    code = 0x205F ∨ code = 0x3000

/-- `str.strip` without arguments. -/
def strip (text : List Char) : List Char :=
  ((text.dropWhile isSpace).reverse.dropWhile isSpace).reverse

theorem strip_strip (text : List Char) : strip (strip text) = strip text := by
  have front : (strip text).dropWhile isSpace = strip text := by
    rw [List.dropWhile_eq_self_iff]
    intro nonempty
    have within : strip text <+: text.dropWhile isSpace := by
      rw [← List.reverse_suffix, strip, List.reverse_reverse]
      exact List.dropWhile_suffix isSpace
    obtain ⟨rest, split⟩ := within
    have longer : 0 < (text.dropWhile isSpace).length := by
      rw [← split, List.length_append]
      omega
    have first : (text.dropWhile isSpace)[0] = (strip text)[0] := by
      simp only [← split, List.getElem_append_left nonempty]
    rw [← first]
    exact List.dropWhile_get_zero_not isSpace text longer
  calc strip (strip text)
      = (((strip text).dropWhile isSpace).reverse.dropWhile isSpace).reverse := rfl
    _ = ((text.dropWhile isSpace).reverse.dropWhile isSpace).reverse := by
      rw [front, strip, List.reverse_reverse, List.dropWhile_idempotent]

theorem strip_eq_nil_iff (text : List Char) :
    strip text = [] ↔ ∀ char ∈ text, isSpace char = true := by
  rw [← List.dropWhile_eq_nil_iff, strip, List.reverse_eq_nil_iff]
  constructor
  · intro dropped
    have blank := List.dropWhile_eq_nil_iff.mp dropped
    by_contra left
    have first := List.head_dropWhile_not isSpace left
    rw [blank _ (List.mem_reverse.mpr (List.head_mem left))] at first
    cases first
  · intro none
    rw [none]
    rfl

def pyStrip (text : String) : String := String.ofList (strip text.toList)

theorem pyStrip_pyStrip (text : String) : pyStrip (pyStrip text) = pyStrip text := by
  rw [pyStrip, pyStrip, String.toList_ofList, strip_strip]

theorem pyStrip_eq_empty_iff (text : String) :
    pyStrip text = "" ↔ ∀ char ∈ text.toList, isSpace char = true := by
  rw [← strip_eq_nil_iff, pyStrip, ← String.toList_eq_nil_iff, String.toList_ofList]

/-- `sep.join(texts)`. -/
def pyJoin (sep : Char) (texts : List String) : String :=
  String.ofList ([sep].intercalate (texts.map String.toList))

/-- `text.split(sep)`. -/
def pySplit (sep : Char) (text : String) : List String :=
  (text.toList.splitOn sep).map String.ofList

/-- Text methods that rest on the Unicode tables. Lowering a text moves no blank and makes
none. -/
structure TextMethods where
  lower : String → String
  lower_strip : ∀ text, pyStrip (lower text) = lower (pyStrip text)
  isAlpha : String → Bool

/-- `str.lower` of ASCII text. -/
def lowerAscii (text : String) : String := String.ofList (text.toList.map Char.toLower)

theorem isSpace_toLower (char : Char) : isSpace char.toLower = isSpace char := by
  unfold Char.toLower
  split
  · rename_i upper
    have low : 65 ≤ char.val.toNat := UInt32.le_iff_toNat_le.mp upper.1
    have high : char.val.toNat ≤ 90 := UInt32.le_iff_toNat_le.mp upper.2
    have moved : (char.val + ('a'.val - 'A'.val)).toNat = char.val.toNat + 32 := by
      rw [UInt32.toNat_add]
      show (char.val.toNat + 32) % 2 ^ 32 = _
      omega
    unfold isSpace
    simp only [Char.toNat, moved, decide_eq_decide]
    omega
  · rfl

theorem strip_map {change : Char → Char} (keeps : ∀ char, isSpace (change char) = isSpace char)
    (text : List Char) : strip (text.map change) = (strip text).map change := by
  have same : isSpace ∘ change = isSpace := funext keeps
  rw [strip, List.dropWhile_map, same, ← List.map_reverse, List.dropWhile_map, same,
    ← List.map_reverse, strip]

/-- The text methods on ASCII text. -/
def asciiText : TextMethods where
  lower := lowerAscii
  lower_strip text := by
    rw [lowerAscii, lowerAscii, pyStrip, pyStrip, String.toList_ofList, String.toList_ofList,
      strip_map isSpace_toLower]
  isAlpha text := text ≠ "" ∧ text.toList.all Char.isAlpha

/-- `Enum(value)`: the member with the value. -/
def enumOf {α : Type} (className : String) (members : List α) (value : α → String)
    (text : String) : Except PyExc α :=
  match members.find? (fun member => value member = text) with
  | some member => .ok member
  | none => .error (.valueError (pyRepr text ++ " is not a valid " ++ className))

/-- A Python call: it may raise, and what it changed before raising stays. -/
abbrev Py (σ α : Type) := EStateM PyExc σ α

end LexMind
