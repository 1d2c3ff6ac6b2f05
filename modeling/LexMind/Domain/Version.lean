import LexMind.Lib.Numeral
import LexMind.Lib.Regex
import LexMind.Plugins.PluginVersion

set_option autoImplicit false

namespace LexMind.Domain

open Lib Plugins

/-- Characters that `\d` matches, with their values. -/
structure DecimalDigits extends UnicodeDigits where
  decimal_lt : ∀ ch value, decimal ch = some value → value < 10
  decimal_not_space : ∀ ch value, decimal ch = some value → isSpace ch = false

namespace Semver

variable (unicode : DecimalDigits)

def char (ch : Char) : Regex Char := .one (fun other => other = ch)

/-- `0|[1-9]\d*`. -/
def numeral : Regex Char :=
  .alt (char '0')
    (.seq (.one (fun ch => ch.isDigit && ch ≠ '0'))
      (.star (.one (fun ch => (unicode.decimal ch).isSome))))

def alphanumeric (ch : Char) : Bool := ch.isAlphanum || ch = '-'

/-- `0|[1-9]\d*|\d*[a-zA-Z-][0-9a-zA-Z-]*`. -/
def identifier : Regex Char :=
  .alt (numeral unicode)
    (.seq (.star (.one (fun ch => (unicode.decimal ch).isSome)))
      (.seq (.one (fun ch => ch.isAlpha || ch = '-')) (.star (.one alphanumeric))))

def preRelease : Regex Char :=
  .seq (char '-') (.seq (identifier unicode) (.star (.seq (char '.') (identifier unicode))))

def build : Regex Char :=
  .seq (char '+')
    (.seq (.plus (.one alphanumeric)) (.star (.seq (char '.') (.plus (.one alphanumeric)))))

/-- The pattern between `^` and `$`. -/
def semver : Regex Char :=
  .seq (numeral unicode) (.seq (char '.') (.seq (numeral unicode) (.seq (char '.')
    (.seq (numeral unicode) (.seq (.opt (preRelease unicode)) (.opt build))))))

end Semver

/-- A version as its constructor accepts it. -/
structure Version (unicode : DecimalDigits) where
  value : String
  accepted : (Semver.semver unicode).acceptsLine '\n' value.toList = true

/-- `int(text)`, of a text without signs and underscores. -/
def readInt (unicode : DecimalDigits) (text : List Char) : Except PyExc Nat :=
  let num := strip text
  let digits := num.takeWhile (fun ch => (unicode.decimal ch).isSome)
  if maxStrDigits < digits.length then
    .error (.valueError ("Exceeds the limit (" ++ toString maxStrDigits ++
      " digits) for integer string conversion: value has " ++ toString digits.length ++
      " digits; use sys.set_int_max_str_digits() to increase the limit"))
  else if digits = num ∧ num ≠ [] then .ok (Numeral.number unicode.decimal num)
  else
    .error (.valueError ("invalid literal for int() with base 10: " ++
      pyRepr (String.ofList text)))

/-- `str(number)`. -/
def writeInt (number : Nat) : Except PyExc (List Char) :=
  let digits := Nat.toDigits 10 number
  if maxStrDigits < digits.length then
    .error (.valueError ("Exceeds the limit (" ++ toString maxStrDigits ++
      " digits) for integer string conversion; use sys.set_int_max_str_digits() to increase " ++
      "the limit"))
  else .ok digits

namespace Version

variable {unicode : DecimalDigits}

/-- `Version(value)`. -/
def construct (unicode : DecimalDigits) (value : String) : Except PyExc (Version unicode) :=
  if accepted : (Semver.semver unicode).acceptsLine '\n' value.toList = true then
    .ok ⟨value, accepted⟩
  else .error (.invariantViolation "Version must be a valid SemVer 2.0.0 string")

/-- `int(self.value.split(".")[index])`. -/
def component (version : Version unicode) (index : Nat) : Except PyExc Nat :=
  match (version.value.toList.splitOn '.')[index]? with
  | some piece => readInt unicode piece
  | none => .error (.indexError "list index out of range")

def major (version : Version unicode) : Except PyExc Nat := version.component 0

def minor (version : Version unicode) : Except PyExc Nat := version.component 1

def patch (version : Version unicode) : Except PyExc Nat := version.component 2

def nextMajor (version : Version unicode) : Except PyExc (Version unicode) := do
  let major ← writeInt ((← version.major) + 1)
  construct unicode (String.ofList (major ++ ".0.0".toList))

def nextMinor (version : Version unicode) : Except PyExc (Version unicode) := do
  let major ← writeInt (← version.major)
  let minor ← writeInt ((← version.minor) + 1)
  construct unicode (String.ofList (major ++ '.' :: minor ++ ".0".toList))

def nextPatch (version : Version unicode) : Except PyExc (Version unicode) := do
  let major ← writeInt (← version.major)
  let minor ← writeInt (← version.minor)
  let patch ← writeInt ((← version.patch) + 1)
  construct unicode (String.ofList (major ++ '.' :: minor ++ '.' :: patch))

end Version

end LexMind.Domain
