import LexMind.Python
import Mathlib.Data.List.Lex

set_option autoImplicit false

/- Dotted versions, their ranges, and the order these are the intervals of. -/
namespace LexMind.Plugins

/-- The digits of the Unicode database: what `str.isdigit` accepts, and the values of those that
are decimal. A superscript is a digit without such a value. -/
structure UnicodeDigits where
  isdigit : Char → Bool
  decimal : Char → Option Nat
  ascii : ∀ ch : Char, ch.toNat < 128 → isdigit ch = ch.isDigit ∧
    decimal ch = if ch.isDigit then some (ch.toNat - '0'.toNat) else none

/-- `sys.int_info.default_max_str_digits`. -/
def maxStrDigits : Nat := 4300

namespace UnicodeDigits

variable (unicode : UnicodeDigits)

/-- `int(num)` of a string without signs and blanks. -/
def int (num : List Char) : Except PyExc Nat :=
  let values := (num.map unicode.decimal).takeWhile Option.isSome
  if maxStrDigits < values.length then
    .error (.valueError ("Exceeds the limit (" ++ toString maxStrDigits ++
      " digits) for integer string conversion: value has " ++ toString values.length ++
      " digits; use sys.set_int_max_str_digits() to increase the limit"))
  else if values.length = num.length then
    .ok (values.reduceOption.foldl (fun value digit => 10 * value + digit) 0)
  else
    .error (.valueError ("invalid literal for int() with base 10: " ++
      pyRepr (String.ofList num)))

/-- The digits a token of the version starts with. -/
def parseToken (token : List Char) : Except PyExc Nat :=
  let num := token.takeWhile unicode.isdigit
  if num = [] then .ok 0 else unicode.int num

def parseVersion (version : String) : Except PyExc (List Nat) :=
  (version.toList.splitOn '.').mapM unicode.parseToken

/-- A bound that is given and that the version lies beyond. -/
def violated (beyond : List Nat → Bool) (bound : Option String) : Except PyExc Bool :=
  match bound with
  | none => .ok false
  | some given => (unicode.parseVersion given).map beyond

def versionInRange (version : String) (minimum maximum : Option String) : Except PyExc Bool := do
  let current ← unicode.parseVersion version
  let tooLow ← unicode.violated (fun parsed => current < parsed) minimum
  let tooHigh ← unicode.violated (fun parsed => parsed < current) maximum
  return !(tooLow || tooHigh)

end UnicodeDigits

structure PluginMetadata where
  minimumKernelVersion : Option String
  maximumKernelVersion : Option String

def PluginMetadata.isCompatibleKernel (unicode : UnicodeDigits) (metadata : PluginMetadata)
    (kernelVersion : String) : Except PyExc Bool :=
  unicode.versionInRange kernelVersion metadata.minimumKernelVersion metadata.maximumKernelVersion

end LexMind.Plugins
