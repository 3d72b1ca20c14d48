import Stepwise.Fault.Type
import Stepwise.Text.Quoted

/-!
# Faults of value

What an operation answers to a value of the right type that it cannot work with, and the wording
of it.
-/

namespace Stepwise

open Text

/-- A value that an operation cannot work with. -/
inductive ValueFault where
  -- Numbers
  | characterCode
  | mathDomain
  | factorial
  | nanToInteger
  | integerText (base : Int) (text : String)
  | integerBase
  | floatText (text : String)
  | powModulus
  | powInverse
  | negativeShift
  | negativeLength
  -- Sequences
  | rangeStep
  | emptyExtreme (callee : String)
  | pairLength (length : Nat)
  | emptySeparator
  | substring
  | notInList (shown : String)
  | removeMissing
  | tooManyValues (expected : Nat)
  | fewValues (expected got : Nat)
  | sliceStep
  | sliceSize (given size : Nat)
  -- Formats
  | conversion (c : Char)
  | formatSpec
  | formatCode (kind : Char) (type : String)
  | stringAlignment
  | integerPrecision
  | incompleteFormat
  | percentCharacter (c : Char)
  | loneClosing
  | loneOpening
  | toAutomatic
  | toManual
  | unclosedIndex
  | accessor

/-- The wording of a fault. -/
def ValueFault.message : ValueFault → String
  | .characterCode => "chr() arg not in range(0x110000)"
  | .mathDomain => "math domain error"
  | .factorial => "factorial() not defined for negative values"
  | .nanToInteger => "cannot convert float NaN to integer"
  | .integerText base text =>
    "invalid literal for int() with base " ++ intText base ++ ": " ++ literal text
  | .integerBase => "int() base must be >= 2 and <= 36, or 0"
  | .floatText text => "could not convert string to float: " ++ literal text
  | .powModulus => "pow() 3rd argument cannot be 0"
  | .powInverse => "base is not invertible for the given modulus"
  | .negativeShift => "negative shift count"
  | .negativeLength => "__len__() should return >= 0"
  | .rangeStep => "range() arg 3 must not be zero"
  | .emptyExtreme callee => callee ++ "() arg is an empty sequence"
  | .pairLength length =>
    "dictionary update sequence element has length " ++ countText length ++ "; 2 is required"
  | .emptySeparator => "empty separator"
  | .substring => "substring not found"
  | .notInList shown => shown ++ " is not in list"
  | .removeMissing => "list.remove(x): x not in list"
  | .tooManyValues expected => "too many values to unpack (expected " ++ countText expected ++ ")"
  | .fewValues expected got =>
    "not enough values to unpack (expected " ++ countText expected ++ ", got " ++ countText got
      ++ ")"
  | .sliceStep => "slice step cannot be zero"
  | .sliceSize given size =>
    "attempt to assign sequence of size " ++ countText given ++ " to extended slice of size "
      ++ countText size
  | .conversion c => "Unknown conversion specifier " ++ c.toString
  | .formatSpec => "Invalid format specifier"
  | .formatCode kind type =>
    "Unknown format code " ++ ticked kind.toString ++ " for object of type " ++ ticked type
  | .stringAlignment => "'=' alignment not allowed in string format specifier"
  | .integerPrecision => "Precision not allowed in integer format specifier"
  | .incompleteFormat => "incomplete format"
  | .percentCharacter c =>
    "unsupported format character " ++ ticked c.toString ++ " (0x" ++ natText 16 c.toNat ++ ")"
  | .loneClosing => "Single '\x7d' encountered in format string"
  | .loneOpening => "Single '\x7b' encountered in format string"
  | .toAutomatic =>
    "cannot switch from manual field specification to automatic field numbering"
  | .toManual =>
    "cannot switch from automatic field numbering to manual field specification"
  | .unclosedIndex => "Missing ']' in format string"
  | .accessor => "Only '.' or '[' may follow ']' in format field specifier"

end Stepwise
