import Stepwise.Script.Tree
import Stepwise.Text.Class

/-!
# Faults of type

What an operation answers to a value of the wrong type and to a wrong number of arguments, and the
wording of it. Types are given by their names.
-/

namespace Stepwise

open Script Text

/-- A number in a message. -/
def countText (n : Nat) : String := natText 10 n

/-- A name between single quotes. -/
def ticked (s : String) : String := "'" ++ s ++ "'"

/-- The ending of a noun that stands for `n` things. -/
def pluralEnd (n : Nat) : String := if n = 1 then "" else "s"

/-- Something done to a value whose type does not provide it. -/
inductive TypeFault where
  -- Arguments of built-ins
  | noKeywords (callee : String)
  | badKeyword (key callee : String)
  | noArguments (callee : String) (given : Nat)
  | exactlyOne (callee : String) (given : Nat)
  | exactly (callee : String) (count given : Nat)
  | oneOf (callee : String) (low high given : Nat)
  | atMostOne (callee : String) (given : Nat)
  | atMost (callee : String) (max given : Nat)
  | atLeast (callee : String) (min given : Nat)
  | takesTwo (callee : String) (given : Nat)
  | missingArgument (callee : String)
  | mapArguments
  | printOption (key type : String)
  | strArgument (callee type : String)
  | formatArgument (type : String)
  | attributeName (type : String)
  | fillCharacter
  | notInteger (type : String)
  | notReal (type : String)
  | badOperand (operation type : String)
  | ordType (type : String)
  | ordLength (length : Nat)
  | sumOfStrings
  | baseOfNumber
  | intSource (type : String)
  | floatSource (type : String)
  | noRound (type : String)
  | powModulus
  | noLength (type : String)
  | classInfo
  -- Calls
  | notCallable (type : String)
  | notFunction
  | surplus (callee : String) (required params given : Nat)
  | multipleValues (callee key : String)
  | unexpectedKeyword (callee key : String)
  | missing (callee : String) (params : List String)
  | starArgument (type : String)
  | initResult (type : String)
  | takesNone (cls : String)
  | superClass
  | classBase (type : String)
  -- Containers
  | unhashable (type : String)
  | notIterable (type : String)
  | notIterator (type : String)
  | notContainer (type : String)
  | notUnpackable (type : String)
  | stringItem (index : Nat) (type : String)
  | separator (type : String)
  | inString (type : String)
  | stringIndex (type : String)
  | sequenceIndex (kind type : String)
  | notSubscriptable (type : String)
  | noItemAssignment (type : String)
  | noItemDeletion (type : String)
  | sliceBound
  | sliceSource
  -- Operators
  | concatenate (left right : String)
  | operands (op : BinaryOp) (left right : String)
  | notOrdered (op : CompareOp) (left right : String)
  -- Texts and truth
  | nonString (method type : String)
  | nonBool (type : String)
  | fewFormatArguments
  | manyFormatArguments
  | percentNumber (kind : Char) (type : String)
  -- Exceptions
  | notException
  | notCatchable
  deriving Repr

/-- Names in a sentence: `a`, `a and b`, `a, b, and c`. -/
def enumeration : List String → String
  | [] => ""
  | [a] => a
  | [a, b] => a ++ " and " ++ b
  | names => String.intercalate ", " names.dropLast ++ ", and " ++ names.getLastD ""

namespace TypeFault

/-- The wording of faults in the arguments of a call. -/
def callMessage? : TypeFault → Option String
  | noKeywords callee => some <| callee ++ "() takes no keyword arguments"
  | badKeyword key callee =>
    some <| ticked key ++ " is an invalid keyword argument for " ++ callee ++ "()"
  | noArguments callee given =>
    some <| callee ++ "() takes no arguments (" ++ countText given ++ " given)"
  | exactlyOne callee given =>
    some <| callee ++ "() takes exactly one argument (" ++ countText given ++ " given)"
  | exactly callee count given =>
    some <| callee ++ " expected " ++ countText count ++ " arguments, got " ++ countText given
  | oneOf callee low high given =>
    some <| callee ++ " expected " ++ countText low ++ " or " ++ countText high
      ++ " arguments, got " ++ countText given
  | atMostOne callee given =>
    some <| callee ++ " expected at most 1 argument, got " ++ countText given
  | atMost callee max given =>
    some <| callee ++ " expected at most " ++ countText max ++ " arguments, got " ++ countText given
  | atLeast callee min given =>
    some <| callee ++ " expected at least " ++ countText min ++ " argument" ++ pluralEnd min
      ++ ", got " ++ countText given
  | takesTwo callee given =>
    some <| callee ++ "() takes at most 2 arguments (" ++ countText given ++ " given)"
  | missingArgument callee => some <| callee ++ "() missing required argument"
  | mapArguments => some "map() must have at least two arguments."
  | notCallable type => some <| ticked type ++ " object is not callable"
  | notFunction => some "object is not a function"
  | surplus callee required params given =>
    let takes :=
      if required = params then countText params
      else "from " ++ countText required ++ " to " ++ countText params
    some <| callee ++ "() takes " ++ takes ++ " positional argument" ++ pluralEnd params ++ " but "
      ++ countText given ++ (if given = 1 then " was" else " were") ++ " given"
  | multipleValues callee key =>
    some <| callee ++ "() got multiple values for argument " ++ ticked key
  | unexpectedKeyword callee key =>
    some <| callee ++ "() got an unexpected keyword argument " ++ ticked key
  | missing callee params =>
    some <| callee ++ "() missing " ++ countText params.length ++ " required positional argument"
      ++ pluralEnd params.length ++ ": " ++ enumeration (params.map ticked)
  | starArgument type => some <| "Value after * must be an iterable, not " ++ type
  | initResult type => some <| "__init__() should return None, not " ++ ticked type
  | takesNone cls => some <| cls ++ "() takes no arguments"
  | superClass => some "super() argument 1 must be a type"
  | classBase type => some <| "class base must be a class, not " ++ ticked type
  | _ => none

/-- The wording of faults in an argument of a built-in. -/
def argumentMessage? : TypeFault → Option String
  | printOption key type => some <| key ++ " must be None or a string, not " ++ type
  | strArgument callee type => some <| callee ++ "() argument must be str, not " ++ type
  | formatArgument type => some <| "format() argument 2 must be str, not " ++ type
  | attributeName type => some <| "attribute name must be string, not " ++ ticked type
  | fillCharacter => some "The fill character must be exactly one character long"
  | notInteger type => some <| ticked type ++ " object cannot be interpreted as an integer"
  | notReal type => some <| "must be real number, not " ++ type
  | badOperand operation type => some <| "bad operand type for " ++ operation ++ ": " ++ ticked type
  | ordType type => some <| "ord() expected string of length 1, but " ++ type ++ " found"
  | ordLength length =>
    some <| "ord() expected a character, but string of length " ++ countText length ++ " found"
  | sumOfStrings => some "sum() can't sum strings [use ''.join(seq) instead]"
  | baseOfNumber => some "int() can't convert non-string with explicit base"
  | intSource type =>
    some <| "int() argument must be a string, a bytes-like object or a real number, not "
      ++ ticked type
  | floatSource type => some <| "float() argument must be a string or a real number, not "
      ++ ticked type
  | noRound type => some <| "type " ++ type ++ " doesn't define __round__ method"
  | powModulus => some "pow() 3rd argument not allowed unless all arguments are integers"
  | noLength type => some <| "object of type " ++ ticked type ++ " has no len()"
  | classInfo => some "isinstance() arg 2 must be a type, a tuple of types, or a union"
  | _ => none

/-- The wording of faults in the use of containers. -/
def containerMessage? : TypeFault → Option String
  | unhashable type => some <| "unhashable type: " ++ ticked type
  | notIterable type => some <| ticked type ++ " object is not iterable"
  | notIterator type => some <| "iter() returned non-iterator of type " ++ ticked type
  | notContainer type => some <| "argument of type " ++ ticked type ++ " is not iterable"
  | notUnpackable type => some <| "cannot unpack non-iterable " ++ type ++ " object"
  | stringItem index type =>
    some <| "sequence item " ++ countText index ++ ": expected str instance, " ++ type ++ " found"
  | separator type => some <| "must be str or None, not " ++ type
  | inString type => some <| "'in <string>' requires string as left operand, not " ++ type
  | stringIndex type => some <| "string indices must be integers, not " ++ ticked type
  | sequenceIndex kind type => some <| kind ++ " indices must be integers or slices, not " ++ type
  | notSubscriptable type => some <| ticked type ++ " object is not subscriptable"
  | noItemAssignment type => some <| ticked type ++ " object does not support item assignment"
  | noItemDeletion type => some <| ticked type ++ " object doesn't support item deletion"
  | sliceBound => some "slice indices must be integers or None or have an __index__ method"
  | sliceSource => some "can only assign an iterable"
  | _ => none

/-- The wording of faults of operators, texts and exceptions. -/
def operatorMessage : TypeFault → String
  | concatenate left right =>
    "can only concatenate " ++ left ++ " (not \"" ++ right ++ "\") to " ++ left
  | operands op left right =>
    "unsupported operand type(s) for " ++ op.symbol ++ ": " ++ ticked left ++ " and "
      ++ ticked right
  | notOrdered op left right =>
    ticked op.symbol ++ " not supported between instances of " ++ ticked left ++ " and "
      ++ ticked right
  | nonString method type => method ++ " returned non-string (type " ++ type ++ ")"
  | nonBool type => "__bool__ should return bool, returned " ++ type
  | fewFormatArguments => "not enough arguments for format string"
  | manyFormatArguments => "not all arguments converted during string formatting"
  | percentNumber kind type =>
    "%" ++ kind.toString ++ " format: a real number is required, not " ++ type
  | notException => "exceptions must derive from BaseException"
  | _ => "catching classes that do not inherit from BaseException is not allowed"

/-- The wording of a fault. -/
def message (f : TypeFault) : String :=
  ((callMessage? f).or (argumentMessage? f) |>.or (containerMessage? f)).getD (operatorMessage f)

end TypeFault

end Stepwise
