import Stepwise.Fault.Value
import Stepwise.Heap.Value

/-!
# Runtime errors

Everything that can go wrong while a script runs. Each fault belongs to one exception class of the
script language, by which a script can catch it, and has one wording, which is the text of the
exception.

## The model

A `Fault` is the cause alone; a `RuntimeError` adds where it happened. An exception raised by the
script carries the object it was raised with (`Raised`).
-/

namespace Stepwise

open Script Text

/-- An attribute that is not there. -/
inductive AttributeFault where
  | ofObject (type name : String)
  | ofClass (cls name : String)
  | ofModule (module name : String)

/-- The wording of a fault. -/
def AttributeFault.message : AttributeFault → String
  | ofObject type name => ticked type ++ " object has no attribute " ++ ticked name
  | ofClass cls name => "type object " ++ ticked cls ++ " has no attribute " ++ ticked name
  | ofModule module name => "module " ++ ticked module ++ " has no attribute " ++ ticked name

/-- A position that is not there. -/
inductive IndexFault where
  | outOfRange (kind : String)
  | assignment
  | popEmpty
  | pop
  | field (index : Nat)

/-- The wording of a fault. -/
def IndexFault.message : IndexFault → String
  | outOfRange kind => kind ++ " index out of range"
  | assignment => "list assignment index out of range"
  | popEmpty => "pop from empty list"
  | pop => "pop index out of range"
  | field index =>
    "Replacement index " ++ countText index ++ " out of range for positional args tuple"

/-- A division by zero. -/
inductive DivisionFault where
  | integer
  | integerFloor
  | integerModulo
  | float
  | floatFloor
  | floatModulo
  | power

/-- The wording of a fault. -/
def DivisionFault.message : DivisionFault → String
  | integer => "division by zero"
  | integerFloor => "integer division or modulo by zero"
  | integerModulo => "integer modulo by zero"
  | float => "float division by zero"
  | floatFloor => "float floor division by zero"
  | floatModulo => "float modulo"
  | power => "0.0 cannot be raised to a negative power"

/-- A number that is too large. -/
inductive OverflowFault where
  | integer
  | power
  | infinityToInteger

/-- The wording of a fault. -/
def OverflowFault.message : OverflowFault → String
  | integer => "integer overflow"
  | power => "(34, 'Numerical result out of range')"
  | infinityToInteger => "cannot convert float infinity to integer"

/-- Something that scripts may not do here. -/
inductive Unsupported where
  | sliceObject
  | augmentedTarget
  | assignmentTarget
  | deletionTarget
  | objectInstance
  | complexNumber
  | callWhileInspecting

/-- The wording of a fault. -/
def Unsupported.message : Unsupported → String
  | sliceObject => "slice objects are only supported inside subscripts"
  | augmentedTarget => "illegal expression for augmented assignment"
  | assignmentTarget => "cannot assign to expression"
  | deletionTarget => "cannot delete expression"
  | objectInstance => "object() instances are not supported"
  | complexNumber => "complex numbers are not supported"
  | callWhileInspecting => "user code cannot run while a frame is inspected"

/-- Something that has no meaning where it stands. -/
inductive Misplaced where
  | nonlocal
  | return_
  | reraise
  | super

/-- The wording of a fault. -/
def Misplaced.message : Misplaced → String
  | nonlocal => "nonlocal declaration not allowed at module level"
  | return_ => "'return' outside function"
  | reraise => "No active exception to reraise"
  | super => "super(): no arguments"

/-- An exception that the script has raised. -/
structure Raised where
  /-- Its class. -/
  cls : Address
  /-- The name of its class. -/
  className : String
  /-- The exception object. -/
  object : Value
  /-- Its text when it was raised. -/
  message : String

/-- What can go wrong. -/
inductive Fault where
  | undefined (name : String)
  | noAttribute (f : AttributeFault)
  | type (f : TypeFault)
  | index (f : IndexFault)
  /-- A key that is not there, with its text. -/
  | key (shown : String) (key : Value)
  | value (f : ValueFault)
  | division (f : DivisionFault)
  | overflow (f : OverflowFault)
  | recursion
  | module (name : String)
  | assertion (message : String)
  | unsupported (f : Unsupported)
  | misplaced (f : Misplaced)
  | raised (e : Raised)

namespace Fault

/-- The exception class of a fault. -/
def kind : Fault → String
  | undefined _ => "NameError"
  | noAttribute _ => "AttributeError"
  | type _ => "TypeError"
  | index _ => "IndexError"
  | key _ _ => "KeyError"
  | value _ => "ValueError"
  | division _ => "ZeroDivisionError"
  | overflow _ => "OverflowError"
  | recursion => "RecursionError"
  | module _ => "ModuleNotFoundError"
  | assertion _ => "AssertionError"
  | unsupported _ => "NotImplementedError"
  | misplaced _ => "RuntimeError"
  | raised e => e.className

/-- The wording of a fault. -/
def message : Fault → String
  | undefined name => "name " ++ ticked name ++ " is not defined"
  | noAttribute f => f.message
  | type f => f.message
  | index f => f.message
  | key shown _ => shown
  | value f => f.message
  | division f => f.message
  | overflow f => f.message
  | recursion => "maximum recursion depth exceeded"
  | module name => "No module named " ++ ticked name
  | assertion text => text
  | unsupported f => f.message
  | misplaced f => f.message
  | raised e => e.message

/-- Whether it is a missing attribute found by the machine itself. -/
def isAttribute : Fault → Bool
  | noAttribute _ => true
  | _ => false

end Fault

/-- A fault and where it happened. -/
structure RuntimeError where
  /-- What went wrong. -/
  fault : Fault
  /-- Where. -/
  pos : Pos

/-- The built-in exception classes with the class each is derived from; a class comes behind the
class it is derived from. -/
def exceptionHierarchy : List (String × Option String) :=
  [("BaseException", none),
    ("Exception", some "BaseException"),
    ("ArithmeticError", some "Exception"),
    ("ZeroDivisionError", some "ArithmeticError"),
    ("OverflowError", some "ArithmeticError"),
    ("LookupError", some "Exception"),
    ("IndexError", some "LookupError"),
    ("KeyError", some "LookupError"),
    ("ValueError", some "Exception"),
    ("TypeError", some "Exception"),
    ("NameError", some "Exception"),
    ("UnboundLocalError", some "NameError"),
    ("AttributeError", some "Exception"),
    ("RuntimeError", some "Exception"),
    ("RecursionError", some "RuntimeError"),
    ("NotImplementedError", some "RuntimeError"),
    ("AssertionError", some "Exception"),
    ("StopIteration", some "Exception"),
    ("ImportError", some "Exception"),
    ("ModuleNotFoundError", some "ImportError")]

end Stepwise
