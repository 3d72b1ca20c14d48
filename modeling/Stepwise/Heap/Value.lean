import Stepwise.Decimal.Double

/-!
# Values

What a script computes with. Numbers, texts, tuples, ranges and built-ins are values in
themselves; everything that can be changed lives on the heap and is a value by its address.

## The model

Integers are those of 64 bits (`fits`). A tuple carries the mark it was made with: two tuples are
the same object exactly if their marks agree, however equal their items are.
-/

namespace Stepwise

/-! ### Built-in names -/

/-- A built-in function or type: those that a script finds without importing anything, and the
functions of the module `math`. -/
inductive Builtin where
  | print | abs | all | any | bin | bool | callable | chr | dict | divmod | enumerate | filter
  | float | format | getattr | hasattr | hex | id | int | isinstance | len | list | map | max
  | min | object | ord | pow | range | repr | reversed | round | set | setattr | sorted | str
  | sum | super | tuple | type | zip
  | sqrt | floor | ceil | fabs | gcd | factorial | log | mathPow
  deriving DecidableEq, Repr

namespace Builtin

/-- The name a script uses. -/
def name : Builtin → String
  | print => "print" | abs => "abs" | all => "all" | any => "any" | bin => "bin"
  | bool => "bool" | callable => "callable" | chr => "chr" | dict => "dict"
  | divmod => "divmod" | enumerate => "enumerate" | filter => "filter" | float => "float"
  | format => "format" | getattr => "getattr" | hasattr => "hasattr" | hex => "hex"
  | id => "id" | int => "int" | isinstance => "isinstance" | len => "len" | list => "list"
  | map => "map" | max => "max" | min => "min" | object => "object" | ord => "ord"
  | pow => "pow" | range => "range" | repr => "repr" | reversed => "reversed"
  | round => "round" | set => "set" | setattr => "setattr" | sorted => "sorted" | str => "str"
  | sum => "sum" | super => "super" | tuple => "tuple" | type => "type" | zip => "zip"
  | sqrt => "sqrt" | floor => "floor" | ceil => "ceil" | fabs => "fabs" | gcd => "gcd"
  | factorial => "factorial" | log => "log" | mathPow => "pow"

/-- The built-ins that every scope sees. -/
def everywhere : List Builtin :=
  [print, abs, all, any, bin, bool, callable, chr, dict, divmod, enumerate, filter, float,
    format, getattr, hasattr, hex, id, int, isinstance, len, list, map, max, min, object, ord,
    pow, range, repr, reversed, round, set, setattr, sorted, str, sum, super, tuple, type, zip]

/-- The functions of the module `math`. -/
def mathematical : List Builtin :=
  [sqrt, floor, ceil, fabs, gcd, factorial, log, mathPow]

/-- The built-in that a name stands for where no import has been made. -/
def named? (name : String) : Option Builtin :=
  everywhere.find? (·.name = name)

/-- Types, as opposed to functions. -/
def isType : Builtin → Bool
  | bool | dict | float | int | list | object | range | set | str | tuple | type | super => true
  | _ => false

/-- Built-ins whose call writes nothing, changes no object and calls no function of the
script. -/
def isPure : Builtin → Bool
  | print | setattr | map | filter | sorted | super | object => false
  | _ => true

/-- Built-ins that look at keyword arguments. -/
def takesKeywords : Builtin → Bool
  | print | sorted | max | min | dict | int | enumerate | sum | round => true
  | _ => false

end Builtin

/-! ### Values -/

/-- A place on the heap. -/
abbrev Address := Nat

/-- A value. -/
inductive Value where
  | none
  | bool (b : Bool)
  | int (n : Int)
  | float (x : Float)
  | str (s : String)
  | tuple (mark : Nat) (items : List Value)
  /-- The integers from `start` on, `step` apart, before `stop`. -/
  | range (start stop step : Int)
  | builtin (b : Builtin)
  | ref (a : Address)
  deriving Inhabited

/-- The integers that a script can hold: those of 64 bits. -/
def fits (n : Int) : Bool := -0x8000000000000000 ≤ n && n < 0x8000000000000000

/-- How many integers a range has. -/
def rangeLen (start stop step : Int) : Nat :=
  if step > 0 ∧ start < stop then ((stop - start + step - 1) / step).toNat
  else if step < 0 ∧ start > stop then ((start - stop - step - 1) / -step).toNat
  else 0

/-- A count as a script sees it: counts beyond 64 bits wrap. -/
def countOf (n : Nat) : Int := (n : Int).bmod 0x10000000000000000

namespace Value

/-- Integers, and truth values as 1 and 0. -/
def asInt? : Value → Option Int
  | int n => some n
  | bool b => some (if b then 1 else 0)
  | _ => Option.none

/-- Numbers as doubles. -/
def asFloat? : Value → Option Float
  | float x => some x
  | int n => some (Decimal.ofInt n)
  | bool b => some (if b then 1 else 0)
  | _ => Option.none

/-- The text of a string. -/
def asStr? : Value → Option String
  | str s => some s
  | _ => Option.none

/-- Where a value lives, if it lives on the heap. -/
def address? : Value → Option Address
  | ref a => some a
  | _ => Option.none

theorem address?_eq_some {v : Value} {a : Address} : v.address? = some a ↔ v = ref a := by
  cases v <;> simp [address?]

/-- Whether it is the value `None`. -/
def isNone : Value → Bool
  | none => true
  | _ => false

/-- Numbers, truth values among them. -/
def isNumber : Value → Bool
  | bool _ | int _ | float _ => true
  | _ => false

/-- Numbers and strings. -/
def isPrimitive : Value → Bool
  | bool _ | int _ | float _ | str _ => true
  | _ => false

/-- The name of the type of a value that is not on the heap. -/
def inlineTypeName? : Value → Option String
  | none => some "NoneType"
  | bool _ => some "bool"
  | int _ => some "int"
  | float _ => some "float"
  | str _ => some "str"
  | tuple _ _ => some "tuple"
  | range _ _ _ => some "range"
  | builtin b => some (if b.isType then "type" else "builtin_function_or_method")
  | ref _ => Option.none

/-- Whether two values are one object. Numbers and strings have no identity beyond their
content. -/
def identical : Value → Value → Bool
  | none, none => true
  | bool a, bool b => a == b
  | int a, int b => a == b
  | float a, float b => a.toBits == b.toBits
  | str a, str b => a == b
  | tuple a _, tuple b _ => a == b
  | builtin a, builtin b => a == b
  | ref a, ref b => a == b
  | range a b c, range a' b' c' => a == a' && b == b' && c == c'
  | _, _ => false

end Value

end Stepwise
