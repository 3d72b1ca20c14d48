import Stepwise.Eval.Argument
import Stepwise.Eval.Operator

/-!
# Built-in functions of numbers
-/

namespace Stepwise

open Script Text

variable {σ : Type} (r : Runner σ)

/-- `abs(v)`. -/
def builtinAbs (v : Value) : M σ Value := do
  match v with
  | .int n => return .int (← lift (exact n.natAbs))
  | .bool b => return .int (if b then 1 else 0)
  | .float x => return .float x.abs
  | v =>
    match ← callSpecial r v "__abs__" [] with
    | some result => return result
    | none => failType (.badOperand "abs()") v

/-- An integer in another number system, with the marker of that system behind its sign. -/
def radixText (marker : String) (radix : Nat) (n : Int) : String :=
  (if n < 0 then "-" else "") ++ marker ++ natText radix n.natAbs

/-- `chr(v)`. -/
def builtinChr (v : Value) : M σ Value := do
  match Spec.character? (← indexValue v) with
  | some c => return .str c.toString
  | none => fail (.value .characterCode)

/-- `ord(v)`. -/
def builtinOrd (v : Value) : M σ Value := do
  match v with
  | .str s =>
    match s.toList with
    | [c] => return .int c.toNat
    | cs => fail (.type (.ordLength cs.length))
  | v => failType .ordType v

/-- `divmod(a, b)`. -/
def builtinDivmod (a b : Value) : M σ Value := do
  let quotient ← binaryOp r .floorDiv a b
  let remainder ← binaryOp r .mod a b
  makeTuple [quotient, remainder]

/-- `float(v)`. -/
def toFloat (v : Value) : M σ Value := do
  match v with
  | .str s => return .float (← lift (parseFloat s))
  | v =>
    match v.asFloat? with
    | some x => return .float x
    | none => failType .floatSource v

/-- The base of an `int` call given by name. -/
def intBase : Keywords → Option Int → M σ (Option Int)
  | [], base => return base
  | (key, v) :: rest, _ =>
    if key = "base" then do intBase rest (some (← indexValue v))
    else fail (.type (.badKeyword key "int"))

/-- The integer that a value stands for, a text being read in `base`. -/
def toInt (v : Value) (base : Option Int) : M σ Value := do
  match v, base with
  | .str s, base => return .int (← lift (parseInt s (base.getD 10)))
  | _, some _ => fail (.type .baseOfNumber)
  | .int n, none => return .int n
  | .bool b, none => return .int (if b then 1 else 0)
  | .float x, none => return .int (← lift (floatToInt x))
  | v, none => failType .intSource v

/-- `int(v, base)`. -/
def builtinInt (args : List Value) (keywords : Keywords) : M σ Value := do
  let base ← intBase keywords none
  match args with
  | [] => return .int 0
  | [v] => toInt v base
  | [v, b] => toInt v (some (← indexValue b))
  | args => fail (.type (.takesTwo "int" args.length))

/-- `pow(b, e)` and `pow(b, e, m)`. -/
def builtinPow (args : List Value) : M σ Value := do
  match args with
  | [b, e] => binaryOp r .pow b e
  | [b, e, m] =>
    match b.asInt?, e.asInt?, m.asInt? with
    | some b, some e, some m => return .int (← lift (modularPow b e m))
    | _, _, _ => fail (.type .powModulus)
  | args => fail (.type (.oneOf "pow" 2 3 args.length))

/-- `range(start, stop, step)`. -/
def builtinRange (args : List Value) : M σ Value := do
  let range (start stop step : Int) : M σ Value :=
    if step = 0 then fail (.value .rangeStep) else return .range start stop step
  match ← args.mapM indexValue with
  | [stop] => range 0 stop 1
  | [start, stop] => range start stop 1
  | [start, stop, step] => range start stop step
  | [] => fail (.type (.atLeast "range" 1 0))
  | ns => fail (.type (.atMost "range" 3 ns.length))

/-- The number of places of a `round` call given by name. -/
def roundDigits : Keywords → Option Value → M σ (Option Value)
  | [], digits => return digits
  | (key, v) :: rest, _ =>
    if key = "ndigits" then roundDigits rest (some v)
    else fail (.type (.badKeyword key "round"))

/-- `round(v, digits)`. -/
def builtinRound (args : List Value) (keywords : Keywords) : M σ Value := do
  let named ← roundDigits keywords none
  let (v, rest) ← firstArgument "round" args
  let digits ← match (rest.head?.or named).getD .none with
    | .none => pure none
    | d => some <$> indexValue d
  match v, digits with
  | .int n, _ => return .int n
  | .bool b, _ => return .int (if b then 1 else 0)
  | .float x, none => return .int (← lift (floatToInt (roundEven x)))
  | .float x, some d => return .float (roundPlaces x d)
  | v, _ => failType .noRound v

/-- The first summand of a `sum` call given by name. -/
def sumStart : Keywords → Value → M σ Value
  | [], start => return start
  | (key, v) :: rest, _ =>
    if key = "start" then sumStart rest v else fail (.type (.badKeyword key "sum"))

/-- `sum(items, start)`. -/
def builtinSum (args : List Value) (keywords : Keywords) : M σ Value := do
  let named ← sumStart keywords (.int 0)
  let (items, rest) ← firstArgument "sum" args
  match rest.head?.getD named with
  | .str _ => fail (.type .sumOfStrings)
  | start => (← r.iterate items).foldlM (binaryOp r .add) start

/-! ### The module `math` -/

/-- `math.sqrt(v)`. -/
def mathSqrt (v : Value) : M σ Value := do
  let x ← realValue v
  if x < 0 then fail (.value .mathDomain) else return .float x.sqrt

/-- `math.floor(v)` and `math.ceil(v)`. -/
def mathRound (f : Float → Float) (v : Value) : M σ Value := do
  match v.asInt? with
  | some n => return .int n
  | none => return .int (← lift (floatToInt (f (← realValue v))))

/-- `math.gcd(…)`; the divisor must fit after every argument. -/
def mathGcd : List Value → Int → M σ Value
  | [], g => return .int g
  | v :: vs, g => do mathGcd vs (← lift (gcdStep g (← indexValue v)))

/-- `math.log(v, base)`. -/
def mathLog (args : List Value) : M σ Value := do
  let logOf (v : Value) (bad : Float → Bool) : M σ Float := do
    let x ← realValue v
    if bad x then fail (.value .mathDomain) else return x.log
  match args with
  | [v] => return .float (← logOf v (· ≤ 0))
  | [v, base] => do
    let x ← logOf v (· ≤ 0)
    return .float (x / (← logOf base fun b => b ≤ 0 || b == 1))
  | args => fail (.type (.oneOf "log" 1 2 args.length))

/-- `math.pow(b, e)`. -/
def mathPower (b e : Value) : M σ Value := do
  let x ← realValue b
  return .float (x.pow (← realValue e))

end Stepwise
