import Stepwise.Eval.Builtin.Number
import Stepwise.Eval.Builtin.Object
import Stepwise.Eval.Builtin.Sequence
import Stepwise.Eval.Method

/-!
# Calls

Calls of built-ins, and of any value: functions, methods, classes and instances that can be called.
-/

namespace Stepwise

variable {σ : Type} (r : Runner σ)

/-- Calls a built-in that has something to do with numbers, if it is one. -/
def callNumeric? (b : Builtin) (args : List Value) (keywords : Keywords) :
    Option (M σ Value) :=
  let one (f : Value → M σ Value) : Option (M σ Value) := some do f (← oneArgument b.name args)
  let two (f : Value → Value → M σ Value) : Option (M σ Value) := some do
    let (x, y) ← twoArguments b.name args
    f x y
  match b with
  | .abs => one (builtinAbs r)
  | .bin => one fun v => return .str (radixText "0b" 2 (← indexValue v))
  | .hex => one fun v => return .str (radixText "0x" 16 (← indexValue v))
  | .chr => one builtinChr
  | .ord => one builtinOrd
  | .divmod => two (builtinDivmod r)
  | .float => some do
    match ← optionalArgument b.name args with
    | none => return .float 0
    | some v => toFloat v
  | .int => some (builtinInt args keywords)
  | .pow => some (builtinPow r args)
  | .range => some (builtinRange args)
  | .round => some (builtinRound args keywords)
  | .sum => some (builtinSum r args keywords)
  | .sqrt => one mathSqrt
  | .fabs => one fun v => return .float (← realValue v).abs
  | .floor => one (mathRound Float.floor)
  | .ceil => one (mathRound Float.ceil)
  | .gcd => some (mathGcd args 0)
  | .factorial => one fun v => return .int (← lift (factorial (← indexValue v)))
  | .log => some (mathLog args)
  | .mathPow => two mathPower
  | _ => none

/-- Calls a built-in that has something to do with iterables, if it is one. -/
def callIterating? (b : Builtin) (args : List Value) (keywords : Keywords) :
    Option (M σ Value) :=
  let one (f : Value → M σ Value) : Option (M σ Value) := some do f (← oneArgument b.name args)
  match b with
  | .all => one (builtinQuantifier r false)
  | .any => one (builtinQuantifier r true)
  | .enumerate => some (builtinEnumerate r args keywords)
  | .filter => some do
    let (f, v) ← twoArguments b.name args
    builtinFilter r f v
  | .len => one fun v => return .int (← lengthOf r v)
  | .list => some (builtinCollect r b.name makeList args)
  | .tuple => some (builtinCollect r b.name makeTuple args)
  | .set => some (builtinCollect r b.name makeSet args)
  | .dict => some (builtinDict r args keywords)
  | .map => some (builtinMap r args)
  | .zip => some (builtinZip r args)
  | .max => some (builtinExtreme r true args keywords)
  | .min => some (builtinExtreme r false args keywords)
  | .reversed => one fun v => do makeList (← r.iterate v).reverse
  | .sorted => some (builtinSorted r args keywords)
  | _ => none

/-- Calls a built-in that has something to do with objects or texts. -/
def callOther (b : Builtin) (args : List Value) (keywords : Keywords) : M σ Value := do
  match b with
  | .print => builtinPrint r args keywords
  | .bool => builtinBool r args
  | .callable => do
    let v ← oneArgument b.name args
    return .bool ((← getHeap).isCallable v)
  | .format => builtinFormat r args
  | .getattr => builtinGetattr args
  | .hasattr => do
    let (v, name) ← twoArguments b.name args
    builtinHasattr v name
  | .setattr => do
    let (v, name, x) ← threeArguments b.name args
    builtinSetattr v name x
  | .id => do
    let v ← oneArgument b.name args
    r.reveal
    return .int ((← getHeap).identity v)
  | .isinstance => do
    let (v, type) ← twoArguments b.name args
    builtinIsinstance v type
  | .repr => do return .str (← r.repr (← oneArgument b.name args))
  | .str => builtinStr r args
  | .super => makeSuper args
  | .type => do
    let v ← oneArgument b.name args
    return (← getHeap).typeOf v
  | _ => fail (.unsupported .objectInstance)

/-- Calls a built-in. -/
def callBuiltin (b : Builtin) (args : List Value) (keywords : Keywords) : M σ Value :=
  if !keywords.isEmpty && !b.takesKeywords then fail (.type (.noKeywords b.name))
  else match callNumeric? r b args keywords with
    | some x => x
    | none =>
      match callIterating? r b args keywords with
      | some x => x
      | none => callOther r b args keywords

/-- Calls an object on the heap. -/
def callObject (a : Address) (args : List Value) (keywords : Keywords) : M σ Value := do
  match (← getHeap).get? a with
  | some (.func _) => callFunction r a args keywords
  | some (.boundMethod receiver function) => callFunction r function (receiver :: args) keywords
  | some (.nativeMethod receiver name) => callNative r receiver name args keywords
  | some (.cls _) => instantiate r a args keywords
  | some (.inst _) =>
    match ← callSpecialWith r (.ref a) "__call__" args keywords with
    | some v => return v
    | none => failType .notCallable (.ref a)
  | _ => failType .notCallable (.ref a)

/-- Calls a value. -/
def callValue (callee : Value) (args : List Value) (keywords : Keywords) : M σ Value :=
  match callee with
  | .builtin b => callBuiltin r b args keywords
  | .ref a => callObject r a args keywords
  | v => failType .notCallable v

/-- The function that a method call on an instance runs, if it is a plain function of the class. -/
def Heap.classFunction? (h : Heap) (v : Value) (name : String) : Option Address := do
  let i ← h.instance? (← v.address?)
  if i.attrs.contains name then none
  else do
    let (method, _) ← h.classLookup? i.cls name
    let a ← method.address?
    let _ ← h.closure? a
    return a

/-- Calls `receiver.name(…)`. -/
def callMethod (receiver : Value) (name : String) (args : List Value) (keywords : Keywords) :
    M σ Value := do
  let h ← getHeap
  if h.hasNativeMethod receiver name then callNative r receiver name args keywords
  else match h.classFunction? receiver name with
    | some a => callFunction r a (receiver :: args) keywords
    | none => callValue r (← getAttribute receiver name) args keywords

end Stepwise
