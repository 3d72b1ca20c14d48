import Stepwise.Eval.Argument
import Stepwise.Eval.Write
import Stepwise.Heap.Identity

/-!
# Built-in functions of objects and texts
-/

namespace Stepwise

variable {σ : Type} (r : Runner σ)

/-! ### Attributes -/

/-- The attribute of a value, or none if the value has no such attribute. -/
def attribute? (v : Value) (name : String) : M σ (Option Value) := do
  match ← attempt (getAttribute v name) with
  | .ok x => return some x
  | .error e => if e.fault.isAttribute then return none else rethrow e

/-- `getattr(v, name, default)`. -/
def builtinGetattr (args : List Value) : M σ Value := do
  match args with
  | [v, name] => getAttribute v (← attributeName name)
  | [v, name, default] => return (← attribute? v (← attributeName name)).getD default
  | args => fail (.type (.oneOf "getattr" 2 3 args.length))

/-- `hasattr(v, name)`. -/
def builtinHasattr (v name : Value) : M σ Value := do
  return .bool (← attribute? v (← attributeName name)).isSome

/-- `setattr(v, name, x)`. -/
def builtinSetattr (v name x : Value) : M σ Value := do
  setAttribute v (← attributeName name) x
  return .none

/-- `isinstance(v, type)`. -/
def builtinIsinstance (v type : Value) : M σ Value := do
  match (← getHeap).isOfType? v type with
  | some b => return .bool b
  | none => fail (.type .classInfo)

/-! ### Texts -/

/-- `str(v)`. -/
def builtinStr (args : List Value) : M σ Value := do
  match ← optionalArgument "str" args with
  | none => return .str ""
  | some v => return .str (← r.str v)

/-- `bool(v)`. -/
def builtinBool (args : List Value) : M σ Value := do
  match ← optionalArgument "bool" args with
  | none => return .bool false
  | some v => return .bool (← truthy r v)

/-- `format(v, spec)`. -/
def builtinFormat (args : List Value) : M σ Value := do
  let (v, rest) ← firstArgument "format" args
  match rest with
  | [] => return .str (← write r [] v)
  | .str spec :: _ => return .str (← write r spec.toList v)
  | other :: _ => failType .formatArgument other

/-! ### Printing -/

/-- The text of a print option; none means the usual one. -/
def printText (key : String) (v : Value) : M σ (Option String) :=
  match v with
  | .none => return none
  | .str s => return some s
  | v => failType (.printOption key) v

/-- The separator and the end of a line that is printed. -/
def printOptions : Keywords → String → String → M σ (String × String)
  | [], sep, stop => return (sep, stop)
  | (key, v) :: rest, sep, stop => do
    let text ← printText key v
    match key with
    | "sep" => printOptions rest (text.getD " ") stop
    | "end" => printOptions rest sep (text.getD "\n")
    | "flush" | "file" => printOptions rest sep stop
    | _ => fail (.type (.badKeyword key "print"))

/-- `print(…)`. Nothing is printed before all values have been turned into text. -/
def builtinPrint (args : List Value) (keywords : Keywords) : M σ Value := do
  let (sep, stop) ← printOptions keywords " " "\n"
  let texts ← args.mapM r.str
  emit (String.intercalate sep texts ++ stop)
  return .none

end Stepwise
