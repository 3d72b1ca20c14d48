import Stepwise.Eval.Method.List
import Stepwise.Eval.Method.Table
import Stepwise.Eval.Method.Text
import Stepwise.Number.Integer

/-!
# Built-in methods

Calls of the methods that lists, dictionaries, sets, strings and numbers come with.
-/

namespace Stepwise

variable {σ : Type} (r : Runner σ)

/-- The built-in methods that look at keyword arguments. -/
def methodTakesKeywords (name : String) : Bool :=
  ["sort", "format", "split", "__init__"].contains name

/-- Gives an exception the arguments of its `__init__`; other instances take none of them. -/
def initInstance (a : Address) (i : Instance) (args : List Value) : M σ Value := do
  if (← getHeap).isExceptionClass i.cls then
    changeHeap (·.modifyInstance a fun i => { i with args })
  return .none

/-- A method of an object on the heap. -/
def objectMethod (a : Address) (name : String) (args : List Value) (keywords : Keywords) :
    M σ Value := do
  match (← getHeap).get? a with
  | some (.list _) => listMethod r a name args keywords
  | some (.dict _) => dictMethod r a name args
  | some (.set _) => setMethod r a name args
  | some (.inst i) =>
    if name = "__init__" then initInstance a i args else failAttribute (.ref a) name
  | _ => failAttribute (.ref a) name

/-- Calls a built-in method. -/
def callNative (receiver : Value) (name : String) (args : List Value) (keywords : Keywords) :
    M σ Value := do
  if !keywords.isEmpty && !methodTakesKeywords name then fail (.type (.noKeywords name))
  else match receiver with
    | .str s => strMethod r s name args keywords
    | .float x =>
      if name = "is_integer" then do
        arity name args 0 0
        return .bool (isInteger x)
      else failAttribute receiver name
    | .int n =>
      if name = "bit_length" then do
        arity name args 0 0
        return .int (bitLength n)
      else failAttribute receiver name
    | .ref a => objectMethod r a name args keywords
    | _ => failAttribute receiver name

end Stepwise
