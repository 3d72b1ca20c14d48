import Stepwise.Machine.Task

/-!
# Arguments of built-ins

What built-in functions and methods ask of their arguments: how many there are, and which types
they have.
-/

namespace Stepwise

variable {σ α : Type}

/-- Fails unless a method has between `min` and `max` arguments. -/
def arity (name : String) (args : List α) (min max : Nat) : M σ Unit :=
  let n := args.length
  if min ≤ n ∧ n ≤ max then return
  else if max = 0 then fail (.type (.noArguments name n))
  else if min = max then fail (.type (.exactlyOne name n))
  else if n > max then fail (.type (.atMost name max n))
  else fail (.type (.atLeast name min n))

/-- The only argument. -/
def oneArgument (name : String) (args : List Value) : M σ Value :=
  match args with
  | [a] => return a
  | _ => fail (.type (.exactlyOne name args.length))

/-- The two arguments. -/
def twoArguments (name : String) (args : List Value) : M σ (Value × Value) :=
  match args with
  | [a, b] => return (a, b)
  | _ => fail (.type (.exactly name 2 args.length))

/-- The three arguments. -/
def threeArguments (name : String) (args : List Value) : M σ (Value × Value × Value) :=
  match args with
  | [a, b, c] => return (a, b, c)
  | _ => fail (.type (.exactly name 3 args.length))

/-- The argument that may be missing. -/
def optionalArgument (name : String) (args : List Value) : M σ (Option Value) :=
  match args with
  | [] => return none
  | [a] => return some a
  | _ => fail (.type (.atMostOne name args.length))

/-- The first argument and the others. -/
def firstArgument (name : String) (args : List Value) : M σ (Value × List Value) :=
  match args with
  | a :: as => return (a, as)
  | [] => fail (.type (.missingArgument name))

/-- The argument at a position that has been checked. -/
def argument (args : List Value) (n : Nat) : Value := args.getD n .none

/-- An integer or truth value as an integer. -/
def indexValue (v : Value) : M σ Int :=
  match v.asInt? with
  | some n => return n
  | none => failType .notInteger v

/-- A number as a double. -/
def realValue (v : Value) : M σ Float :=
  match v.asFloat? with
  | some x => return x
  | none => failType .notReal v

/-- The string that a method needs. -/
def strArgument (method : String) (v : Value) : M σ String :=
  match v with
  | .str s => return s
  | v => failType (.strArgument method) v

/-- The name of an attribute. -/
def attributeName (v : Value) : M σ String :=
  match v with
  | .str s => return s
  | v => failType .attributeName v

end Stepwise
