import Stepwise.Eval.Expr

/-!
# Raising and catching

From a value to the error that carries it, and from an error to the object that a handler sees.
-/

namespace Stepwise

open Script

variable {σ : Type} (r : Runner σ)

/-- The object that `raise v` raises: an exception class is called without arguments. -/
def raisedObject (v : Value) : M σ Value := do
  match v with
  | .ref a => if (← getHeap).isExceptionClass a then instantiate r a [] [] else return v
  | v => return v

/-- Raises a value. -/
def raiseValue (v : Value) : M σ Flow := do
  let object ← raisedObject r v
  let h ← getHeap
  match (h.classOf? object).filter h.isExceptionClass with
  | none => fail (.type .notException)
  | some cls => do
    let message ← exceptionMessage r object
    fail (.raised ⟨cls, (← getHeap).className cls, object, message⟩)

/-- `raise e`, or `raise` alone, which raises the error that is being handled once more. -/
def execRaise (e : Option Expr) : M σ Flow := do
  match e with
  | some e => raiseValue r (← r.eval e)
  | none =>
    match (← get).handled with
    | active :: _ => rethrow active
    | [] => fail (.misplaced .reraise)

/-- The class that an error is an instance of. -/
def errorClass? (m : Machine σ) (e : RuntimeError) : Option Address :=
  match e.fault with
  | .raised x => some x.cls
  | f => m.exceptions.lookup f.kind

/-- The arguments of the object that a handler sees for an error of the machine itself. -/
def faultArguments : Fault → List Value
  | .key _ key => [key]
  | f => [.str f.message]

/-- The object that a handler sees. -/
def exceptionObject (e : RuntimeError) : M σ Value := do
  match e.fault with
  | .raised x => return x.object
  | f =>
    match errorClass? (← get) e with
    | some cls => make (.inst ⟨cls, .empty, faultArguments f⟩)
    | none => return .none

mutual

/-- Whether an error is of a class, or of one of the classes in a tuple; none if something in the
way of the answer is no exception class. -/
def catches? (m : Machine σ) (e : RuntimeError) : Value → Option Bool
  | .tuple _ classes => catchesOne? m e classes
  | .ref a =>
    if m.heap.isExceptionClass a then
      some ((errorClass? m e).any (m.heap.isSubclass · a))
    else none
  | _ => none

/-- Whether an error is of one of some classes. -/
def catchesOne? (m : Machine σ) (e : RuntimeError) : List Value → Option Bool
  | [] => some false
  | c :: cs =>
    match catches? m e c with
    | some false => catchesOne? m e cs
    | answer => answer

end

/-- Whether a handler takes an error. -/
def matchesFilter (e : RuntimeError) (filter : Option Expr) : M σ Bool := do
  match filter with
  | none => return true
  | some expr => do
    let spec ← r.eval expr
    match catches? (← get) e spec with
    | some b => return b
    | none => fail (.type .notCatchable)

end Stepwise
