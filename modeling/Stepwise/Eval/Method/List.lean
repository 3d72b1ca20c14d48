import Stepwise.Eval.Argument
import Stepwise.Eval.Sort

/-!
# Methods of lists
-/

namespace Stepwise

variable {σ : Type} (r : Runner σ)

/-- The items of a list. -/
def listItems (a : Address) : M σ (Array Value) := return ((← getHeap).list? a).getD #[]

/-- Changes the items of a list. -/
def changeList (a : Address) (f : Array Value → Array Value) : M σ Unit :=
  changeHeap (·.modifyList a f)

/-- The position of the first item equal to a value, counted from `n`. -/
def positionOf (v : Value) : (n : Nat) → List Value → M σ (Option Nat)
  | _, [] => return none
  | n, x :: xs => do if ← r.equals x v then return some n else positionOf v (n + 1) xs

/-- How many items equal a value, and `n` more. -/
def countOfEqual (v : Value) : (n : Nat) → List Value → M σ Nat
  | n, [] => return n
  | n, x :: xs => do countOfEqual v (if ← r.equals x v then n + 1 else n) xs

/-- A position among `len` items, one below zero counted from the end, moved to the nearest end if
it is outside. -/
def clampPosition (len : Nat) (n : Int) : Nat :=
  if n < 0 then (n + len).toNat else (min n len).toNat

/-- `items.insert(index, v)`. -/
def listInsert (a : Address) (index v : Value) : M σ Value := do
  let n ← indexValue index
  changeList a fun items => items.insertIdxIfInBounds (clampPosition items.size n) v
  return .none

/-- `items.pop(index)`. -/
def listPop (a : Address) (args : List Value) : M σ Value := do
  let n ← match args with
    | v :: _ => indexValue v
    | [] => pure (-1)
  let items ← listItems a
  if items.isEmpty then fail (.index .popEmpty)
  else
    let n := if n < 0 then n + items.size else n
    match if n < 0 then none else items[n.toNat]? with
    | none => fail (.index .pop)
    | some v => do
      changeList a (·.eraseIdxIfInBounds n.toNat)
      return v

/-- `items.remove(v)`. The comparisons may run functions of the script, which may change the list:
what goes is whatever is at the position then, and the run breaks off if there is nothing. -/
def listRemove (a : Address) (v : Value) : M σ Value := do
  match ← positionOf r v 0 (← listItems a).toList with
  | some n => do
    if n < (← listItems a).size then
      changeList a (·.eraseIdxIfInBounds n)
      return .none
    else breakOff
  | none => fail (.value .removeMissing)

/-- `items.index(v, start, stop)`. -/
def listIndex (a : Address) (args : List Value) : M σ Value := do
  let items := (← listItems a).toList
  let bound (n : Nat) (default : Nat) : M σ Nat := match args[n]? with
    | some v => return clampPosition items.length (← indexValue v)
    | none => return default
  let start ← bound 1 0
  let stop ← bound 2 items.length
  let v := argument args 0
  match ← positionOf r v start ((items.drop start).take (stop - start)) with
  | some n => return .int n
  | none => fail (.value (.notInList (← r.repr v)))

/-- A method of a list. -/
def listMethod (a : Address) (name : String) (args : List Value) (keywords : Keywords) :
    M σ Value := do
  match name with
  | "append" => do
    arity name args 1 1
    changeList a (·.push (argument args 0))
    return .none
  | "extend" => do
    arity name args 1 1
    let more ← r.iterate (argument args 0)
    changeList a (· ++ more)
    return .none
  | "insert" => do
    arity name args 2 2
    listInsert a (argument args 0) (argument args 1)
  | "pop" => do
    arity name args 0 1
    listPop a args
  | "remove" => do
    arity name args 1 1
    listRemove r a (argument args 0)
  | "index" => do
    arity name args 1 3
    listIndex r a args
  | "count" => do
    arity name args 1 1
    return .int (← countOfEqual r (argument args 0) 0 (← listItems a).toList)
  | "reverse" => do
    arity name args 0 0
    changeList a Array.reverse
    return .none
  | "sort" => do
    arity name args 0 0
    let (key, reverse) ← sortOptions r name keywords none false
    let sorted ← sortValues r (← listItems a).toList key reverse
    changeList a fun _ => sorted.toArray
    return .none
  | "copy" => do
    arity name args 0 0
    makeList (← listItems a).toList
  | "clear" => do
    arity name args 0 0
    changeList a fun _ => #[]
    return .none
  | _ => fail (.noAttribute (.ofObject "list" name))

end Stepwise
