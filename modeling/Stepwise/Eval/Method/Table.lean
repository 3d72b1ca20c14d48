import Stepwise.Eval.Argument
import Stepwise.Eval.Show

/-!
# Methods of dictionaries and sets
-/

namespace Stepwise

variable {σ : Type} (r : Runner σ)

/-- The table of a dictionary or set. -/
def tableAt (a : Address) : M σ Table := return ((← getHeap).table? a).getD .empty

/-- Changes the table of a dictionary or set. -/
def changeTableAt (a : Address) (f : Table → Table) : M σ Unit :=
  changeHeap (·.modifyTable a f)

/-! ### Dictionaries -/

/-- The entry that an item of an iterable stands for: its two items. -/
def pairOf (v : Value) : M σ (Value × Value) := do
  match ← r.iterate v with
  | [k, x] => return (k, x)
  | items => fail (.value (.pairLength items.length))

/-- The entries that a value provides: those of a dictionary, or the pairs in an iterable. -/
def entriesOf (v : Value) : M σ (List (Value × Value)) := do
  match v.address?.bind (← getHeap).dict? with
  | some t => return t.pairs
  | none => (← r.iterate v).mapM (pairOf r)

/-- Sets entries one by one. -/
def insertAll (a : Address) : List (Value × Value) → M σ Unit
  | [] => return
  | (k, v) :: es => do
    let hash ← keyOf k
    changeTableAt a (·.insert hash k v)
    insertAll a es

/-- `d.pop(key, default)`. -/
def dictPop (a : Address) (args : List Value) : M σ Value := do
  let hash ← keyOf (argument args 0)
  match (← tableAt a).value? hash with
  | some v => do
    changeTableAt a (·.erase hash)
    return v
  | none =>
    match args[1]? with
    | some v => return v
    | none => failKey r (argument args 0)

/-- `d.popitem()`. -/
def dictPopItem (a : Address) : M σ Value := do
  match (← tableAt a).pairs.getLast? with
  | some (k, v) => do
    let hash ← keyOf k
    changeTableAt a (·.erase hash)
    makeTuple [k, v]
  | none =>
    let text := "popitem(): dictionary is empty"
    fail (.key (ticked text) (.str text))

/-- `d.setdefault(key, default)`. -/
def dictSetDefault (a : Address) (args : List Value) : M σ Value := do
  let hash ← keyOf (argument args 0)
  match (← tableAt a).value? hash with
  | some v => return v
  | none => do
    changeTableAt a (·.insert hash (argument args 0) (argument args 1))
    return argument args 1

/-- A method of a dictionary. -/
def dictMethod (a : Address) (name : String) (args : List Value) : M σ Value := do
  match name with
  | "get" => do
    arity name args 1 2
    let hash ← keyOf (argument args 0)
    return ((← tableAt a).value? hash).getD (argument args 1)
  | "keys" => do
    arity name args 0 0
    makeList (← tableAt a).members
  | "values" => do
    arity name args 0 0
    makeList ((← tableAt a).pairs.map (·.2))
  | "items" => do
    arity name args 0 0
    makeList (← (← tableAt a).pairs.mapM fun e => makeTuple [e.1, e.2])
  | "pop" => do
    arity name args 1 2
    dictPop r a args
  | "popitem" => do
    arity name args 0 0
    dictPopItem a
  | "setdefault" => do
    arity name args 1 2
    dictSetDefault a args
  | "update" => do
    arity name args 0 1
    match args with
    | v :: _ => insertAll a (← entriesOf r v)
    | [] => pure ()
    return .none
  | "copy" => do
    arity name args 0 0
    make (.dict (← tableAt a))
  | "clear" => do
    arity name args 0 0
    changeTableAt a fun _ => .empty
    return .none
  | _ => fail (.noAttribute (.ofObject "dict" name))

/-! ### Sets -/

/-- The members of an iterable. -/
def setOperand (v : Value) : M σ Table := do
  match v.address?.bind (← getHeap).set? with
  | some t => return t
  | none => membersOf (← r.iterate v)

/-- Combines a table with those of some iterables, one after the other. -/
def combineAll (f : Table → Table → Table) (t : Table) (args : List Value) : M σ Table :=
  args.foldlM (fun t v => return f t (← setOperand r v)) t

/-- Adds the members of some iterables to a set. -/
def setUpdate (a : Address) : List Value → M σ Unit
  | [] => return
  | v :: vs => do
    let other ← setOperand r v
    changeTableAt a (·.union other)
    setUpdate a vs

/-- Takes a member out of a set and tells whether it was there. -/
def setDiscard (a : Address) (v : Value) : M σ Bool := do
  let hash ← keyOf v
  let found := (← tableAt a).contains hash
  changeTableAt a (·.erase hash)
  return found

/-- `s.pop()`: takes the oldest member out. -/
def setPop (a : Address) : M σ Value := do
  match (← tableAt a).members with
  | v :: _ => do
    let hash ← keyOf v
    changeTableAt a (·.erase hash)
    return v
  | [] =>
    let text := "pop from an empty set"
    fail (.key (ticked text) (.str text))

/-- A question about a set and another iterable. -/
def setQuestion (f : Table → Table → Bool) (a : Address) (v : Value) : M σ Value := do
  let own ← tableAt a
  return .bool (f own (← setOperand r v))

/-- A method of a set. -/
def setMethod (a : Address) (name : String) (args : List Value) : M σ Value := do
  let combined (f : Table → Table → Table) : M σ Value := do
    make (.set (← combineAll r f (← tableAt a) args))
  match name with
  | "add" => do
    arity name args 1 1
    let hash ← keyOf (argument args 0)
    changeTableAt a (·.add hash (argument args 0))
    return .none
  | "remove" => do
    arity name args 1 1
    if ← setDiscard a (argument args 0) then return .none else failKey r (argument args 0)
  | "discard" => do
    arity name args 1 1
    let _ ← setDiscard a (argument args 0)
    return .none
  | "pop" => do
    arity name args 0 0
    setPop a
  | "union" => combined Table.union
  | "intersection" => combined Table.intersection
  | "difference" => combined Table.difference
  | "symmetric_difference" => combined Table.symmetricDifference
  | "update" => do
    setUpdate r a args
    return .none
  | "issubset" => do
    arity name args 1 1
    setQuestion r Table.isSubset a (argument args 0)
  | "issuperset" => do
    arity name args 1 1
    setQuestion r (fun own other => other.isSubset own) a (argument args 0)
  | "isdisjoint" => do
    arity name args 1 1
    setQuestion r (fun own other => (own.intersection other).isEmpty) a (argument args 0)
  | "copy" => do
    arity name args 0 0
    make (.set (← tableAt a))
  | "clear" => do
    arity name args 0 0
    changeTableAt a fun _ => .empty
    return .none
  | _ => fail (.noAttribute (.ofObject "set" name))

end Stepwise
