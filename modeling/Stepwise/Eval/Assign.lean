import Stepwise.Eval.Expr

/-!
# Assignment and deletion

What `target = value` and `del target` do, for every kind of target.
-/

namespace Stepwise

open Script

variable {σ : Type} (r : Runner σ)

/-- The items of a value that is unpacked. -/
def unpackItems (v : Value) : M σ (List Value) := do
  match ← attempt (r.iterate v) with
  | .ok items => return items
  | .error e =>
    match e.fault with
    | .type _ => failType .notUnpackable v
    | _ => rethrow e

/-- The items of a value that is unpacked into `n` targets. -/
def unpack (v : Value) (n : Nat) : M σ (List Value) := do
  let items ← unpackItems r v
  if items.length > n then fail (.value (.tooManyValues n))
  else if items.length < n then fail (.value (.fewValues n items.length))
  else return items

/-- Assigns items to targets, one by one. -/
def assignAll : List Expr → List Value → M σ Unit
  | t :: ts, v :: vs => do
    r.assign t v
    assignAll ts vs
  | _, _ => return

/-- Assigns to a target. -/
def assignTarget (target : Expr) (v : Value) : M σ Unit := do
  match target with
  | .name x => assignName x v
  | .attribute object name => setAttribute (← r.eval object) name v
  | .subscript object (.slice lower upper step) => do
    let x ← r.eval object
    setSlice r x (← evalSlice r lower upper step) v
  | .subscript object index => do
    let x ← r.eval object
    setItem r x (← r.eval index) v
  | .tuple targets | .list targets => do
    let items ← unpack r v targets.length
    assignAll r targets items
  | _ => fail (.unsupported .assignmentTarget)

/-- Assigns one value to targets from left to right. -/
def assignEach (v : Value) : List Expr → M σ Unit
  | [] => return
  | t :: ts => do
    r.assign t v
    assignEach v ts

/-- Deletes targets one by one. -/
def deleteAll : List Expr → M σ Unit
  | [] => return
  | t :: ts => do
    r.run (.delete t)
    deleteAll ts

/-- Deletes a target. -/
def deleteTarget (target : Expr) : M σ Unit := do
  match target with
  | .name x => deleteName x
  | .attribute object name => deleteAttribute (← r.eval object) name
  | .subscript object (.slice lower upper step) => do
    let x ← r.eval object
    delSlice x (← evalSlice r lower upper step)
  | .subscript object index => do
    let x ← r.eval object
    delItem r x (← r.eval index)
  | .tuple targets | .list targets => deleteAll r targets
  | _ => fail (.unsupported .deletionTarget)

/-- `target op= value`. The object and index of the target are evaluated once. -/
def augmentedAssign (target : Expr) (op : BinaryOp) (value : Expr) : M σ Unit := do
  match target with
  | .name x => do
    let current ← lookupName x
    let v ← r.eval value
    assignName x (← inplaceOp r op current v)
  | .attribute object name => do
    let x ← r.eval object
    let current ← getAttribute x name
    let v ← r.eval value
    setAttribute x name (← inplaceOp r op current v)
  | .subscript _ (.slice _ _ _) => fail (.unsupported .augmentedTarget)
  | .subscript object index => do
    let x ← r.eval object
    let i ← r.eval index
    let current ← getItem r x i
    let v ← r.eval value
    setItem r x i (← inplaceOp r op current v)
  | _ => fail (.unsupported .augmentedTarget)

end Stepwise
