import Stepwise.Eval.Iterate
import Stepwise.Eval.Show
import Stepwise.Number.Range

/-!
# Items and slices

Reading, writing and deleting `object[index]` and `object[lower:upper:step]`. A negative index
counts from the end.
-/

namespace Stepwise

open Script

variable {σ : Type} (r : Runner σ)

/-- What indexing does with a value that is no string, tuple or range. -/
inductive Indexed where
  | list (items : Array Value)
  | dict (table : Table)
  | instance_
  | other

/-- What indexing does with a value. -/
def Heap.indexed (h : Heap) (v : Value) : Indexed :=
  match h.object? v with
  | some (.list items) => .list items
  | some (.dict t) => .dict t
  | some (.inst _) => .instance_
  | _ => .other

/-- The position that an index means in a sequence of `len` items; `kind` names the sequence. -/
def position (kind : String) (index : Value) (len : Nat) : M σ Nat := do
  match index.asInt? with
  | none =>
    if kind = "string" then failType .stringIndex index
    else failType (.sequenceIndex kind) index
  | some n =>
    let n := if n < 0 then n + countOf len else n
    if n < 0 ∨ n ≥ countOf len then fail (.index (.outOfRange kind)) else return n.toNat

/-- The position that an index means in a list that is changed there. -/
def changedPosition (index : Value) (len : Nat) : M σ Nat := do
  match ← attempt (position "list" index len) with
  | .ok n => return n
  | .error e =>
    match e.fault with
    | .index _ => fail (.index .assignment)
    | _ => rethrow e

/-- The item at a position that is there. -/
def itemAt (items : Array Value) (n : Nat) : Value := items.getD n .none

/-! ### Reading -/

/-- The entry of a dictionary. -/
def getEntry (t : Table) (key : Value) : M σ Value := do
  match t.value? (← keyOf key) with
  | some v => return v
  | none => failKey r key

/-- `object[index]` of a value on the heap. -/
def getObjectItem (v index : Value) : M σ Value := do
  match (← getHeap).indexed v with
  | .list items => return itemAt items (← position "list" index items.size)
  | .dict t => getEntry r t index
  | .instance_ =>
    match ← callSpecial r v "__getitem__" [index] with
    | some x => return x
    | none => failType .notSubscriptable v
  | .other => failType .notSubscriptable v

/-- `object[index]`. -/
def getItem (v index : Value) : M σ Value := do
  match v with
  | .str s =>
    let cs := s.toList.toArray
    let n ← position "string" index cs.size
    return .str (cs.getD n ' ').toString
  | .tuple _ items => return itemAt items.toArray (← position "tuple" index items.length)
  | .range start stop step =>
    let n ← position "range object" index (rangeLen start stop step)
    return .int (← enough (rangeItem? start step n))
  | v => getObjectItem r v index

/-- `object[slice]`. A slice of a range is a list. -/
def getSlice (v : Value) (s : Slice) : M σ Value := do
  match v with
  | .str text => return .str (String.ofList (← enough (s.pick text.toList.toArray)))
  | .tuple _ items => makeTuple (← enough (s.pick items.toArray))
  | .range start stop step =>
    let picked ← enough (s.positions (rangeLen start stop step))
    makeList ((← enough (picked.mapM (rangeItem? start step))).map .int)
  | v =>
    match (← getHeap).indexed v with
    | .list items => makeList (← enough (s.pick items))
    | _ => failType .notSubscriptable v

/-- A bound of a slice. -/
def sliceBound : Option Expr → M σ (Option Int)
  | none => return none
  | some e => do
    match ← r.eval e with
    | .none => return none
    | v =>
      match v.asInt? with
      | some n => return some n
      | none => fail (.type .sliceBound)

/-- The slice that three expressions describe. -/
def evalSlice (lower upper step : Option Expr) : M σ Slice := do
  let s : Slice := ⟨← sliceBound r lower, ← sliceBound r upper, ← sliceBound r step⟩
  if s.step = some 0 then fail (.value .sliceStep) else return s

/-! ### Writing -/

/-- Makes `items` the items of the list that a value refers to. -/
def setItems (v : Value) (items : List Value) : M σ Unit :=
  match v with
  | .ref a => changeHeap (·.modifyList a fun _ => items.toArray)
  | _ => return

/-- Sets one item of the list that a value refers to. -/
def setListItem (v : Value) (n : Nat) (x : Value) : M σ Unit :=
  match v with
  | .ref a => changeHeap (·.modifyList a (·.setIfInBounds n x))
  | _ => return

/-- Changes the table that a value refers to. -/
def changeTable (v : Value) (f : Table → Table) : M σ Unit :=
  match v with
  | .ref a => changeHeap (·.modifyTable a f)
  | _ => return

/-- `object[index] = x`. -/
def setItem (v index x : Value) : M σ Unit := do
  match (← getHeap).indexed v with
  | .list items => setListItem v (← changedPosition index items.size) x
  | .dict _ =>
    let k ← keyOf index
    changeTable v (·.insert k index x)
  | .instance_ =>
    match ← callSpecial r v "__setitem__" [index, x] with
    | some _ => return
    | none => failType .noItemAssignment v
  | .other => failType .noItemAssignment v

/-- `object[slice] = x`. Without gaps any number of items may come in; with gaps exactly as many as
the slice selects. -/
def setSlice (v : Value) (s : Slice) (x : Value) : M σ Unit := do
  match (← getHeap).indexed v with
  | .list items =>
    match ← attempt (r.iterate x) with
    | .error _ => fail (.type .sliceSource)
    | .ok new =>
      let picked ← enough (s.positions items.size)
      if s.stride = 1 then setItems v (s.replaceSpan items.toList picked new)
      else if picked.length ≠ new.length then
        fail (.value (.sliceSize new.length picked.length))
      else setItems v (Slice.replaceAt items.toList picked new)
  | _ => failType .noItemAssignment v

/-! ### Deleting -/

/-- `del object[index]`. -/
def delItem (v index : Value) : M σ Unit := do
  match (← getHeap).indexed v with
  | .list items =>
    let n ← changedPosition index items.size
    match v with
    | .ref a => changeHeap (·.modifyList a (·.eraseIdxIfInBounds n))
    | _ => return
  | .dict t =>
    let k ← keyOf index
    if t.contains k then changeTable v (·.erase k) else failKey r index
  | .instance_ =>
    match ← callSpecial r v "__delitem__" [index] with
    | some _ => return
    | none => failType .noItemDeletion v
  | .other => failType .noItemDeletion v

/-- `del object[slice]`. -/
def delSlice (v : Value) (s : Slice) : M σ Unit := do
  match (← getHeap).indexed v with
  | .list items => setItems v (Slice.removeAt items.toList (← enough (s.positions items.size)))
  | _ => failType .noItemDeletion v

end Stepwise
