import Stepwise.Eval.Call
import Stepwise.Heap.Repr

/-!
# Text and truth of values

What `str`, `repr` and a condition make of a value. Classes of the script may say so themselves, by
special methods; for all other values it is decided here.
-/

namespace Stepwise

variable {σ α : Type} (r : Runner σ)

/-! ### Truth -/

/-- Whether an instance counts as true: as `__bool__` says, or else if `__len__` is not zero. -/
def truthOfInstance (v : Value) : M σ Bool := do
  match ← callSpecial r v "__bool__" [] with
  | some (.bool b) => return b
  | some other => failType .nonBool other
  | none =>
    match ← callSpecial r v "__len__" [] with
    | some n => return n.asInt?.any (· ≠ 0)
    | none => return true

/-- Whether a value counts as true. -/
def truthy (v : Value) : M σ Bool := do
  match v with
  | .none => return false
  | .bool b => return b
  | .int n => return n ≠ 0
  | .float x => return x != 0
  | .str s => return !s.isEmpty
  | .tuple _ items => return !items.isEmpty
  | .range start stop step => return rangeLen start stop step > 0
  | .builtin _ => return true
  | .ref a =>
    match (← getHeap).get? a with
    | some (.list items) => return !items.isEmpty
    | some (.dict t) | some (.set t) => return !t.isEmpty
    | some (.inst _) => truthOfInstance r v
    | _ => return true

/-! ### Text -/

/-- The string that a special method has returned. -/
def expectText (method : String) (v : Value) : M σ String := do
  match v with
  | .str s => return s
  | other => failType (.nonString method) other

/-- Runs `x` while the container at `a` is being turned into text. -/
def whileWriting (a : Address) (x : M σ α) : M σ α := do
  modify fun m => { m with writing := a :: m.writing }
  let result ← attempt x
  modify fun m => { m with writing := m.writing.tail }
  match result with
  | .ok v => return v
  | .error e => rethrow e

/-- A value as text without asking any class. -/
def plainText (v : Value) : M σ String := do
  let h ← getHeap
  if h.showsAddress r.bound v then r.reveal
  enough (h.repr? r.bound v)

/-- An entry of a dictionary as text. -/
def reprEntry (e : Value × Value) : M σ String :=
  return (← r.repr e.1) ++ ": " ++ (← r.repr e.2)

/-- An object as the script language would write it, if its class does not say how. -/
def reprObject (a : Address) : M σ String := do
  let h ← getHeap
  match h.get? a with
  | some (.list items) => whileWriting a do return Heap.listText (← items.toList.mapM r.repr)
  | some (.dict t) => whileWriting a do return Heap.bracesText (← t.pairs.mapM (reprEntry r))
  | some (.set t) => whileWriting a do return Heap.setText (← t.members.mapM r.repr)
  | _ => plainText r (.ref a)

/-- A value as the script language would write it. -/
def reprOf (v : Value) : M σ String := do
  match v with
  | .tuple _ items => return Heap.tupleText (← items.mapM r.repr)
  | .ref a =>
    let m ← get
    if m.writing.contains a then return ((m.heap.get? a).map Heap.cycleText).getD "[...]"
    else match ← callSpecial r v "__repr__" [] with
      | some text => expectText "__repr__" text
      | none => reprObject r a
  | v => return Heap.leafText v

/-- Whether a class is that of missing keys, or derived from it. -/
def isKeyError (m : Machine σ) (cls : Address) : Bool :=
  (m.exceptions.lookup "KeyError").any (m.heap.isSubclass cls ·)

/-- The text of an exception: that of its argument, or of all of them. A missing key is written as
in the script. -/
def exceptionMessage (v : Value) : M σ String := do
  match ← callSpecial r v "__str__" [] with
  | some text => expectText "__str__" text
  | none =>
    let m ← get
    match v.address?.bind m.heap.instance? with
    | none => r.str v
    | some i =>
      match i.args with
      | [] => return ""
      | [arg] => if isKeyError m i.cls then r.repr arg else r.str arg
      | args => return Heap.tupleText (← args.mapM r.repr)

/-- A value as text for a reader. -/
def strOf (v : Value) : M σ String := do
  match v with
  | .str s => return s
  | .ref a =>
    match (← getHeap).instance? a with
    | none => r.repr v
    | some i =>
      match ← callSpecial r v "__str__" [] with
      | some text => expectText "__str__" text
      | none =>
        if (← getHeap).isExceptionClass i.cls then exceptionMessage r v else r.repr v
  | v => r.repr v

/-- Fails because a key is not there. If the key cannot be written, it is shown without asking its
class. -/
def failKey (key : Value) : M σ α := do
  match ← attempt (r.repr key) with
  | .ok shown => fail (.key shown key)
  | .error _ => do
    let shown ← plainText r key
    fail (.key shown key)

end Stepwise
