import Stepwise.Eval.Show
import Stepwise.Number.Range
import Stepwise.Text.Cut

/-!
# Comparisons

Equality, order, identity and membership. Instances are compared by their special methods; numbers
by value, whatever their types; sequences item by item; dictionaries and sets by what they hold.
-/

namespace Stepwise

open Script

variable {σ : Type} (r : Runner σ)

/-- What matters of a value when it is compared. -/
inductive Shape where
  | sequence (items : List Value)
  | mapping (table : Table)
  | set (table : Table)
  | instance_
  | scalar

/-- What matters of a value when it is compared. -/
def Heap.shape (h : Heap) : Value → Shape
  | .tuple _ items => .sequence items
  | .ref a =>
    match h.get? a with
    | some (.list items) => .sequence items.toList
    | some (.dict t) => .mapping t
    | some (.set t) => .set t
    | some (.inst _) => .instance_
    | _ => .scalar
  | _ => .scalar

/-- Whether a value is a tuple. -/
def isTuple : Value → Bool
  | .tuple _ _ => true
  | _ => false

/-! ### Equality -/

/-- Whether the items of two lists are equal, one by one; the lists are equally long. -/
def allEqual : List Value → List Value → M σ Bool
  | a :: as, b :: bs => do if ← r.equals a b then allEqual as bs else return false
  | _, _ => return true

/-- Whether a dictionary has all of some entries. -/
def hasEntries (other : Address) : List (Value × Value) → M σ Bool
  | [] => return true
  | (key, value) :: es => do
    let k ← keyOf key
    match ((← getHeap).dict? other).bind (·.value? k) with
    | some v => if ← r.equals value v then hasEntries other es else return false
    | none => return false

/-- Whether a set has all of some members. -/
def hasMembers (t : Table) : List Value → M σ Bool
  | [] => return true
  | v :: vs => do if t.contains (← keyOf v) then hasMembers t vs else return false

/-- Whether two ranges have the same items. -/
def sameRange (start stop step start' stop' step' : Int) : Bool :=
  let n := rangeLen start stop step
  n = rangeLen start' stop' step' && (n = 0 || (start = start' && (n = 1 || step = step')))

/-- Whether two values that hold no others are equal. -/
def sameScalar : Value → Value → Bool
  | .range a b c, .range a' b' c' => sameRange a b c a' b' c'
  | a, b => a.identical b

/-- Whether two values are one object that is no instance. -/
def sameObject (h : Heap) : Value → Value → Bool
  | .ref a, .ref b => a = b && (h.instance? a).isNone
  | _, _ => false

/-- The answer of the first special method that has one: that of the left value, or else that of
the right value with the operands exchanged. -/
def askSpecial (left right : Value) (method reflected : String) : M σ (Option Bool) := do
  match ← callSpecial r left method [right] with
  | some result => return some (← truthy r result)
  | none =>
    match ← callSpecial r right reflected [left] with
    | some result => return some (← truthy r result)
    | none => return none

/-- Whether two values that are not both numbers are equal. -/
def equalShapes (left right : Value) : M σ Bool := do
  let h ← getHeap
  match h.shape left, h.shape right with
  | .instance_, _ | _, .instance_ =>
    return (← askSpecial r left right "__eq__" "__eq__").getD (left.identical right)
  | .sequence as, .sequence bs =>
    if isTuple left != isTuple right || as.length ≠ bs.length then return false
    else allEqual r as bs
  | .mapping s, .mapping t =>
    match right.address? with
    | some other => if s.size ≠ t.size then return false else hasEntries r other s.pairs
    | none => return false
  | .set s, .set t => if s.size ≠ t.size then return false else hasMembers t s.members
  | .scalar, .scalar => return sameScalar left right
  | _, _ => return false

/-- Whether two values are equal. -/
def equalValues (left right : Value) : M σ Bool := do
  match left.asInt?, right.asInt? with
  | some a, some b => return a = b
  | _, _ =>
    match left.asFloat?, right.asFloat? with
    | some a, some b => return a == b
    | _, _ =>
      if sameObject (← getHeap) left right then return true else equalShapes r left right

/-! ### Order -/

/-- What an order comparison says about two things in a given order. -/
def decides (op : CompareOp) (o : Ordering) : Bool :=
  match op with
  | .lt => o == .lt
  | .le => o != .gt
  | .gt => o == .gt
  | _ => o != .lt

/-- What an order comparison says about two doubles; nothing holds of NaN. -/
def floatOrder (op : CompareOp) (a b : Float) : Bool :=
  match op with
  | .lt => a < b
  | .le => a ≤ b
  | .gt => a > b
  | _ => a ≥ b

/-- The order of two texts: by code point. -/
def textOrder (a b : String) : Ordering :=
  if a < b then .lt else if a = b then .eq else .gt

/-- Compares the first items that differ, or else the lengths. -/
def sequenceOrder (op : CompareOp) : List Value → List Value → M σ Bool
  | a :: as, b :: bs => do
    if ← r.equals a b then sequenceOrder op as bs else r.run (.order op a b)
  | as, bs => return decides op (compare as.length bs.length)

/-- The special methods of an order comparison, as the left operand has it and as the right one
has it. -/
def orderMethods : CompareOp → String × String
  | .lt => ("__lt__", "__gt__")
  | .le => ("__le__", "__ge__")
  | .gt => ("__gt__", "__lt__")
  | _ => ("__ge__", "__le__")

/-- Fails because two values have no order. -/
def failOrder {α : Type} (op : CompareOp) (left right : Value) : M σ α := do
  fail (.type (.notOrdered op (← typeName left) (← typeName right)))

/-- What an order comparison says about two sets: it compares by inclusion. -/
def setOrder (op : CompareOp) (s t : Table) : M σ Bool := do
  let subset ← hasMembers t s.members
  let superset ← hasMembers s t.members
  return match op with
    | .lt => subset && s.size < t.size
    | .le => subset
    | .gt => superset && s.size > t.size
    | _ => superset

/-- What an order comparison says about two values that are neither numbers nor strings. -/
def orderShapes (op : CompareOp) (left right : Value) : M σ Bool := do
  let h ← getHeap
  match h.shape left, h.shape right with
  | .sequence as, .sequence bs =>
    if isTuple left == isTuple right then sequenceOrder r op as bs else failOrder op left right
  | .set s, .set t => setOrder op s t
  | .instance_, _ | _, .instance_ =>
    let (method, reflected) := orderMethods op
    match ← askSpecial r left right method reflected with
    | some b => return b
    | none => failOrder op left right
  | _, _ => failOrder op left right

/-- What an order comparison says about two values. -/
def orderValues (op : CompareOp) (left right : Value) : M σ Bool := do
  match left.asInt?, right.asInt? with
  | some a, some b => return decides op (compare a b)
  | _, _ =>
    match left.asFloat?, right.asFloat? with
    | some a, some b => return floatOrder op a b
    | _, _ =>
      match left, right with
      | .str a, .str b => return decides op (textOrder a b)
      | _, _ => orderShapes r op left right

/-! ### Membership -/

/-- Whether `n` is an item of a range. Between ends that are far apart words may not be enough; the
answer is the same then. -/
def inRange (start stop step n : Int) : Bool :=
  spans start stop step n && (leftOver? start step n).getD ((n - start) % step) = 0

/-- Whether a value is among some items, by identity or equality. -/
def isAmong (v : Value) : List Value → M σ Bool
  | [] => return false
  | c :: cs => do
    if c.identical v then return true
    else if ← r.equals c v then return true
    else isAmong v cs

/-- Whether a container that is neither string nor range has an item. -/
def containsIn (container item : Value) : M σ Bool := do
  match (← getHeap).shape container with
  | .sequence items => isAmong r item items
  | .mapping t | .set t => return t.contains (← keyOf item)
  | .instance_ =>
    match ← callSpecial r container "__contains__" [item] with
    | some result => truthy r result
    | none => failType .notContainer container
  | .scalar => failType .notContainer container

/-- Whether a container has an item. -/
def contains (container item : Value) : M σ Bool := do
  match container, item with
  | .str text, .str part => return Text.occursIn part.toList text.toList
  | .str _, other => failType .inString other
  | .range start stop step, item => return item.asInt?.any (inRange start stop step)
  | _, _ => containsIn r container item

/-! ### All comparisons -/

/-- Whether two values are not equal. -/
def notEqual (left right : Value) : M σ Bool := do
  match ← callSpecial r left "__ne__" [right] with
  | some result => truthy r result
  | none => return !(← r.equals left right)

/-- What a comparison says about two values. -/
def compareValues (op : CompareOp) (left right : Value) : M σ Bool := do
  match op with
  | .eq => r.equals left right
  | .ne => notEqual r left right
  | .is => return left.identical right
  | .isNot => return !left.identical right
  | .isIn => contains r right left
  | .notIn => return !(← contains r right left)
  | .lt | .le | .gt | .ge => r.run (.order op left right)

end Stepwise
