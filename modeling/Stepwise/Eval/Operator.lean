import Stepwise.Eval.Method.List
import Stepwise.Eval.Method.Table
import Stepwise.Eval.Write
import Stepwise.Number.Integer

/-!
# Operators

Unary and binary operators on values. Numbers are computed with as in `Number`; strings, tuples and
lists are joined and repeated; sets are combined; instances say by special methods what an operator
does to them.
-/

namespace Stepwise

open Script

variable {σ : Type} (r : Runner σ)

/-! ### Special methods -/

/-- The special methods of an operator, as the left operand has it and as the right one has it. -/
def operatorMethods : BinaryOp → String × String
  | .add => ("__add__", "__radd__")
  | .sub => ("__sub__", "__rsub__")
  | .mul => ("__mul__", "__rmul__")
  | .div => ("__truediv__", "__rtruediv__")
  | .floorDiv => ("__floordiv__", "__rfloordiv__")
  | .mod => ("__mod__", "__rmod__")
  | .pow => ("__pow__", "__rpow__")
  | .bitAnd => ("__and__", "__rand__")
  | .bitOr => ("__or__", "__ror__")
  | .bitXor => ("__xor__", "__rxor__")
  | .shl => ("__lshift__", "__rlshift__")
  | .shr => ("__rshift__", "__rrshift__")

/-- The special method of an assignment with an operator. -/
def inplaceMethod? : BinaryOp → Option String
  | .add => some "__iadd__"
  | .sub => some "__isub__"
  | .mul => some "__imul__"
  | _ => none

/-- Fails because an operator does not apply to the types of its operands. -/
def failOperands {α : Type} (op : BinaryOp) (left right : Value) : M σ α := do
  let l ← typeName left
  let r ← typeName right
  if op = .add && ["str", "list", "tuple"].contains l then fail (.type (.concatenate l r))
  else fail (.type (.operands op l r))

/-! ### Binary operators -/

/-- Some items `n` times over. -/
def repeated {α : Type} (n : Int) (items : List α) : List α :=
  (List.replicate n.toNat items).flatten

/-- An operator on sets. -/
def setOperator? : BinaryOp → Option (Table → Table → Table)
  | .bitOr => some Table.union
  | .bitAnd => some Table.intersection
  | .sub => some Table.difference
  | .bitXor => some Table.symmetricDifference
  | _ => none

/-- The entries of two dictionaries, those of the right one last. -/
def mergeTables (s t : Table) : Table :=
  t.entries.foldl (fun s e => s.insert e.1 e.2.1 e.2.2) s

/-- An operator on operands of which one is an instance. -/
def instanceOperator (op : BinaryOp) (left right : Value) : M σ Value := do
  let (method, reflected) := operatorMethods op
  match ← callSpecial r left method [right] with
  | some v => return v
  | none =>
    match ← callSpecial r right reflected [left] with
    | some v => return v
    | none => failOperands op left right

/-- An operator on operands that are neither numbers, strings nor tuples. -/
def objectOperator (op : BinaryOp) (left right : Value) : M σ Value := do
  let h ← getHeap
  match h.object? left, h.object? right with
  | some (.list as), some (.list bs) =>
    if op = .add then make (.list (as ++ bs)) else failOperands op left right
  | some (.set s), some (.set t) =>
    match setOperator? op with
    | some f => make (.set (f s t))
    | none => failOperands op left right
  | some (.dict s), some (.dict t) =>
    if op = .bitOr then make (.dict (mergeTables s t)) else failOperands op left right
  | some (.inst _), _ | _, some (.inst _) => instanceOperator r op left right
  | some (.list items), _ =>
    match right.asInt? with
    | some n => if op = .mul then makeList (repeated n items.toList) else failOperands op left right
    | none => failOperands op left right
  | _, some (.list items) =>
    match left.asInt? with
    | some n => if op = .mul then makeList (repeated n items.toList) else failOperands op left right
    | none => failOperands op left right
  | _, _ => failOperands op left right

/-- An operator on operands that are not both numbers. -/
def otherOperator (op : BinaryOp) (left right : Value) : M σ Value := do
  match op, left, right with
  | .add, .str a, .str b => return .str (a ++ b)
  | .mod, .str template, args => return .str (← percentFormat r template args)
  | .add, .tuple _ as, .tuple _ bs => makeTuple (as ++ bs)
  | .mul, .str s, .int n | .mul, .int n, .str s =>
    return .str (String.ofList (repeated n s.toList))
  | .mul, .str s, .bool b | .mul, .bool b, .str s => return .str (if b then s else "")
  | .mul, .tuple _ items, .int n | .mul, .int n, .tuple _ items => makeTuple (repeated n items)
  | .mul, .tuple _ items, .bool b | .mul, .bool b, .tuple _ items =>
    makeTuple (if b then items else [])
  | _, _, _ => objectOperator r op left right

/-- The value of `left op right`. -/
def binaryOp (op : BinaryOp) (left right : Value) : M σ Value := do
  match left.asInt?, right.asInt? with
  | some a, some b => lift (intOp op a b)
  | _, _ =>
    match left.asFloat?, right.asFloat? with
    | some a, some b => do
      return .float (← lift (floatOp op (← typeName left) (← typeName right) a b))
    | _, _ => otherOperator r op left right

/-! ### Assignments with an operator -/

/-- The value of `left op= right` for an instance that may have a method for it. -/
def inplaceInstance (op : BinaryOp) (left right : Value) : M σ Value := do
  match inplaceMethod? op with
  | none => binaryOp r op left right
  | some method =>
    match ← callSpecial r left method [right] with
    | some v => return v
    | none => binaryOp r op left right

/-- The value of `left op= right`: lists grow in place, and so do sets. -/
def inplaceOp (op : BinaryOp) (left right : Value) : M σ Value := do
  let h ← getHeap
  match left, h.object? left, op with
  | .ref a, some (.list _), .add => do
    let more ← r.iterate right
    changeList a (· ++ more)
    return left
  | .ref a, some (.set _), .bitOr =>
    match right.address?.bind h.set? with
    | some t => do
      changeTableAt a (·.union t)
      return left
    | none => binaryOp r op left right
  | _, some (.inst _), _ => inplaceInstance r op left right
  | _, _, _ => binaryOp r op left right

/-! ### Unary operators -/

/-- The special method and the name of a unary operator. -/
def unaryMethod : UnaryOp → String × String
  | .neg => ("__neg__", "unary -")
  | .pos => ("__pos__", "unary +")
  | .invert => ("__invert__", "unary ~")
  | .not => ("", "unary not")

/-- A unary operator on a value that is no number. -/
def unarySpecial (op : UnaryOp) (v : Value) : M σ Value := do
  match ← callSpecial r v (unaryMethod op).1 [] with
  | some result => return result
  | none => failType (.badOperand (unaryMethod op).2) v

/-- The value of `op v`. -/
def unaryOp (op : UnaryOp) (v : Value) : M σ Value := do
  match op, v with
  | .not, v => return .bool !(← truthy r v)
  | .neg, .float x => return .float (-x)
  | .pos, .float x => return .float x
  | op, v =>
    match op, v.asInt? with
    | .neg, some n => return .int (← lift (exact (-n)))
    | .pos, some n => return .int n
    | .invert, some n => return .int (-n - 1)
    | op, _ => unarySpecial r op v

end Stepwise
