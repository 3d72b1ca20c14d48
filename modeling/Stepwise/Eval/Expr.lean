import Stepwise.Eval.Builtin
import Stepwise.Eval.Compare

/-!
# Expressions

The value of an expression in the running frame. Operands are evaluated from left to right.
-/

namespace Stepwise

open Script

variable {σ α : Type} (r : Runner σ)

/-! ### Calls -/

/-- The items of the value behind a star in a call. -/
def starItems (v : Value) : M σ (List Value) := do
  match ← attempt (r.iterate v) with
  | .ok items => return items
  | .error _ => failType .starArgument v

/-- The arguments of a call. -/
def evalArguments : List Argument → M σ (List Value × Keywords)
  | [] => return ([], [])
  | .positional e :: as => do
    let v ← r.eval e
    let (args, keywords) ← evalArguments as
    return (v :: args, keywords)
  | .keyword name e :: as => do
    let v ← r.eval e
    let (args, keywords) ← evalArguments as
    return (args, (name, v) :: keywords)
  | .star e :: as => do
    let items ← starItems r (← r.eval e)
    let (args, keywords) ← evalArguments as
    return (items ++ args, keywords)

/-- A call. The receiver of a method is evaluated once. -/
def evalCall (func : Expr) (args : List Argument) : M σ Value := do
  match func with
  | .attribute object name => do
    let receiver ← r.eval object
    let (args, keywords) ← evalArguments r args
    callMethod r receiver name args keywords
  | func => do
    let callee ← r.eval func
    let (args, keywords) ← evalArguments r args
    callValue r callee args keywords

/-! ### Comprehensions -/

mutual

/-- The names that a target binds, added to some others, each once. -/
def targetNames (names : List String) : Expr → List String
  | .name x => if names.contains x then names else names ++ [x]
  | .tuple items | .list items => allTargetNames names items
  | _ => names

/-- The names that some targets bind, added to some others. -/
def allTargetNames (names : List String) : List Expr → List String
  | [] => names
  | e :: es => allTargetNames (targetNames names e) es

end

/-- Whether all of some conditions hold. -/
def allHold : List Expr → M σ Bool
  | [] => return true
  | e :: es => do
    if ← truthy r (← r.eval e) then allHold es else return false

/-- Does `body` for each of some items that satisfy the conditions of a clause. -/
def forItems (c : Clause) (body : α → M σ α) : List Value → α → M σ α
  | [], acc => return acc
  | v :: vs, acc => do
    r.assign c.target v
    if ← allHold r c.conditions then do
      let acc ← body acc
      forItems c body vs acc
    else forItems c body vs acc

/-- Does `emit` for every combination of items that some clauses let through. -/
def forClauses (emit : α → M σ α) : List Clause → α → M σ α
  | [], acc => emit acc
  | c :: cs, acc => do
    let items ← r.iterate (← r.eval c.items)
    forItems r c (forClauses emit cs) items acc

/-- Gives a name of a scope the value it had before, if it had one. -/
def restore (vars : Namespace) (saved : String × Option Value) : Namespace :=
  match saved.2 with
  | some v => vars.set saved.1 v
  | none => vars.erase saved.1

/-- Runs the clauses of a comprehension. The names they bind get back what they stood for. -/
def comprehension (clauses : List Clause) (emit : α → M σ α) (start : α) : M σ α := do
  let m ← get
  let scope := m.currentScope
  let names := allTargetNames [] (clauses.map (·.target))
  let vars := ((m.heap.scope? scope).map (·.vars)).getD .empty
  let saved := names.map fun x => (x, vars.get? x)
  let result ← attempt (forClauses r emit clauses start)
  changeHeap (·.modifyScope scope (saved.foldl restore ·))
  match result with
  | .ok a => return a
  | .error e => rethrow e

/-- The values that a comprehension gives. -/
def comprehensionItems (element : Expr) (clauses : List Clause) : M σ (List Value) := do
  let items ← comprehension r clauses (fun vs => return (← r.eval element) :: vs) []
  return items.reverse

/-- The entries that a comprehension gives. -/
def comprehensionEntries (key value : Expr) (clauses : List Clause) :
    M σ (List (Value × Value)) := do
  let entry (es : List (Value × Value)) : M σ (List (Value × Value)) := do
    let k ← r.eval key
    return (k, ← r.eval value) :: es
  let entries ← comprehension r clauses entry []
  return entries.reverse

/-! ### Other expressions -/

/-- The text of an f-string. -/
def evalParts : List FieldPart → M σ (List String)
  | [] => return []
  | .text s :: ps => return s :: (← evalParts ps)
  | .field e conversion spec :: ps => do
    let text ← writeField r (← r.eval e) conversion (spec.getD "")
    return text :: (← evalParts ps)

/-- The entries of a dictionary display. -/
def evalEntries : List (Expr × Expr) → M σ (List (Value × Value))
  | [] => return []
  | (k, v) :: es => do
    let k ← r.eval k
    let v ← r.eval v
    return (k, v) :: (← evalEntries es)

/-- A chain of comparisons: it ends with the first that does not hold. -/
def evalChain (left : Value) : List (CompareOp × Expr) → M σ Bool
  | [] => return true
  | (op, e) :: rest => do
    let right ← r.eval e
    if ← compareValues r op left right then evalChain right rest else return false

/-- `object[index]` or `object[slice]`. -/
def evalSubscript (object index : Expr) : M σ Value := do
  let v ← r.eval object
  match index with
  | .slice lower upper step => getSlice v (← evalSlice r lower upper step)
  | index => getItem r v (← r.eval index)

/-- `left op right`. -/
def evalBinary (op : BinaryOp) (left right : Expr) : M σ Value := do
  let a ← r.eval left
  let b ← r.eval right
  binaryOp r op a b

/-- `left and right`, `left or right`: the left operand, if it decides. -/
def evalBool (op : BoolOp) (left right : Expr) : M σ Value := do
  let v ← r.eval left
  let truth ← truthy r v
  if truth == (op = .or) then return v else r.eval right

/-- A container display or comprehension. -/
def evalDisplay (e : Expr) : M σ Value := do
  match e with
  | .tuple items => makeTuple (← r.evalAll items)
  | .list items => makeList (← r.evalAll items)
  | .set items => makeSet (← r.evalAll items)
  | .dict pairs => makeDict (← evalEntries r pairs)
  | .listComp element clauses => makeList (← comprehensionItems r element clauses)
  | .setComp element clauses => makeSet (← comprehensionItems r element clauses)
  | .dictComp key value clauses => makeDict (← comprehensionEntries r key value clauses)
  | _ => return .none

/-- The value of an expression. -/
def evalExpr (e : Expr) : M σ Value := do
  match e with
  | .none => return .none
  | .bool b => return .bool b
  | .int n => return .int n
  | .float x => return .float x
  | .str s => return .str s
  | .fstring parts => return .str (String.join (← evalParts r parts))
  | .name x => lookupName x
  | .attribute object name => getAttribute (← r.eval object) name
  | .subscript object index => evalSubscript r object index
  | .slice _ _ _ => fail (.unsupported .sliceObject)
  | .call func args => evalCall r func args
  | .unary op operand => unaryOp r op (← r.eval operand)
  | .binary op left right => evalBinary r op left right
  | .compare left rest => return .bool (← evalChain r (← r.eval left) rest)
  | .boolOp op left right => evalBool r op left right
  | .ifElse test body orelse =>
    if ← truthy r (← r.eval test) then r.eval body else r.eval orelse
  | .lambda fn => makeFunction r fn
  | e => evalDisplay r e

end Stepwise
