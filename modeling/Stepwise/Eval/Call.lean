import Stepwise.Eval.Attribute
import Stepwise.Fault.Basic
import Stepwise.Machine.Name
import Stepwise.Machine.Task

/-!
# Calls

Running a function of the script: its frame, its arguments and its result; making functions and
instances; and the special methods by which a class says what operators do.

## The model

A frame is open exactly while its body runs. The observer is told when it opens and when it closes,
also if an error is on its way through it (`runFrame`).

Every parameter has a slot. Positional arguments fill the slots from the left; a keyword argument
fills the slot of its name, which must be empty; then defaults fill what is left. What finds no
slot goes to `*vararg` and `**kwarg`, if the function has them.
-/

namespace Stepwise

open Script

/-! ### Arguments and parameters -/

/-- Arguments in their places. -/
structure Bound where
  /-- The parameters with their values. -/
  params : List (String × Value)
  /-- The positional arguments that are left over. -/
  rest : List Value
  /-- The keyword arguments that are left over. -/
  keywords : Keywords

namespace Bound

/-- The slots of `n` parameters after the positional arguments have taken theirs. -/
def slots (n : Nat) (args : List Value) : List (Option Value) :=
  (args.take n).map some ++ List.replicate (n - args.length) none

/-- Puts a keyword argument into its slot, or behind those that are left over. -/
def keyword (d : FunctionDef) (state : List (Option Value) × Keywords) (arg : String × Value) :
    Except TypeFault (List (Option Value) × Keywords) :=
  let (slots, rest) := state
  match d.params.findIdx? (·.name = arg.1) with
  | some i =>
    match slots[i]? with
    | some (some _) => .error (.multipleValues d.name arg.1)
    | _ => .ok (slots.set i (some arg.2), rest)
  | none =>
    if d.kwarg.isSome then .ok (slots, rest ++ [arg])
    else .error (.unexpectedKeyword d.name arg.1)

/-- The parameters that have a value after the defaults have filled empty slots. -/
def filled : List Param → List (Option Value) → List (Option Value) → List (String × Value)
  | p :: ps, slots, defaults =>
    let rest := filled ps slots.tail defaults.tail
    match (slots.head?.join).or defaults.head?.join with
    | some v => (p.name, v) :: rest
    | none => rest
  | [], _, _ => []

/-- The parameters that are left without a value. -/
def unfilled : List Param → List (Option Value) → List (Option Value) → List String
  | p :: ps, slots, defaults =>
    let rest := unfilled ps slots.tail defaults.tail
    if ((slots.head?.join).or defaults.head?.join).isNone then p.name :: rest else rest
  | [], _, _ => []

/-- The arguments of a call in their places. -/
def ofCall (d : FunctionDef) (defaults : List (Option Value)) (args : List Value)
    (keywords : Keywords) : Except TypeFault Bound := do
  let n := d.params.length
  if args.length > n ∧ d.vararg.isNone then
    .error (.surplus d.name (defaults.filter (·.isNone)).length n args.length)
  else
    let (slots, rest) ← keywords.foldlM (keyword d) (slots n args, [])
    match unfilled d.params slots defaults with
    | [] => .ok ⟨filled d.params slots defaults, args.drop n, rest⟩
    | names => .error (.missing d.name names)

end Bound

/-! ### Frames -/

variable {σ : Type} (r : Runner σ)

/-- The number of frames that may be open at once. -/
def recursionLimit : Nat := 1000

/-- Gives up the scope of a function that nothing has captured. -/
def releaseScope (f : Frame) : M σ Unit := do
  if f.kind = .function && !f.captured then changeHeap (·.free f.locals)

/-- Closes the running frame. -/
def closeFrame : M σ Unit := do
  match ← popFrame with
  | some f => releaseScope f
  | none => return

/-- Runs a body in a frame of its own and gives what it returns. -/
def runFrame (f : Frame) (body : List Stmt) : M σ Value := do
  let m ← get
  if m.stack.length ≥ recursionLimit then
    releaseScope f
    fail .recursion
  else
    pushFrame f
    r.notify ⟨.call, none⟩
    let result ← attempt (r.block body)
    r.notify ⟨.return_, none⟩
    closeFrame
    match result with
    | .error e => rethrow e
    | .ok flow =>
      goTo m.pos
      match flow with
      | .return_ v => return v
      | _ => return .none

/-- The bindings that a function starts with. -/
def parameterScope (d : FunctionDef) (b : Bound) : M σ Namespace := do
  let vars : Namespace := .ofList b.params
  let vars ← match d.vararg with
    | some name => do pure (vars.set name (← makeTuple b.rest))
    | none => pure vars
  match d.kwarg with
  | some name => do
    return vars.set name (← makeDict (b.keywords.map fun (k, v) => (.str k, v)))
  | none => return vars

/-- Calls a function of the script. -/
def callFunction (function : Address) (args : List Value) (keywords : Keywords) : M σ Value := do
  let m ← get
  if m.inspecting then fail (.unsupported .callWhileInspecting)
  else match m.heap.closure? function with
    | none => fail (.type .notFunction)
    | some f =>
      let d := f.definition
      match Bound.ofCall d f.defaults args keywords with
      | .error fault => fail (.type fault)
      | .ok b =>
        let locals ← alloc (.scope ⟨← parameterScope d b, f.scope⟩)
        let frame := Frame.start d.name .function locals d.pos.line
        let frame := if f.owner.isSome then
            { frame with owner := f.owner, receiver := args.head? }
          else frame
        runFrame r frame d.body

/-- The values of the defaults of some parameters. -/
def evalDefaults : List Param → M σ (List (Option Value))
  | [] => return []
  | p :: ps => do
    let v ← r.evalOption p.default
    return v :: (← evalDefaults ps)

/-- Makes a function in the running frame. -/
def makeFunction (d : FunctionDef) : M σ Value := do
  let defaults ← evalDefaults r d.params
  let owner := match ← frame? with
    | some f => if f.kind = .class_ then f.owner else none
    | none => none
  make (.func ⟨d, defaults, ← capturedScope, owner⟩)

/-- Makes an instance of a class. An exception keeps its arguments; other classes take arguments
only if they say what to do with them. -/
def instantiate (cls : Address) (args : List Value) (keywords : Keywords) : M σ Value := do
  let h ← getHeap
  let isException := h.isExceptionClass cls
  let object ← make (.inst ⟨cls, .empty, if isException then args else []⟩)
  match h.classLookup? cls "__init__" with
  | some (init, _) =>
    let result ← r.call init (object :: args) keywords
    if result.isNone then return object else failType .initResult result
  | none =>
    if !isException && !(args.isEmpty && keywords.isEmpty) then
      fail (.type (.takesNone (h.className cls)))
    else return object

/-- Calls a special method of an instance, if its class has one. -/
def callSpecialWith (v : Value) (name : String) (args : List Value) (keywords : Keywords) :
    M σ (Option Value) := do
  let h ← getHeap
  match (h.classOf? v).bind fun cls => h.classLookup? cls name with
  | none => return none
  | some (method, _) =>
    let isFunction := ((method.address?).bind h.closure?).isSome
    return some (← r.call method (if isFunction then v :: args else args) keywords)

/-- Calls a special method of an instance, if its class has one. -/
def callSpecial (v : Value) (name : String) (args : List Value) : M σ (Option Value) :=
  callSpecialWith r v name args []

/-- Makes the object by which a method reaches the classes behind its own. -/
def makeSuper (args : List Value) : M σ Value := do
  match args with
  | [] =>
    let f ← frame?
    match f.bind (·.owner), f.bind (·.receiver) with
    | some cls, some receiver => make (.super cls receiver)
    | _, _ => fail (.misplaced .super)
  | [cls, receiver] =>
    let h ← getHeap
    match cls.address?.filter fun a => (h.class? a).isSome with
    | some a => make (.super a receiver)
    | none => fail (.type .superClass)
  | _ => fail (.type (.takesTwo "super" args.length))

end Stepwise
