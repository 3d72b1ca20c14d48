import Stepwise.Eval.Assign
import Stepwise.Eval.Raise

/-!
# Statements

What the statements of a script do.

## The model

Every statement first reports its line, unless that was the last line its frame has reported. A
loop reports its header again whenever control comes back to it. `break`, `continue` and `return`
are results (`Flow`), which the loop or frame around takes; errors leave through the monad.
-/

namespace Stepwise

open Script

variable {σ : Type} (r : Runner σ)

/-- Enters a line: reports it if it is not the one reported last, or in any case if `force`
holds. -/
def markLine (line : Nat) (force : Bool) (condition : Option Expr) : M σ Unit := do
  match ← frame? with
  | none => return
  | some f =>
    if !force && f.reported = some line then changeFrame ({ · with line })
    else do
      changeFrame ({ · with line, reported := some line })
      r.notify ⟨.line, condition⟩

/-! ### Loops -/

/-- Comes back to the header of a loop. -/
def revisit (pos : Pos) : M σ Unit := do
  goTo pos
  markLine r pos.line true none

/-- `while test: body else: orelse`, going round at most `fuel` times. -/
def whileLoop (test : Expr) (body orelse : List Stmt) (pos : Pos) : (fuel : Nat) → M σ Flow
  | 0 => throw .outOfFuel
  | fuel + 1 => do
    if ← truthy r (← r.eval test) then
      match ← r.block body with
      | .normal | .continue_ => do
        revisit r pos
        whileLoop test body orelse pos fuel
      | .break_ => return .normal
      | .return_ v => return .return_ v
    else r.block orelse

/-- Where the items of a loop come from. -/
inductive Supply where
  /-- Integers, each computed when it is needed. -/
  | range (next stop step : Int)
  /-- A list, looked at again for every item, so that items added meanwhile are seen. -/
  | list (a : Address) (n : Nat)
  /-- Items that were listed before the loop. -/
  | items (vs : List Value)

/-- Where the items of a value come from. -/
def supplyOf (v : Value) : M σ Supply := do
  match v with
  | .range start stop step => return .range start stop step
  | .ref a =>
    match (← getHeap).list? a with
    | some _ => return .list a 0
    | none => return .items (← r.iterate v)
  | v => return .items (← r.iterate v)

/-- The next item and where the others come from. -/
def nextItem? (h : Heap) : Supply → Option (Value × Supply)
  | .range next stop step =>
    if isBefore stop step next then some (.int next, .range (rangeNext step next) stop step)
    else none
  | .list a n => ((h.list? a).bind (·[n]?)).map fun v => (v, .list a (n + 1))
  | .items (v :: vs) => some (v, .items vs)
  | .items [] => none

/-- `for target in …: body else: orelse`, going round at most `fuel` times. -/
def forLoop (target : Expr) (body orelse : List Stmt) (pos : Pos) :
    (fuel : Nat) → Supply → M σ Flow
  | 0, _ => throw .outOfFuel
  | fuel + 1, supply => do
    match nextItem? (← getHeap) supply with
    | none => r.block orelse
    | some (v, supply) => do
      r.assign target v
      match ← r.block body with
      | .normal | .continue_ => do
        revisit r pos
        forLoop target body orelse pos fuel supply
      | .break_ => return .normal
      | .return_ v => return .return_ v

/-- `for target in items: body else: orelse`. -/
def execFor (target items : Expr) (body orelse : List Stmt) (pos : Pos) : M σ Flow := do
  let supply ← supplyOf r (← r.eval items)
  forLoop r target body orelse pos r.bound supply

/-! ### Errors -/

/-- Runs `x` while an error counts as being handled, and gives an error of `x` as a result. -/
def whileHandling {α : Type} (e : RuntimeError) (x : M σ α) : M σ (Except RuntimeError α) := do
  modify fun m => { m with handled := e :: m.handled }
  let result ← attempt x
  modify fun m => { m with handled := m.handled.tail }
  return result

/-- Runs the body of a handler. Its error counts as being handled meanwhile, and the name it was
bound to is removed afterwards, if it is still there. -/
def runHandler (h : Handler) (e : RuntimeError) : M σ Flow := do
  match h.binding with
  | some x => assignName x (← exceptionObject e)
  | none => pure ()
  let result ← whileHandling e (r.block h.body)
  match h.binding with
  | some x => do let _ ← attempt (deleteName x)
  | none => pure ()
  match result with
  | .ok flow => return flow
  | .error e => rethrow e

/-- Offers an error to handlers, one after the other. -/
def handle (e : RuntimeError) : List Handler → M σ Flow
  | [] => rethrow e
  | h :: hs => do
    goTo h.pos
    markLine r h.pos.line false none
    if ← matchesFilter r e h.filter then runHandler r h e else handle e hs

/-- The parts of a `try` statement but for `finally`. -/
def execGuarded (body : List Stmt) (handlers : List Handler) (orelse : List Stmt) : M σ Flow := do
  match ← attempt (r.block body) with
  | .ok .normal => r.block orelse
  | .ok flow => return flow
  | .error e => handle r e handlers

/-- A `try` statement. A jump out of the `finally` part takes the place of whatever was under
way. -/
def execTry (body : List Stmt) (handlers : List Handler) (orelse finalbody : List Stmt) :
    M σ Flow := do
  if finalbody.isEmpty then execGuarded r body handlers orelse
  else do
    let outcome ← attempt (execGuarded r body handlers orelse)
    match ← r.block finalbody with
    | .normal =>
      match outcome with
      | .ok flow => return flow
      | .error e => rethrow e
    | flow => return flow

/-! ### Definitions and imports -/

/-- The base classes that some expressions stand for. The type of all objects adds nothing. -/
def evalBases : List Expr → M σ (List Address)
  | [] => return []
  | e :: es => do
    match ← r.eval e with
    | .builtin .object => evalBases es
    | .ref a =>
      if ((← getHeap).class? a).isSome then return a :: (← evalBases es)
      else failType .classBase (.ref a)
    | v => failType .classBase v

/-- Runs the body of a class in a frame of its own and gives what it has bound. -/
def runClassBody (cls : Address) (parent : Option Address) (d : ClassDef) : M σ Namespace := do
  let vars : Namespace := .ofList [("__module__", .str "__main__"), ("__qualname__", .str d.name)]
  let locals ← alloc (.scope ⟨vars, parent⟩)
  let frame := { Frame.start d.name .class_ locals d.pos.line with owner := some cls }
  let result ← attempt (runFrame r frame d.body)
  let attrs := (((← getHeap).scope? locals).map (·.vars)).getD .empty
  changeHeap (·.free locals)
  match result with
  | .ok _ => return attrs
  | .error e => rethrow e

/-- Makes a class of the script without attributes. -/
def allocClass (name : String) (bases : List Address) : M σ Address :=
  modifyGet fun m =>
    let (a, heap) := m.heap.allocClass name bases false
    (a, { m with heap })

/-- A class definition. -/
def execClass (d : ClassDef) : M σ Unit := do
  let bases ← evalBases r d.bases
  let cls ← allocClass d.name bases
  let attrs ← runClassBody r cls (← capturedScope) d
  changeHeap (·.modifyClass cls ({ · with attrs }))
  assignName d.name (.ref cls)

/-- What the module `math` provides. -/
def mathAttributes : Namespace :=
  .ofList <|
    [("pi", .float 3.141592653589793), ("e", .float 2.718281828459045),
      ("tau", .float 6.283185307179586), ("inf", .float (1 / 0)), ("nan", .float (0 / 0))]
    ++ Builtin.mathematical.map fun b => (b.name, .builtin b)

/-- Remembers a module that has been made. -/
def enlist (name : String) (a : Address) : M σ Unit :=
  modify fun m => { m with modules := (name, a) :: m.modules }

/-- The module of a given name; it is made when it is first needed. -/
def importModule (name : String) : M σ Address := do
  match (← get).modules.lookup name with
  | some a => return a
  | none =>
    if name = "math" then do
      let a ← alloc (.module ⟨name, mathAttributes⟩)
      enlist name a
      return a
    else fail (.module name)

/-- `import …`. -/
def execImport : List ImportName → M σ Unit
  | [] => return
  | n :: ns => do
    let a ← importModule n.name
    assignName (n.boundName.getD n.name) (.ref a)
    execImport ns

/-- Binds names that a module provides. -/
def importNames (module : Value) (pos : Pos) : List ImportName → M σ Unit
  | [] => return
  | n :: ns => do
    match ← attempt (getAttribute module n.name) with
    | .ok v => assignName (n.boundName.getD n.name) v
    | .error _ => rethrow ⟨.module n.name, pos⟩
    importNames module pos ns

/-! ### Other statements -/

/-- `assert test, message`. -/
def execAssert (test : Expr) (message : Option Expr) : M σ Unit := do
  unless ← truthy r (← r.eval test) do
    match message with
    | some e => do
      let text ← r.str (← r.eval e)
      fail (.assertion text)
    | none => fail (.assertion "")

/-- `return value`. -/
def execReturn (value : Option Expr) : M σ Flow := do
  match (← frame?).map Frame.kind with
  | some .function => return .return_ ((← r.evalOption value).getD .none)
  | _ => fail (.misplaced .return_)

/-- `global names`; in the module it says nothing. -/
def execGlobal (names : List String) : M σ Unit :=
  changeFrame fun f => if f.kind = .module then f else { f with globals := f.globals ++ names }

/-- `nonlocal names`. -/
def execNonlocal (names : List String) (pos : Pos) : M σ Unit := do
  match (← frame?).map Frame.kind with
  | some .module => rethrow ⟨.misplaced .nonlocal, pos⟩
  | _ => changeFrame fun f => { f with nonlocals := f.nonlocals ++ names }

/-- `if test: body else: orelse`. -/
def execIf (test : Expr) (body orelse : List Stmt) : M σ Flow := do
  if ← truthy r (← r.eval test) then r.block body else r.block orelse

/-- A statement that always goes on to the next one. -/
def execSimple (a : Action) (pos : Pos) : M σ Unit := do
  match a with
  | .expr e => do let _ ← r.eval e
  | .assign targets value => do assignEach r (← r.eval value) targets
  | .augAssign target op value => augmentedAssign r target op value
  | .delete targets => deleteAll r targets
  | .global names => execGlobal names
  | .nonlocal names => execNonlocal names pos
  | .assert test message => execAssert r test message
  | .import_ names => execImport names
  | .importFrom module names => do importNames (.ref (← importModule module)) pos names
  | .functionDef d => do assignName d.name (← makeFunction r d)
  | .classDef d => execClass r d
  | _ => return

/-- What a statement does once its line has been reported. -/
def execAction (a : Action) (pos : Pos) : M σ Flow := do
  match a with
  | .break_ => return .break_
  | .continue_ => return .continue_
  | .return_ value => execReturn r value
  | .raise e => execRaise r e
  | .if_ test body orelse => execIf r test body orelse
  | .while_ test body orelse => whileLoop r test body orelse pos r.bound
  | .for_ target items body orelse => execFor r target items body orelse pos
  | .try_ body handlers orelse finalbody => execTry r body handlers orelse finalbody
  | a => do
    execSimple r a pos
    return .normal

/-- The condition that a statement branches on. -/
def branchCondition : Action → Option Expr
  | .if_ test _ _ => some test
  | _ => none

/-- Runs a statement. -/
def execStmt (s : Stmt) : M σ Flow := do
  goTo s.pos
  markLine r s.line false (branchCondition s.action)
  execAction r s.action s.pos

end Stepwise
