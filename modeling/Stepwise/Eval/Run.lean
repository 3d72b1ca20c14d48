import Stepwise.Eval.Stmt

/-!
# Runs

Ties the evaluator together: tasks are done one level at a time, down to a bound on the depth
(`runWith`), and a program runs in the frame of its module (`runProgram`).

## The model

An observer's expressions are evaluated by a runner that tells nobody about events and refuses to
run functions of the script, so watching a run adds no steps of its own (`inquire`).
-/

namespace Stepwise

open Script

variable {σ α : Type}

/-- Does one task, leaving the tasks it consists of to a runner. -/
def step (r : Runner σ) : {α : Type} → Task α → M σ α
  | _, .eval e => evalExpr r e
  | _, .exec s => execStmt r s
  | _, .call callee args keywords => callValue r callee args keywords
  | _, .equals a b => equalValues r a b
  | _, .order op a b => orderValues r op a b
  | _, .repr v => reprOf r v
  | _, .str v => strOf r v
  | _, .iterate v => itemsOf r v
  | _, .assign target v => assignTarget r target v
  | _, .delete target => deleteTarget r target

/-- Does tasks at most `fuel` levels deep. What is done at an event may depend on the levels that
are left. -/
def runWith (tell : Nat → Moment → M σ Unit) (reveal : M σ Unit) :
    (fuel : Nat) → {α : Type} → Task α → M σ α
  | 0, _, _ => throw .outOfFuel
  | fuel + 1, _, t => step ⟨runWith tell reveal fuel, tell fuel, reveal, fuel⟩ t

/-- The runner that does tasks at most `fuel` levels deep. -/
def runner (tell : Nat → Moment → M σ Unit) (reveal : M σ Unit) (fuel : Nat) : Runner σ :=
  ⟨runWith tell reveal fuel, tell fuel, reveal, fuel⟩

/-- A runner that nobody watches. -/
def quiet (fuel : Nat) : Runner σ := runner (fun _ _ => pure ()) (pure ()) fuel

/-- Runs `x` while functions of the script refuse to run, and comes back to the same position. -/
def inspect (x : M σ α) : M σ (Except RuntimeError α) := do
  let m ← get
  modify fun m => { m with inspecting := true }
  let result ← attempt x
  modify fun m' => { m' with inspecting := m.inspecting, pos := m.pos }
  return result

/-- Evaluates an expression in the running frame without running functions of the script. -/
def evalInFrame (r : Runner σ) (e : Expr) : M σ (Except RuntimeError Value) :=
  inspect (r.eval e)

/-- Tests whether an expression is true in the running frame, without running functions of the
script. -/
def testInFrame (r : Runner σ) (e : Expr) : M σ (Except RuntimeError Bool) :=
  inspect do truthy r (← r.eval e)

/-- Carries out an inquiry. -/
def inquire (r : Runner σ) : Inquiry σ → M σ Unit
  | .note log => modify fun m => { m with log }
  | .eval e next => do
    let result ← evalInFrame r e
    inquire r (next (← get) result)
  | .test e next => do
    let result ← testInFrame r e
    inquire r (next (← get) result)

/-- Writes down an event and asks an observer about it. -/
def askObserver (observe : Observer σ) (fuel : Nat) (moment : Moment) : M σ Unit := do
  report moment.kind
  inquire (quiet fuel) (observe moment (← get))

/-- A runner that an observer watches. -/
def watched (observe : Observer σ) (fuel : Nat) : Runner σ :=
  runner (askObserver observe) (pure ()) fuel

/-- A bound on the depth of runs that no script comes near. -/
def ample : Nat := 1000000000000000000

/-- The name of the frame of a module. -/
def moduleName : String := "<module>"

/-- Runs a program in the frame of its module. -/
def runProgram (r : Runner σ) (p : Program) : M σ Unit := do
  let m ← get
  let _ ← runFrame r (Frame.start moduleName .module m.globals 0) p

/-- How a run has ended. -/
inductive Outcome where
  | finished
  | failed (e : RuntimeError)
  | outOfFuel

/-- The outcome and the machine after a run. -/
def outcome (x : M σ α) (m : Machine σ) : Outcome × Machine σ :=
  match x m with
  | .ok _ m => (.finished, m)
  | .error (.error e) m => (.failed e, m)
  | .error .outOfFuel m => (.outOfFuel, m)

/-- Binds a name of the module before a run. -/
def Machine.setGlobal (m : Machine σ) (name : String) (v : Value) : Machine σ :=
  { m with heap := m.heap.modifyScope m.globals (·.set name v) }

end Stepwise
