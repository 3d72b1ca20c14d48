import Stepwise.Machine.State

/-!
# Tasks and observers

The things a machine can be told to do, and how a run is watched.

## The model

Running a script is one recursion through many kinds of work: expressions call functions, functions
run statements, statements compare values, comparisons call functions. `Task` lists these kinds of
work, each with the type of its result. Every part of the evaluator is an ordinary function of a
`Runner`, which says how to do tasks; the recursion is tied only once, by a bound on its depth.

An `Observer` is asked at every call, line and return. It may look at the machine, have expressions
evaluated in the running frame, and remember something (`Inquiry`); it can do nothing else.
-/

namespace Stepwise

open Script

/-- How a statement ends, errors apart. -/
inductive Flow where
  | normal
  | break_
  | continue_
  | return_ (v : Value)

/-- Keyword arguments of a call. -/
abbrev Keywords := List (String × Value)

/-- Something to do, with the type of its result. -/
inductive Task : Type → Type where
  /-- Evaluates an expression. -/
  | eval (e : Expr) : Task Value
  /-- Runs a statement. -/
  | exec (s : Stmt) : Task Flow
  /-- Calls a value. -/
  | call (callee : Value) (args : List Value) (keywords : Keywords) : Task Value
  /-- Compares two values for equality. -/
  | equals (a b : Value) : Task Bool
  /-- Compares two values by order. -/
  | order (op : CompareOp) (a b : Value) : Task Bool
  /-- Writes a value as the script language would. -/
  | repr (v : Value) : Task String
  /-- Writes a value for a reader. -/
  | str (v : Value) : Task String
  /-- Lists the items of a value. -/
  | iterate (v : Value) : Task (List Value)
  /-- Assigns to a target. -/
  | assign (target : Expr) (v : Value) : Task Unit
  /-- Deletes a target. -/
  | delete (target : Expr) : Task Unit

/-! ### Observers -/

/-- What an observer is told about an event, apart from the machine. -/
structure Moment where
  /-- The kind of event. -/
  kind : EventKind
  /-- The condition of the `if` whose line is about to run. -/
  condition : Option Expr

/-- What an observer does at an event. -/
inductive Inquiry (σ : Type) where
  /-- Ends the inquiry and remembers something. -/
  | note (log : σ)
  /-- Evaluates an expression in the running frame. -/
  | eval (e : Expr) (next : Machine σ → Except RuntimeError Value → Inquiry σ)
  /-- Tests whether an expression is true in the running frame. -/
  | test (e : Expr) (next : Machine σ → Except RuntimeError Bool → Inquiry σ)

/-- An observer of a run: what it does at an event. -/
abbrev Observer (σ : Type) := Moment → Machine σ → Inquiry σ

/-! ### Runners -/

/-- A way to do tasks. -/
structure Runner (σ : Type) where
  /-- Does a task. -/
  run : {α : Type} → Task α → M σ α
  /-- Tells the observer about an event. -/
  notify : Moment → M σ Unit
  /-- Is done before an address becomes a number or part of a text. -/
  reveal : M σ Unit
  /-- How often a loop may go round, and how deep a text may nest. -/
  bound : Nat

namespace Runner

variable {σ : Type} (r : Runner σ)

/-- Evaluates an expression. -/
def eval (e : Expr) : M σ Value := r.run (.eval e)

/-- Evaluates expressions from left to right. -/
def evalAll : List Expr → M σ (List Value)
  | [] => return []
  | e :: es => do
    let v ← r.eval e
    return v :: (← evalAll es)

/-- Evaluates an expression if there is one. -/
def evalOption : Option Expr → M σ (Option Value)
  | none => return none
  | some e => return some (← r.eval e)

/-- Calls a value. -/
def call (callee : Value) (args : List Value) (keywords : Keywords) : M σ Value :=
  r.run (.call callee args keywords)

/-- Whether two values are equal. -/
def equals (a b : Value) : M σ Bool := r.run (.equals a b)

/-- Whether `a` comes before `b`. -/
def lessThan (a b : Value) : M σ Bool := r.run (.order .lt a b)

/-- A value as the script language would write it. -/
def repr (v : Value) : M σ String := r.run (.repr v)

/-- A value as text for a reader. -/
def str (v : Value) : M σ String := r.run (.str v)

/-- The items of a value. -/
def iterate (v : Value) : M σ (List Value) := r.run (.iterate v)

/-- Assigns to a target. -/
def assign (target : Expr) (v : Value) : M σ Unit := r.run (.assign target v)

/-- Runs statements until one of them leaves the block. -/
def block : List Stmt → M σ Flow
  | [] => return .normal
  | s :: ss => do
    match ← r.run (.exec s) with
    | .normal => block ss
    | flow => return flow

end Runner

end Stepwise
