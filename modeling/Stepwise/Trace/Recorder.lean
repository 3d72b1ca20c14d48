import Stepwise.Eval.Run
import Stepwise.Trace.Line
import Stepwise.Trace.Pure

/-!
# The recorder

The observer that writes down a trace. It stays silent until a main line is about to run and the
frame has a variable; from then on it records every event, except for those of the module before
its first main line.

## The model

`Recorder` is what the observer remembers. Every open call is marked with whether it was recorded,
so the depth counts recorded calls only, however the run leaves them.
-/

namespace Stepwise

open Script

/-- The source text of a run: its lines, and the main ones among them. -/
structure Listing where
  /-- All lines. -/
  lines : Array String
  /-- The main lines in increasing order. -/
  main : List Nat

/-- The listing of a program. -/
def Listing.of (source : String) (p : Program) : Listing :=
  ⟨(Text.lines source).toArray, mainLines p⟩

/-- What the recorder remembers. -/
structure Recorder where
  /-- Whether something was recorded. -/
  armed : Bool
  /-- The number of recorded calls that are open. -/
  depth : Nat
  /-- The open calls, innermost first: whether each was recorded. -/
  calls : List Bool
  /-- The entries so far. -/
  entries : Array Entry

namespace Recorder

variable {σ : Type}

/-- The recorder at the start of a run. -/
def start : Recorder := ⟨false, 0, [], #[]⟩

/-- The name under which a running script finds its own lines. -/
def linesName : String := "__code_lines__"

/-- Names that are not shown: those that the machine itself binds. -/
def isHidden (name : String) : Bool :=
  name == linesName || (name.startsWith "__" && name.endsWith "__")

/-- Whether there is a variable to be seen. -/
def hasVariables (m : Machine σ) : Bool :=
  m.bindings.any fun (name, v) => !name.startsWith "__" && !m.heap.isCallable v

/-- Whether an event is recorded. -/
def admits (s : Listing) (m : Machine Recorder) (f : Frame) : Bool :=
  !(f.kind == .module && f.line < startLine s.main)
    && (m.log.armed || (s.main.contains f.line && hasVariables m))

/-- Keeps account of an event: opens or closes a call. -/
def count (r : Recorder) (kind : EventKind) (recorded : Bool) : Recorder :=
  let r := { r with armed := r.armed || recorded }
  match kind with
  | .call => { r with
      calls := recorded :: r.calls, depth := r.depth + if recorded then 1 else 0 }
  | .return_ => { r with
      calls := r.calls.tail, depth := r.depth - if r.calls.head? = some true then 1 else 0 }
  | .line => r

/-- What is shown of a value, and its tag. -/
def describe (h : Heap) (v : Value) : Tag × Shown :=
  let tag := h.tagOf v
  if tag.isLinked then
    let chain := h.chainOf v tag
    (chain.settle tag, .chain chain)
  else if tag = .constructing then
    (tag, .plain (.str ("<" ++ h.typeName v ++ " constructing...>")))
  else (tag, .plain ((h.plain? ample v).getD .null))

/-- The variables that are shown, with their tags. -/
def shownBindings (m : Machine Recorder) : List (String × Tag × Shown) :=
  (m.bindings.filter fun (name, v) => !isHidden name && !m.heap.isCallable v).map
    fun (name, v) => (name, describe m.heap v)

/-- The frame at an event. -/
def snapshot (m : Machine Recorder) (f : Frame) (scope : Option LineScope) (depth : Nat)
    (branch : Option Bool) : Snapshot :=
  let shown := shownBindings m
  ⟨f.line, f.name, .ofList (shown.map fun (name, _, v) => (name, v)),
    .ofList (shown.map fun (name, t, _) => (name, t)), scope, depth, branch⟩

/-- The text of a line: from the listing, or from what the script finds as its lines. -/
def lineText (s : Listing) (m : Machine σ) (line : Nat) : String :=
  let item (items : Array Value) : Option String := do (← items[line - 1]?).asStr?
  let found : Option String :=
    if line = 0 then none
    else s.lines[line - 1]?.or (do
      item (← m.heap.list? (← (← m.global? linesName).address?)))
  Text.trim (found.getD "")

/-- Whether a name stands for a function that does no harm. -/
def isHarmless (m : Machine σ) (name : String) : Bool :=
  match m.lookup? name with
  | some (.builtin b) => b.isPure
  | _ => false

/-- The expression that decides whether the body of a conditional line runs. -/
def question? (moment : Moment) (condition : Option Condition) : Option Expr :=
  match moment.condition, condition with
  | some e, _ => some e
  | none, some (.test text) => (parseExpr text).toOption
  | none, _ => none

/-- Finds out whether the body of a conditional line is about to run, if that can be found out
without harm, and goes on with the answer. -/
def askBranch (moment : Moment) (m : Machine Recorder) (text : String)
    (next : Machine Recorder → Option Bool → Inquiry Recorder) : Inquiry Recorder :=
  let condition := conditionOf? text
  match question? moment condition with
  | some e =>
    if e.isPure (isHarmless m) then .test e fun m answer => next m answer.toOption
    else next m none
  | none => next m (if moment.condition.isNone && condition = some .always then some true else none)

/-- Records an event. -/
def record (s : Listing) (moment : Moment) (m : Machine Recorder) (f : Frame) (r : Recorder) :
    Inquiry Recorder :=
  let text := lineText s m f.line
  let scope := scopeOf text moment.kind
  let finish (m : Machine Recorder) (branch : Option Bool) : Inquiry Recorder :=
    let entry := Entry.step moment.kind (snapshot m f scope r.depth branch)
    .note { r with entries := r.entries.push entry }
  if moment.kind = .line ∧ scope = some .conditional then askBranch moment m text finish
  else finish m none

/-- The observer that records a run. -/
def observe (s : Listing) : Observer Recorder := fun moment m =>
  match m.stack with
  | [] => .note m.log
  | f :: _ =>
    let recorded := admits s m f
    let r := m.log.count moment.kind recorded
    if recorded then record s moment m f r else .note r

end Recorder

end Stepwise
