import Stepwise.Fault.Basic
import Stepwise.Heap.Class

/-!
# The machine

The state of a running script, and the monad in which it runs.

## The model

A `Machine` holds the heap and the open frames, innermost first. The bindings of a frame are a
scope on the heap, so that functions made in the frame can keep them. What an observer of the run
remembers is part of the machine (`log`), its type being a parameter, and so are the events that the
observer was told (`history`); nothing in a run looks at either.

Running (`M`) either gives a result, or a runtime error that the script may still catch, or stops
because the bound on its length was too small (`Failure.outOfFuel`); nothing catches the last. A run
that breaks off (`breakOff`) stops in the same way, whatever the bound.
-/

namespace Stepwise

open Script

/-- What a frame runs. -/
inductive FrameKind where
  | module | function | class_
  deriving DecidableEq, Repr

/-- A running module, function or class body. -/
structure Frame where
  /-- The name of what runs. -/
  name : String
  /-- What runs. -/
  kind : FrameKind
  /-- The scope of its bindings. -/
  locals : Address
  /-- The class that the function belongs to, or whose body runs. -/
  owner : Option Address
  /-- The object that a method was called on. -/
  receiver : Option Value
  /-- The names declared global. -/
  globals : List String
  /-- The names declared to belong to a function around. -/
  nonlocals : List String
  /-- The line that runs. -/
  line : Nat
  /-- The line that was reported last. -/
  reported : Option Nat
  /-- Whether a function made here keeps the scope. -/
  captured : Bool

/-- A frame at its start. -/
def Frame.start (name : String) (kind : FrameKind) (locals : Address) (line : Nat) : Frame :=
  ⟨name, kind, locals, none, none, [], [], line, none, false⟩

/-- The kinds of events in a run. -/
inductive EventKind where
  | call | line | return_
  deriving DecidableEq, Repr

/-- The name of a kind of event. -/
def EventKind.name : EventKind → String
  | call => "call"
  | line => "line"
  | return_ => "return"

/-- An event: what happened, in which frame, and on which line. -/
structure Event where
  /-- What happened. -/
  kind : EventKind
  /-- The name of the frame. -/
  name : String
  /-- What the frame runs. -/
  frame : FrameKind
  /-- The scope of the frame. -/
  locals : Address
  /-- The line of the frame. -/
  line : Nat
  deriving DecidableEq, Repr

/-- An event in a frame. -/
def Frame.event (f : Frame) (kind : EventKind) : Event := ⟨kind, f.name, f.kind, f.locals, f.line⟩

/-- The state of a running script. -/
structure Machine (σ : Type) where
  /-- All objects. -/
  heap : Heap
  /-- The open frames, innermost first. -/
  stack : List Frame
  /-- The scope of the module. -/
  globals : Address
  /-- The built-in exception classes by name. -/
  exceptions : List (String × Address)
  /-- The modules imported so far. -/
  modules : List (String × Address)
  /-- Everything that has been printed. -/
  output : String
  /-- Where in the script the run is. -/
  pos : Pos
  /-- The errors whose handlers are running, innermost first. -/
  handled : List RuntimeError
  /-- The containers that are being turned into text. -/
  writing : List Address
  /-- Whether the run is only being looked at; functions of the script do not run then. -/
  inspecting : Bool
  /-- What an observer remembers. -/
  log : σ
  /-- The events that an observer was told, the last one first. -/
  history : List Event

/-- Why a run stops. -/
inductive Failure where
  /-- An error that nothing has caught. -/
  | error (e : RuntimeError)
  /-- The bound on the length of the run was too small, or the run broke off. -/
  | outOfFuel

/-- Runs of a machine with the result `α`. -/
abbrev M (σ α : Type) := EStateM Failure (Machine σ) α

variable {σ α : Type}

/-! ### One run after another -/

theorem M.bind_ok {β : Type} {x : M σ α} {f : α → M σ β} {m m' : Machine σ} {a : α}
    (h : x m = .ok a m') : (x >>= f) m = f a m' := by
  show EStateM.bind x f m = _
  rw [EStateM.bind, h]

theorem M.bind_error {β : Type} {x : M σ α} {f : α → M σ β} {m m' : Machine σ} {e : Failure}
    (h : x m = .error e m') : (x >>= f) m = .error e m' := by
  show EStateM.bind x f m = _
  rw [EStateM.bind, h]

/-! ### Failing and catching -/

/-- Fails at the current position. -/
def fail (f : Fault) : M σ α := fun m => .error (.error ⟨f, m.pos⟩) m

/-- The result of a computation that may find a fault. -/
def lift : Except Fault α → M σ α
  | .ok a => pure a
  | .error f => fail f

/-- Runs `x` and gives its error as a result. What `x` has done stays done. -/
def attempt (x : M σ α) : M σ (Except RuntimeError α) := fun m =>
  match x m with
  | .ok a m => .ok (.ok a) m
  | .error (.error e) m => .ok (.error e) m
  | .error .outOfFuel m => .error .outOfFuel m

/-- Fails with an error that has been caught. -/
def rethrow (e : RuntimeError) : M σ α := throw (.error e)

/-- Breaks the run off: it has no result, and nothing catches that. -/
def breakOff : M σ α := throw .outOfFuel

/-- The value of an option. If there is none, the bound was too small, or the run breaks off. -/
def enough : Option α → M σ α
  | some a => pure a
  | none => throw .outOfFuel

/-! ### The heap -/

/-- The heap. -/
def getHeap : M σ Heap := return (← get).heap

theorem getHeap_bind (f : Heap → M σ α) (m : Machine σ) :
    (getHeap >>= f) m = f m.heap m := rfl

/-- Changes the heap. -/
def changeHeap (f : Heap → Heap) : M σ Unit := modify fun m => { m with heap := f m.heap }

/-- Makes an object. -/
def alloc (o : Object) : M σ Address :=
  modifyGet fun m =>
    let (a, heap) := m.heap.alloc o
    (a, { m with heap })

/-- Makes an object and refers to it. -/
def make (o : Object) : M σ Value := return .ref (← alloc o)

/-- Makes a list. -/
def makeList (items : List Value) : M σ Value := make (.list items.toArray)

/-- Makes a tuple. -/
def makeTuple (items : List Value) : M σ Value :=
  modifyGet fun m =>
    let (v, heap) := m.heap.tuple items
    (v, { m with heap })

/-- The name of the type of a value. -/
def typeName (v : Value) : M σ String := return (← getHeap).typeName v

/-- Fails with a fault that names the type of a value. -/
def failType (f : String → TypeFault) (v : Value) : M σ α := do fail (.type (f (← typeName v)))

/-! ### Tables -/

/-- The key of a value. -/
def keyOf (v : Value) : M σ Key := do
  match (← getHeap).key? v with
  | some k => return k
  | none => failType .unhashable v

theorem keyOf_some {v : Value} {k : Key} {m : Machine σ} (key : m.heap.key? v = some k) :
    keyOf v m = .ok k m := by
  rw [keyOf, getHeap_bind, key]
  rfl

/-- The table with the given entries. -/
def tableOf (entries : List (Value × Value)) : M σ Table :=
  entries.foldlM (fun t e => return t.insert (← keyOf e.1) e.1 e.2) .empty

/-- The table with the given members. -/
def membersOf (items : List Value) : M σ Table :=
  items.foldlM (fun t v => return t.add (← keyOf v) v) .empty

/-- Makes a dictionary. -/
def makeDict (entries : List (Value × Value)) : M σ Value := do make (.dict (← tableOf entries))

/-- Makes a set. -/
def makeSet (items : List Value) : M σ Value := do make (.set (← membersOf items))

/-! ### Frames -/

/-- The running frame. -/
def frame? : M σ (Option Frame) := return (← get).stack.head?

/-- Changes the running frame. -/
def changeFrame (f : Frame → Frame) : M σ Unit :=
  modify fun m => { m with stack := m.stack.modifyHead f }

/-- Opens a frame. -/
def pushFrame (f : Frame) : M σ Unit := modify fun m => { m with stack := f :: m.stack }

/-- Closes the running frame. -/
def popFrame : M σ (Option Frame) :=
  modifyGet fun m => (m.stack.head?, { m with stack := m.stack.tail })

/-- Moves to another position. -/
def goTo (pos : Pos) : M σ Unit := modify fun m => { m with pos }

/-- Writes down an event of the running frame. -/
def report (kind : EventKind) : M σ Unit := modify fun m =>
  match m.stack with
  | [] => m
  | f :: _ => { m with history := f.event kind :: m.history }

/-- Prints a text. -/
def emit (text : String) : M σ Unit := modify fun m => { m with output := m.output ++ text }

/-! ### The start -/

/-- Makes a built-in exception class, given those that are known by name. -/
def addException (s : List (String × Address) × Heap) (e : String × Option String) :
    List (String × Address) × Heap :=
  let (known, h) := s
  let (name, parent) := e
  let bases := ((parent.bind fun p => known.lookup p).map ([·])).getD []
  let (a, h) := h.allocClass name bases true
  (known ++ [(name, a)], h)

/-- Makes the built-in exception classes, and tells where they are. -/
def exceptionClasses (h : Heap) : List (String × Address) × Heap :=
  exceptionHierarchy.foldl addException ([], h)

/-- A machine before it runs anything. -/
def Machine.start (log : σ) : Machine σ :=
  let vars : Namespace := .ofList [("__name__", .str "__main__")]
  let globals := Heap.empty.alloc (.scope ⟨vars, none⟩)
  let exceptions := exceptionClasses globals.2
  ⟨exceptions.2, [], globals.1, exceptions.1, [], "", ⟨0, 0⟩, [], [], false, log, []⟩

end Stepwise
