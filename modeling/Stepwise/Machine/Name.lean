import Stepwise.Machine.State

/-!
# Names

What a name stands for in the running frame, and where an assignment to it goes.

## The model

A name is looked for in the scope of the frame, in the scopes of the functions around it, in the
module, and among the built-ins. An assignment goes to the frame itself, unless the frame has
declared the name to be global or to belong to a function around.
-/

namespace Stepwise

variable {σ : Type}

namespace Machine

/-- The scope of the running frame. -/
def currentScope (m : Machine σ) : Address :=
  match m.stack with
  | f :: _ => f.locals
  | [] => m.globals

/-- Whether the running frame has declared a name global. -/
def isGlobal (m : Machine σ) (name : String) : Bool :=
  match m.stack with
  | f :: _ => f.globals.contains name
  | [] => false

/-- Whether the running frame has declared that a name belongs to a function around. -/
def isNonlocal (m : Machine σ) (name : String) : Bool :=
  match m.stack with
  | f :: _ => f.nonlocals.contains name
  | [] => false

/-- The value of a name of the module. -/
def global? (m : Machine σ) (name : String) : Option Value :=
  (m.heap.scope? m.globals).bind (·.vars.get? name)

/-- The value of a name that no scope binds. -/
def builtin? (m : Machine σ) (name : String) : Option Value :=
  match Builtin.named? name with
  | some b => some (.builtin b)
  | none => (m.exceptions.lookup name).map Value.ref

/-- The value of a name in the running frame. -/
def lookup? (m : Machine σ) (name : String) : Option Value :=
  let near :=
    if m.isGlobal name then none
    else m.heap.lookup? name m.heap.size (some m.currentScope)
  near.or ((m.global? name).or (m.builtin? name))

/-- The scope that an assignment to a name writes to. -/
def targetScope? (m : Machine σ) (name : String) : Option Address :=
  if m.isGlobal name then some m.globals
  else if m.isNonlocal name then
    m.heap.binder? name m.heap.size ((m.heap.scope? m.currentScope).bind (·.parent))
  else some m.currentScope

/-- The bindings of the running frame in the order they were made. -/
def bindings (m : Machine σ) : List (String × Value) :=
  match m.stack with
  | f :: _ => ((m.heap.scope? f.locals).map (·.vars.entries)).getD []
  | [] => []

end Machine

/-- The value of a name. -/
def lookupName (name : String) : M σ Value := do
  match (← get).lookup? name with
  | some v => return v
  | none => fail (.undefined name)

/-- The scope that an assignment to a name writes to. -/
def targetScope (name : String) : M σ Address := do
  match (← get).targetScope? name with
  | some a => return a
  | none => fail (.undefined name)

theorem targetScope_run (name : String) (m : Machine σ) : targetScope name m =
    (m.targetScope? name).elim (.error (.error ⟨.undefined name, m.pos⟩) m) (.ok · m) := by
  have here : (get : M σ (Machine σ)) m = .ok m m := rfl
  rw [targetScope, M.bind_ok here]
  cases m.targetScope? name <;> rfl

/-- Binds a name. -/
def assignName (name : String) (v : Value) : M σ Unit := do
  let a ← targetScope name
  changeHeap (·.modifyScope a (·.set name v))

/-- Removes a binding. -/
def deleteName (name : String) : M σ Unit := do
  let a ← targetScope name
  match (← getHeap).scope? a with
  | some s =>
    if s.vars.contains name then changeHeap (·.modifyScope a (·.erase name))
    else fail (.undefined name)
  | none => fail (.undefined name)

/-- The scope that a function or class made in the running frame takes along. In a class body that
is the scope around the class; the module is seen anyway. -/
def capturedScope : M σ (Option Address) := do
  match ← frame? with
  | none => return none
  | some f =>
    match f.kind with
    | .module => return none
    | .function => do
      changeFrame ({ · with captured := true })
      return some f.locals
    | .class_ => return ((← getHeap).scope? f.locals).bind (·.parent)

end Stepwise
