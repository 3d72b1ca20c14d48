import Stepwise.Heap.Basic

/-!
# Classes

In which order the classes of an object are searched, what is found there, and what a value is
called: the name of its type.

## The model

A class lists all classes that it inherits from, itself first (`Class.mro`). The list is made once,
depth first and from left to right, keeping the first place of a class that comes twice.
-/

namespace Stepwise.Heap

/-- Adds those members of `new` that `seen` does not have yet. -/
def merge (seen new : List Address) : List Address :=
  new.foldl (fun seen a => if seen.contains a then seen else seen ++ [a]) seen

/-- The order of lookup of a class with the given bases. -/
def linearize (h : Heap) (cls : Address) (bases : List Address) : List Address :=
  bases.foldl (fun seen b => match h.class? b with
    | some c => merge seen c.mro
    | none => seen) [cls]

/-- Makes a class without attributes. -/
def allocClass (h : Heap) (name : String) (bases : List Address) (builtin : Bool) :
    Address × Heap :=
  let mro := linearize h h.next bases
  h.alloc (.cls ⟨name, bases, mro, .empty, builtin⟩)

/-- The attribute that a class itself has, and the class. -/
def own? (h : Heap) (name : String) (cls : Address) : Option (Value × Address) := do
  let c ← h.class? cls
  let v ← c.attrs.get? name
  return (v, cls)

/-- The attribute of the first class in the order of lookup that has it, and that class. -/
def classLookup? (h : Heap) (cls : Address) (name : String) : Option (Value × Address) := do
  let c ← h.class? cls
  c.mro.findSome? (h.own? name)

/-- What follows the first `a` in a list; the whole list if there is none. -/
def behind (a : Address) (as : List Address) : List Address :=
  match as.dropWhile (· ≠ a) with
  | [] => as
  | _ :: rest => rest

/-- The attribute of the first class that has it, among those behind `after` in the order of
lookup of `cls`. -/
def classLookupAfter? (h : Heap) (cls after : Address) (name : String) :
    Option (Value × Address) := do
  let c ← h.class? cls
  (behind after c.mro).findSome? (h.own? name)

/-- Whether a class is another one or inherits from it. -/
def isSubclass (h : Heap) (cls other : Address) : Bool :=
  (h.class? cls).any (·.mro.contains other)

/-- Whether a class is an exception class: the last class in its order of lookup is built in. -/
def isExceptionClass (h : Heap) (cls : Address) : Bool :=
  match h.class? cls with
  | none => false
  | some c => match c.mro.getLast? with
    | none => false
    | some root => (h.class? root).any (·.builtin)

/-- The class of an instance. -/
def classOf? (h : Heap) (v : Value) : Option Address := do
  let i ← h.instance? (← v.address?)
  return i.cls

/-- The name of a class. -/
def className (h : Heap) (cls : Address) : String :=
  match h.class? cls with
  | some c => c.name
  | none => "object"

/-- The name of the type of an object. -/
def objectTypeName (h : Heap) : Object → String
  | .list _ => "list"
  | .dict _ => "dict"
  | .set _ => "set"
  | .inst i => h.className i.cls
  | .cls _ => "type"
  | .func _ => "function"
  | .boundMethod _ _ => "method"
  | .nativeMethod _ _ => "builtin_function_or_method"
  | .super _ _ => "super"
  | .module _ => "module"
  | .scope _ => "cell"

/-- The name of the type of a value. -/
def typeName (h : Heap) (v : Value) : String :=
  match v.inlineTypeName? with
  | some name => name
  | none => match h.object? v with
    | some o => h.objectTypeName o
    | none => "object"

/-- Whether a value can be called. -/
def isCallable (h : Heap) : Value → Bool
  | .builtin _ => true
  | .ref a =>
    match h.get? a with
    | some (.cls _) | some (.func _) | some (.boundMethod _ _) | some (.nativeMethod _ _) => true
    | some (.inst i) => (h.classLookup? i.cls "__call__").isSome
    | _ => false
  | _ => false

end Stepwise.Heap
