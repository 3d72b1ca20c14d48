import Stepwise.Heap.Object

/-!
# The heap

All objects of a run, by address. Addresses are given out in increasing order and never twice, so
an address doubles as the identity of its object.

## The model

The heap is an array with one place for every object ever made; a place whose object is gone stays
empty. Tuples are not on the heap, but the heap gives them their marks.
-/

namespace Stepwise

/-- The objects of a run. -/
structure Heap where
  /-- The object made first, second, …; `none` where it is gone. -/
  objects : Array (Option Object)
  /-- The number of tuples made. -/
  marks : Nat

namespace Heap

/-- The address of the first object. -/
def base : Address := 0x7f001000

/-- The heap without objects. -/
def empty : Heap := ⟨#[], 0⟩

/-- The address that the next object gets. -/
def next (h : Heap) : Address := base + h.objects.size

/-- Makes an object. -/
def alloc (h : Heap) (o : Object) : Address × Heap :=
  (h.next, { h with objects := h.objects.push (some o) })

/-- Makes a tuple. -/
def tuple (h : Heap) (items : List Value) : Value × Heap :=
  (.tuple h.marks items, { h with marks := h.marks + 1 })

/-- The object at an address. -/
def get? (h : Heap) (a : Address) : Option Object :=
  if a < base then none else (h.objects[a - base]?).join

/-- Changes the object at an address, if there is one. -/
def modify (h : Heap) (a : Address) (f : Object → Object) : Heap :=
  if a < base then h else { h with objects := h.objects.modify (a - base) (·.map f) }

/-- Gives up the object at an address. -/
def free (h : Heap) (a : Address) : Heap :=
  if a < base then h else { h with objects := h.objects.modify (a - base) fun _ => none }

/-! ### Objects of one kind -/

/-- The object that a value refers to. -/
def object? (h : Heap) (v : Value) : Option Object := v.address?.bind h.get?

/-- The items of a list. -/
def list? (h : Heap) (a : Address) : Option (Array Value) :=
  match h.get? a with
  | some (.list items) => some items
  | _ => none

/-- The table of a dictionary. -/
def dict? (h : Heap) (a : Address) : Option Table :=
  match h.get? a with
  | some (.dict t) => some t
  | _ => none

/-- The table of a set. -/
def set? (h : Heap) (a : Address) : Option Table :=
  match h.get? a with
  | some (.set t) => some t
  | _ => none

/-- The table of a dictionary or set. -/
def table? (h : Heap) (a : Address) : Option Table :=
  match h.get? a with
  | some (.dict t) | some (.set t) => some t
  | _ => none

/-- An instance. -/
def instance? (h : Heap) (a : Address) : Option Instance :=
  match h.get? a with
  | some (.inst i) => some i
  | _ => none

/-- A class. -/
def class? (h : Heap) (a : Address) : Option Class :=
  match h.get? a with
  | some (.cls c) => some c
  | _ => none

/-- A function of the script. -/
def closure? (h : Heap) (a : Address) : Option Closure :=
  match h.get? a with
  | some (.func f) => some f
  | _ => none

/-- A scope. -/
def scope? (h : Heap) (a : Address) : Option Scope :=
  match h.get? a with
  | some (.scope s) => some s
  | _ => none

/-- Changes the items of a list. -/
def modifyList (h : Heap) (a : Address) (f : Array Value → Array Value) : Heap :=
  h.modify a fun o => match o with
    | .list items => .list (f items)
    | o => o

/-- Changes the table of a dictionary or set. -/
def modifyTable (h : Heap) (a : Address) (f : Table → Table) : Heap :=
  h.modify a fun o => match o with
    | .dict t => .dict (f t)
    | .set t => .set (f t)
    | o => o

/-- Changes an instance. -/
def modifyInstance (h : Heap) (a : Address) (f : Instance → Instance) : Heap :=
  h.modify a fun o => match o with
    | .inst i => .inst (f i)
    | o => o

/-- Changes a class. -/
def modifyClass (h : Heap) (a : Address) (f : Class → Class) : Heap :=
  h.modify a fun o => match o with
    | .cls c => .cls (f c)
    | o => o

/-- Changes the bindings of a scope. -/
def modifyScope (h : Heap) (a : Address) (f : Namespace → Namespace) : Heap :=
  h.modify a fun o => match o with
    | .scope s => .scope { s with vars := f s.vars }
    | o => o

/-! ### Scopes -/

/-- The value of a name in a scope or one of the scopes behind it, at most `fuel` of them. -/
def lookup? (h : Heap) (name : String) : (fuel : Nat) → Option Address → Option Value
  | 0, _ | _, none => none
  | fuel + 1, some a =>
    match h.scope? a with
    | none => none
    | some s => (s.vars.get? name).or (lookup? h name fuel s.parent)

/-- The first scope that binds a name, from a given one on, among at most `fuel` scopes. -/
def binder? (h : Heap) (name : String) : (fuel : Nat) → Option Address → Option Address
  | 0, _ | _, none => none
  | fuel + 1, some a =>
    match h.scope? a with
    | none => none
    | some s => if s.vars.contains name then some a else binder? h name fuel s.parent

/-- The number of addresses given out: no chain of scopes is longer. -/
def size (h : Heap) : Nat := h.objects.size

/-! ### Keys -/

/-- The key of a double: that of the integer it equals, if it equals one of 64 bits. -/
def floatKey (x : Float) : Key :=
  if x.isFinite && Decimal.isIntegral x && x.abs < 9.2e18 then .int (Decimal.truncate x)
  else .float x.toBits

mutual

/-- The key of a value; lists, dictionaries and sets have none. -/
def key? (h : Heap) : Value → Option Key
  | .none => some .none
  | .bool b => some (.int (if b then 1 else 0))
  | .int n => some (.int n)
  | .float x => some (floatKey x)
  | .str s => some (.str s)
  | .tuple _ items => (keys? h items).map .tuple
  | .range start stop step => some (.range start stop step)
  | .builtin b => some (.builtin b)
  | .ref a =>
    match h.get? a with
    | none | some (.list _) | some (.dict _) | some (.set _) => none
    | some _ => some (.identity a)

/-- The keys of all of some values. -/
def keys? (h : Heap) : List Value → Option (List Key)
  | [] => some []
  | v :: vs => do return (← key? h v) :: (← keys? h vs)

end

end Heap

end Stepwise
