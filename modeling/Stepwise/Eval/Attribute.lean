import Stepwise.Machine.State

/-!
# Attributes

What `object.name` is, for every kind of object, and how attributes are set and deleted.

## The model

An instance has its own attributes; behind them are those of its classes, whose functions become
methods bound to the instance. The methods of lists, dictionaries, sets, strings and numbers are
known by name (`nativeMethods`).
-/

namespace Stepwise

variable {σ : Type}

/-! ### Built-in methods -/

/-- The methods of lists. -/
def listMethods : List String :=
  ["append", "extend", "insert", "pop", "remove", "index", "count", "reverse", "sort", "copy",
    "clear"]

/-- The methods of dictionaries. -/
def dictMethods : List String :=
  ["get", "keys", "values", "items", "pop", "popitem", "setdefault", "update", "copy", "clear"]

/-- The methods of sets. -/
def setMethods : List String :=
  ["add", "remove", "discard", "pop", "union", "intersection", "difference",
    "symmetric_difference", "issubset", "issuperset", "isdisjoint", "update", "copy", "clear"]

/-- The methods of strings. -/
def strMethods : List String :=
  ["join", "split", "splitlines", "strip", "lstrip", "rstrip", "lower", "upper", "replace",
    "startswith", "endswith", "find", "rfind", "index", "count", "isdigit", "isalpha", "isalnum",
    "isspace", "isupper", "islower", "title", "capitalize", "format", "zfill", "center", "ljust",
    "rjust", "partition"]

/-- The built-in methods of a value. -/
def Heap.nativeMethods (h : Heap) (v : Value) : List String :=
  match v with
  | .str _ => strMethods
  | .float _ => ["is_integer"]
  | .int _ => ["bit_length"]
  | .ref a =>
    match h.get? a with
    | some (.list _) => listMethods
    | some (.dict _) => dictMethods
    | some (.set _) => setMethods
    | _ => []
  | _ => []

/-- Whether a value has a built-in method. -/
def Heap.hasNativeMethod (h : Heap) (v : Value) (name : String) : Bool :=
  (h.nativeMethods v).contains name

/-! ### Reading -/

/-- What reading an attribute comes to. -/
inductive Attribute where
  /-- A value as it is. -/
  | value (v : Value)
  /-- A value of a class, to be bound to `receiver` if it is a function. -/
  | bind (v receiver : Value)
  /-- A built-in method of `receiver`. -/
  | native (receiver : Value)
  /-- There is no such attribute. -/
  | missing (f : AttributeFault)

namespace Heap

/-- An attribute of an instance. -/
def instanceAttribute (h : Heap) (a : Address) (i : Instance) (name : String) : Attribute :=
  match i.attrs.get? name with
  | some v => .value v
  | none =>
    if name = "__class__" then .value (.ref i.cls)
    else match h.classLookup? i.cls name with
      | some (v, _) => .bind v (.ref a)
      | none => .missing (.ofObject (h.className i.cls) name)

/-- An attribute of a class. -/
def classAttribute (h : Heap) (a : Address) (c : Class) (name : String) : Attribute :=
  if name = "__name__" then .value (.str c.name)
  else match h.classLookup? a name with
    | some (v, _) => .value v
    | none => .missing (.ofClass c.name name)

/-- An attribute found behind a class in the order of `receiver`. -/
def superAttribute (h : Heap) (cls : Address) (receiver : Value) (name : String) : Attribute :=
  let start := ((h.classOf? receiver).or receiver.address?).getD cls
  match h.classLookupAfter? start cls name with
  | some (v, _) => .bind v receiver
  | none => if name = "__init__" then .native receiver else .missing (.ofObject "super" name)

/-- An attribute of a value, the arguments of an exception apart. -/
def attributeOf (h : Heap) (v : Value) (name : String) : Attribute :=
  let other :=
    if h.hasNativeMethod v name then .native v else .missing (.ofObject (h.typeName v) name)
  match v with
  | .builtin b => if name = "__name__" then .value (.str b.name) else other
  | .ref a =>
    match h.get? a with
    | some (.inst i) => h.instanceAttribute a i name
    | some (.cls c) => h.classAttribute a c name
    | some (.module m) =>
      match m.attrs.get? name with
      | some v => .value v
      | none => .missing (.ofModule m.name name)
    | some (.super cls receiver) => h.superAttribute cls receiver name
    | some (.func f) => if name = "__name__" then .value (.str f.definition.name) else other
    | _ => other
  | _ => other

/-- The arguments of an exception, if `name` means them: its own attribute of that name comes
first. -/
def exceptionArgs? (h : Heap) (v : Value) (name : String) : Option (List Value) := do
  let i ← h.instance? (← v.address?)
  if name = "args" && !i.attrs.contains name && h.isExceptionClass i.cls then some i.args
  else none

end Heap

/-- A value of a class as an attribute of `receiver`: functions become methods. -/
def bindTo (v receiver : Value) : M σ Value := do
  match v with
  | .ref a =>
    match (← getHeap).closure? a with
    | some _ => make (.boundMethod receiver a)
    | none => return v
  | _ => return v

/-- The attribute `name` of a value. -/
def getAttribute (v : Value) (name : String) : M σ Value := do
  let h ← getHeap
  match h.exceptionArgs? v name with
  | some args => makeTuple args
  | none =>
    match h.attributeOf v name with
    | .value v => return v
    | .bind v receiver => bindTo v receiver
    | .native receiver => make (.nativeMethod receiver name)
    | .missing f => fail (.noAttribute f)

/-! ### Writing -/

/-- Fails because a value has no attribute of that name. -/
def failAttribute {α : Type} (v : Value) (name : String) : M σ α := do
  fail (.noAttribute (.ofObject (← typeName v) name))

/-- Sets an attribute. Instances and the classes of the script take any; nothing else does. -/
def setAttribute (v : Value) (name : String) (x : Value) : M σ Unit := do
  match v with
  | .ref a =>
    match (← getHeap).get? a with
    | some (.inst _) =>
      changeHeap (·.modifyInstance a fun i => { i with attrs := i.attrs.set name x })
    | some (.cls c) =>
      if c.builtin then failAttribute v name
      else changeHeap (·.modifyClass a fun c => { c with attrs := c.attrs.set name x })
    | _ => failAttribute v name
  | _ => failAttribute v name

/-- Deletes an attribute of an instance or class. -/
def deleteAttribute (v : Value) (name : String) : M σ Unit := do
  match v with
  | .ref a =>
    match (← getHeap).get? a with
    | some (.inst i) =>
      if i.attrs.contains name then
        changeHeap (·.modifyInstance a fun i => { i with attrs := i.attrs.erase name })
      else failAttribute v name
    | some (.cls c) =>
      if c.attrs.contains name then
        changeHeap (·.modifyClass a fun c => { c with attrs := c.attrs.erase name })
      else failAttribute v name
    | _ => failAttribute v name
  | _ => failAttribute v name

end Stepwise
