import Stepwise.Heap.Ordered
import Stepwise.Heap.Value
import Stepwise.Script.Tree

/-!
# Objects

What lives on the heap: containers, instances and their classes, functions with the scope they
were made in, bound methods, modules, and the scopes themselves.

## The model

What tables compare when they look something up are keys. Values that are equal as numbers have one
key, so `1`, `1.0` and `True` find the same entry; objects with an identity are their own key.
-/

namespace Stepwise

open Script

/-! ### Keys -/

/-- A key. -/
inductive Key where
  | none
  | int (n : Int)
  /-- A number that is no integer, by its bits. -/
  | float (bits : UInt64)
  | str (s : String)
  | tuple (items : List Key)
  | range (start stop step : Int)
  | builtin (b : Builtin)
  | identity (a : Address)
  deriving Inhabited

namespace Key

mutual

/-- Whether two keys are the same. -/
def same : Key → Key → Bool
  | none, none => true
  | int a, int b => a == b
  | float a, float b => a == b
  | str a, str b => a == b
  | tuple as, tuple bs => allSame as bs
  | range a b c, range a' b' c' => a == a' && b == b' && c == c'
  | builtin a, builtin b => a == b
  | identity a, identity b => a == b
  | _, _ => false

/-- Whether two lists of keys are the same. -/
def allSame : List Key → List Key → Bool
  | [], [] => true
  | a :: as, b :: bs => same a b && allSame as bs
  | _, _ => false

end

mutual

theorem same_self : ∀ a : Key, same a a = true
  | none => rfl
  | int _ | float _ | str _ | range _ _ _ | builtin _ | identity _ => by simp [same]
  | tuple as => by simp [same, allSame_self as]

theorem allSame_self : ∀ as : List Key, allSame as as = true
  | [] => rfl
  | a :: as => by simp [allSame, same_self a, allSame_self as]

end

mutual

theorem eq_of_same : ∀ a b : Key, same a b = true → a = b
  | tuple as, b, h => by
    cases b with
    | tuple bs => rw [allSame_eq as bs (by simpa [same] using h)]
    | _ => simp [same] at h
  | none, b, h | int _, b, h | float _, b, h | str _, b, h | range _ _ _, b, h
  | builtin _, b, h | identity _, b, h => by cases b <;> simp_all [same]

theorem allSame_eq : ∀ as bs : List Key, allSame as bs = true → as = bs
  | [], bs, h => by cases bs <;> simp_all [allSame]
  | a :: as, bs, h => by
    cases bs with
    | nil => simp [allSame] at h
    | cons b bs =>
      simp only [allSame, Bool.and_eq_true] at h
      rw [eq_of_same a b h.1, allSame_eq as bs h.2]

end

theorem same_iff {a b : Key} : same a b = true ↔ a = b :=
  ⟨eq_of_same a b, fun h => h ▸ same_self a⟩

instance : DecidableEq Key := fun _ _ => decidable_of_iff _ same_iff

end Key

/-! ### Tables -/

/-- Names and their values, oldest first. -/
abbrev Namespace := Ordered String Value

/-- What a dictionary or set holds: by the key of an entry, the key as it was first given and the
value. The members of a set are keys with the value `None`. -/
abbrev Table := Ordered Key (Value × Value)

namespace Table

/-- The value of an entry. -/
def value? (t : Table) (k : Key) : Option Value := (t.get? k).map (·.2)

/-- Gives an entry a value; an entry that is there keeps its key as it was first given. -/
def insert (t : Table) (hash : Key) (key value : Value) : Table :=
  match t.get? hash with
  | some (first, _) => t.set hash (first, value)
  | none => t.set hash (key, value)

/-- Makes a key a member, unless it is one. -/
def add (t : Table) (hash : Key) (key : Value) : Table :=
  if t.contains hash then t else t.set hash (key, .none)

/-- The entries, oldest first. -/
def pairs (t : Table) : List (Value × Value) := t.values

/-- The keys as they were first given, oldest first. -/
def members (t : Table) : List Value := t.values.map (·.1)

/-- The table of those entries whose key satisfies `p`, as members. -/
def filtered (t : Table) (p : Key → Bool) : Table :=
  (t.filter p).mapValues fun e => (e.1, .none)

/-- Members of both, `left` first. -/
def union (left right : Table) : Table :=
  right.entries.foldl (fun t e => t.add e.1 e.2.1) (left.filtered fun _ => true)

/-- Members of `left` that are members of `right`. -/
def intersection (left right : Table) : Table := left.filtered right.contains

/-- Members of `left` that are no members of `right`. -/
def difference (left right : Table) : Table := left.filtered (!right.contains ·)

/-- Members of exactly one of the two, those of `left` first. -/
def symmetricDifference (left right : Table) : Table :=
  union (difference left right) (difference right left)

/-- Whether all members of `small` are members of `big`. -/
def isSubset (small big : Table) : Bool := small.keys.all big.contains

end Table

/-- An object of a class; an exception also keeps the arguments it was made with. -/
structure Instance where
  /-- Its class. -/
  cls : Address
  /-- Its attributes. -/
  attrs : Namespace
  /-- The arguments of an exception. -/
  args : List Value

/-- A class. -/
structure Class where
  /-- Its name. -/
  name : String
  /-- The classes it was derived from. -/
  bases : List Address
  /-- The classes in which attributes are looked up, in that order; itself first. -/
  mro : List Address
  /-- What its body has bound. -/
  attrs : Namespace
  /-- Whether it is one of the built-in exception classes. -/
  builtin : Bool

/-- A function of a script, with what it has taken along from where it was made. -/
structure Closure where
  /-- Its definition. -/
  definition : FunctionDef
  /-- The values of its defaults, parameter by parameter. -/
  defaults : List (Option Value)
  /-- The scope around it, unless that is the module. -/
  scope : Option Address
  /-- The class in whose body it was made. -/
  owner : Option Address

/-- Bindings, and the scope in which names are looked up next. -/
structure Scope where
  /-- The bindings. -/
  vars : Namespace
  /-- The scope of the function around. -/
  parent : Option Address

/-- A module that has been imported. -/
structure Module where
  /-- Its name. -/
  name : String
  /-- What it provides. -/
  attrs : Namespace

/-- What an address stands for. -/
inductive Object where
  | list (items : Array Value)
  | dict (table : Table)
  | set (table : Table)
  | inst (i : Instance)
  | cls (c : Class)
  | func (f : Closure)
  | boundMethod (receiver : Value) (function : Address)
  /-- A built-in method and the value it was taken from. -/
  | nativeMethod (receiver : Value) (name : String)
  /-- The classes behind `cls` in the order of `receiver`. -/
  | super (cls : Address) (receiver : Value)
  | module (m : Module)
  | scope (s : Scope)

end Stepwise
