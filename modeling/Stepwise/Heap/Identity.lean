import Stepwise.Heap.Class

/-!
# Identities and types

The number that tells an object from others, the type of a value, and whether a value is of a
type.
-/

namespace Stepwise

/-! ### Numbers of values -/

/-- Mixes a number into another one of 62 bits. -/
def stir (h n : Nat) : Nat := (h * 0x5851f42d4c957f2d + n + 1) % 0x4000000000000000

/-- Mixes an integer into a number. -/
def stirInt (h : Nat) (n : Int) : Nat := stir h (n.emod 0x10000000000000000).toNat

namespace Key

mutual

/-- Mixes a key into a number. -/
def stirInto (h : Nat) : Key → Nat
  | none => stir h 1
  | int n => stirInt (stir h 2) n
  | float bits => stir (stir h 3) bits.toNat
  | str s => s.foldl (fun h c => stir h c.toNat) (stir h 4)
  | tuple items => stirAll (stir h 5) items
  | range start stop step => stirInt (stirInt (stirInt (stir h 6) start) stop) step
  | builtin b => b.name.foldl (fun h c => stir h c.toNat) (stir h 7)
  | identity a => stir (stir h 8) a

/-- Mixes some keys into a number. -/
def stirAll (h : Nat) : List Key → Nat
  | [] => stir h 0
  | k :: ks => stirAll (stirInto h k) ks

end

end Key

namespace Heap

/-- The number of a value: the address of an object, and for other values one that depends only on
the key. -/
def identity (h : Heap) (v : Value) : Int :=
  match v.address? with
  | some a => a
  | none => match h.key? v with
    | some k => k.stirInto 0
    | none => stir 0 9

/-! ### Types -/

/-- The type of a value: a built-in type, or the class of an instance. -/
def typeOf (h : Heap) (v : Value) : Value :=
  match v with
  | .bool _ => .builtin .bool
  | .int _ => .builtin .int
  | .float _ => .builtin .float
  | .str _ => .builtin .str
  | .tuple _ _ => .builtin .tuple
  | .range _ _ _ => .builtin .range
  | .ref a =>
    match h.get? a with
    | some (.list _) => .builtin .list
    | some (.dict _) => .builtin .dict
    | some (.set _) => .builtin .set
    | some (.inst i) => .ref i.cls
    | some (.cls _) => .builtin .type
    | _ => .builtin .object
  | .builtin b => .builtin (if b.isType then .type else .object)
  | .none => .builtin .object

/-- Whether a value is a type. -/
def isTypeValue (h : Heap) : Value → Bool
  | .builtin b => b.isType
  | .ref a => (h.class? a).isSome
  | _ => false

/-- Whether a value is of a built-in type. -/
def isOfBuiltin (h : Heap) (v : Value) (b : Builtin) : Bool :=
  match b with
  | .object => true
  | .int => match v with
    | .int _ | .bool _ => true
    | _ => false
  | .type => h.isTypeValue v
  | b => (h.typeOf v).identical (.builtin b)

mutual

/-- Whether a value is of a type, or of one of the types in a tuple; none if something in the way of
the answer is no type. -/
def isOfType? (h : Heap) (v : Value) : Value → Option Bool
  | .tuple _ types => isOfOneType? h v types
  | .builtin b => if b.isType then some (h.isOfBuiltin v b) else none
  | .ref a =>
    if (h.class? a).isSome then some ((h.classOf? v).any (h.isSubclass · a)) else none
  | _ => none

/-- Whether a value is of one of some types. -/
def isOfOneType? (h : Heap) (v : Value) : List Value → Option Bool
  | [] => some false
  | t :: ts =>
    match isOfType? h v t with
    | some false => isOfOneType? h v ts
    | answer => answer

end

end Heap

end Stepwise
