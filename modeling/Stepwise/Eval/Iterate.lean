import Stepwise.Eval.Call
import Stepwise.Number.Range

/-!
# Iteration

The items of a value, one after the other. Strings give their characters, dictionaries their keys;
an instance says by `__iter__` what its items are, or by `__next__` which one comes next.
-/

namespace Stepwise

variable {σ : Type} (r : Runner σ)

/-- Calls `__next__` until it raises `StopIteration`, at most `fuel` times. -/
def drain (iterator : Value) : (fuel : Nat) → (items : List Value) → M σ (List Value)
  | 0, _ => throw .outOfFuel
  | fuel + 1, items => do
    match ← attempt (callSpecial r iterator "__next__" []) with
    | .ok (some v) => drain iterator fuel (v :: items)
    | .ok none => failType .notIterator iterator
    | .error e =>
      if e.fault.kind = "StopIteration" then return items.reverse else rethrow e

/-- The items of an instance. -/
def itemsOfInstance (v : Value) : M σ (List Value) := do
  match ← callSpecial r v "__iter__" [] with
  | some iterator =>
    if iterator.identical v then drain r iterator r.bound [] else r.iterate iterator
  | none => failType .notIterable v

/-- The characters of a string, each a string. -/
def characters (s : String) : List Value := s.toList.map fun c => .str c.toString

/-- The items of a range. -/
def itemsOfRange (start stop step : Int) : M σ (List Value) := do
  return (← enough (walkFrom (fun n => some (rangeNext step n)) start stop step)).map .int

theorem itemsOfRange_some {start stop step : Int} {ns : List Int}
    (walked : walkFrom (fun n => some (rangeNext step n)) start stop step = some ns)
    (m : Machine σ) : itemsOfRange start stop step m = .ok (ns.map .int) m := by
  rw [itemsOfRange, walked]
  rfl

theorem itemsOfRange_none {start stop step : Int}
    (lost : walkFrom (fun n => some (rangeNext step n)) start stop step = none)
    (m : Machine σ) : itemsOfRange start stop step m = .error .outOfFuel m := by
  rw [itemsOfRange, lost]
  rfl

/-- The items of a value. -/
def itemsOf (v : Value) : M σ (List Value) := do
  match v with
  | .str s => return characters s
  | .tuple _ items => return items
  | .range start stop step => itemsOfRange start stop step
  | .ref a =>
    match (← getHeap).get? a with
    | some (.list items) => return items.toList
    | some (.dict t) | some (.set t) => return t.members
    | some (.inst _) => itemsOfInstance r v
    | _ => failType .notIterable v
  | v => failType .notIterable v

end Stepwise
